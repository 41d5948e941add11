import Vi53xx.Lib.IndexRecords

/-! When two boards share an index, and when an index stays taken that no board
holds. `release_idx` frees index 0 for a board that has none, and `free_board_info`
forgets all boards but frees the index of one. -/

set_option autoImplicit false

namespace Vi53xx.Lib

open Foundation

variable {state next : LibState} {boardId : BitVec 32}
  {bitmap : Fin bitmapSize → BitVec 8} {id : Fin maxDevHandle}

/-! ## Boards that share an index -/

def DistinctIndices (state : LibState) : Prop :=
  ∀ first second left right, state.devBoardidToIdxList first = some left →
    state.devBoardidToIdxList second = some right → left.boardId ≠ right.boardId →
      left.idx ≠ right.idx

/-- A board that is registered while another one holds index 0 finds the bit of
index 0 set and some other bit clear. -/
def SparesZero (state : LibState) (call : LibCall) : Prop :=
  Registers state call → (∃ slot, state.devBoardidToIdxList.freeSlot maxDevHandle = some slot) →
    (∃ slot entry, state.devBoardidToIdxList slot = some entry ∧ entry.idx = 0) →
      idBit state.idBitmap 0 = true ∧ ∃ id, idBit state.idBitmap id = false

/-- An index other than 0 that is in the list has its bit set. -/
structure Marked (state : LibState) : Prop where
  recorded : Recorded state
  marked : ∀ slot entry id, state.devBoardidToIdxList slot = some entry →
    entry.idx = (id : Fin maxDevHandle).val → id ≠ 0 → idBit state.idBitmap id = true

theorem Marked.empty (list : state.devBoardidToIdxList = Slots.empty) : Marked state := by
  refine ⟨Recorded.empty list, ?_⟩
  intro slot entry id held
  rw [list] at held
  cases held

theorem DistinctIndices.empty (list : state.devBoardidToIdxList = Slots.empty) :
    DistinctIndices state := by
  intro first second left right held
  rw [list] at held
  cases held

theorem Marked.closed (marked : Marked state) (distinct : DistinctIndices state)
    (idBitmap : next.idBitmap = destroyId (getIdxOrZero state boardId) state.idBitmap)
    (list : next.devBoardidToIdxList =
      state.devBoardidToIdxList.release fun entry => entry.boardId == boardId) :
    DistinctIndices next ∧ Marked next := by
  have kept : ∀ slot entry, next.devBoardidToIdxList slot = some entry →
      state.devBoardidToIdxList slot = some entry ∧ entry.boardId ≠ boardId := by
    intro slot entry held
    rw [list] at held
    simpa using Slots.release_eq_some_iff.mp held
  refine ⟨?_, marked.recorded.step (.closed idBitmap list), ?_⟩
  · intro first second left right held there
    exact distinct first second left right (kept first left held).1 (kept second right there).1
  · intro slot entry id held named nonzero
    obtain ⟨before, different⟩ := kept slot entry held
    have set := marked.marked slot entry id before named nonzero
    -- The bit that is cleared is that of another board, or of index 0.
    have spared : (id.val : Int) ≠ getIdxOrZero state boardId := by
      cases found : findIdx state boardId with
      | none =>
          have answer : getIdxOrZero state boardId = 0 := by simp [getIdxOrZero, found]
          have value : id.val ≠ 0 := fun zero => nonzero (Fin.ext zero)
          omega
      | some other =>
          have answer : getIdxOrZero state boardId = other.idx := by simp [getIdxOrZero, found]
          obtain ⟨place, _, there, matched⟩ := Slots.lookup_some found
          have matched : other.boardId = boardId := by simpa using matched
          have apart := distinct slot place entry other before there (by rw [matched]; exact different)
          omega
    rw [idBitmap, idBit_destroyId, set]
    simpa using spared

theorem Taken.grows {idx : Int} {after : Fin bitmapSize → BitVec 8} (taken : Taken bitmap idx after)
    (set : idBit bitmap id = true) : idBit after id = true := by
  cases taken with
  | none _ same => rw [same, set]
  | first clear before others => rw [others, set, Bool.true_or]

/-- The index for a new board is in the list only when it is 0, which is also the
answer of a bitmap without a clear bit. -/
theorem Marked.fresh {idx : Int} {after : Fin bitmapSize → BitVec 8} {slot place : Fin maxDevHandle}
    {entry : BoardidToIdx} (marked : Marked state) (spares : SparesZero state (.getIdx true boardId))
    (absent : findIdx state boardId = none) (taken : Taken state.idBitmap idx after)
    (free : state.devBoardidToIdxList.freeSlot maxDevHandle = some slot)
    (held : state.devBoardidToIdxList place = some entry) : entry.idx ≠ idx := by
  intro same
  obtain ⟨id, named⟩ := marked.recorded.inRange place entry held
  have guarded := spares ⟨rfl, absent⟩ ⟨slot, free⟩
  cases taken with
  | none full =>
      obtain ⟨_, clear, unset⟩ := guarded ⟨place, entry, held, same⟩
      simp [full clear] at unset
  | @first taken _ clear before after =>
      have same : id = taken := Fin.ext (by omega)
      subst same
      by_cases zero : id = 0
      · subst zero
        obtain ⟨set, _⟩ := guarded ⟨place, entry, held, named⟩
        rw [clear] at set
        cases set
      · rw [marked.marked place entry id held named zero] at clear
        cases clear

theorem DistinctIndices.store {idx : Int} {slot : Fin maxDevHandle} (distinct : DistinctIndices state)
    (fresh : ∀ place entry, state.devBoardidToIdxList place = some entry → entry.idx ≠ idx)
    (list : next.devBoardidToIdxList = state.devBoardidToIdxList.store slot ⟨idx, boardId⟩) :
    DistinctIndices next := by
  intro first second left right held there different
  rw [list] at held there
  rcases Slots.store_eq_some_iff.mp held with ⟨_, rfl⟩ | ⟨_, before⟩ <;>
    rcases Slots.store_eq_some_iff.mp there with ⟨_, rfl⟩ | ⟨_, after⟩
  · exact absurd rfl different
  · exact (fresh second right after).symm
  · exact fresh first left before
  · exact distinct first second left right before after different

theorem DistinctIndices.spares {idx : Int} {slot : Fin maxDevHandle} (distinct : DistinctIndices next)
    (absent : findIdx state boardId = none) (taken : Taken state.idBitmap idx next.idBitmap)
    (free : state.devBoardidToIdxList.freeSlot maxDevHandle = some slot)
    (list : next.devBoardidToIdxList = state.devBoardidToIdxList.store slot ⟨idx, boardId⟩) :
    SparesZero state (.getIdx true boardId) := by
  rintro - - ⟨place, entry, held, zero⟩
  have apart : place ≠ slot := by
    rintro rfl
    rw [(Slots.freeSlot_some free).2] at held
    cases held
  have old : next.devBoardidToIdxList place = some entry := by
    rw [list, Slots.store_other apart, held]
  have new : next.devBoardidToIdxList slot = some ⟨idx, boardId⟩ := by
    rw [list]
    exact Slots.store_same
  have different := distinct place slot entry ⟨idx, boardId⟩ old new
    (absent_of_findIdx absent place entry held)
  cases taken with
  | none full => exact absurd zero different
  | @first id _ clear before after =>
      have nonzero : 0 < id := by
        refine Fin.pos_iff_ne_zero.mpr ?_
        rintro rfl
        exact different zero
      exact ⟨before 0 nonzero, id, clear⟩

theorem Marked.stored {idx : Int} {slot : Fin maxDevHandle} (marked : Marked state)
    (absent : findIdx state boardId = none) (taken : Taken state.idBitmap idx next.idBitmap)
    (free : state.devBoardidToIdxList.freeSlot maxDevHandle = some slot)
    (list : next.devBoardidToIdxList = state.devBoardidToIdxList.store slot ⟨idx, boardId⟩) :
    Marked next := by
  refine ⟨marked.recorded.step (.stored absent taken free list), ?_⟩
  intro place entry id held named nonzero
  rw [list] at held
  rcases Slots.store_eq_some_iff.mp held with ⟨_, rfl⟩ | ⟨_, before⟩
  · cases taken with
    | none =>
        have value : id.val ≠ 0 := fun zero => nonzero (Fin.ext zero)
        dsimp only at named
        omega
    | @first taken _ clear before after =>
        have same : id = taken := Fin.ext (by dsimp only at named; omega)
        simp [after, same]
  · exact taken.grows (marked.marked place entry id before named nonzero)

theorem Marked.step {call : LibCall} (marked : Marked state) (distinct : DistinctIndices state)
    (reindexed : Reindexed state next call) :
    (DistinctIndices next ↔ SparesZero state call) ∧ (DistinctIndices next → Marked next) := by
  have recorded := marked.recorded.step reindexed
  cases reindexed with
  | kept unregistered _ idBitmap list =>
      have same : DistinctIndices next := by
        rw [DistinctIndices, list]
        exact distinct
      refine ⟨iff_of_true same fun registers => absurd registers unregistered, fun _ => ⟨recorded, ?_⟩⟩
      rw [idBitmap, list]
      exact marked.marked
  | reset unregistered _ _ list =>
      exact ⟨iff_of_true (DistinctIndices.empty list) fun registers => absurd registers unregistered,
        fun _ => Marked.empty list⟩
  | freed _ list =>
      exact ⟨iff_of_true (DistinctIndices.empty list) fun registers => registers.elim,
        fun _ => Marked.empty list⟩
  | closed idBitmap list =>
      obtain ⟨apart, kept⟩ := marked.closed distinct idBitmap list
      exact ⟨iff_of_true apart fun registers => registers.elim, fun _ => kept⟩
  | stored absent taken free list =>
      refine ⟨⟨fun apart => apart.spares absent taken free list, ?_⟩,
        fun _ => marked.stored absent taken free list⟩
      intro spares
      exact distinct.store (fun place entry held => marked.fresh spares absent taken free held) list
  | unstored absent taken full list =>
      have same : DistinctIndices next := by
        rw [DistinctIndices, list]
        exact distinct
      refine ⟨iff_of_true same ?_, fun _ => ⟨recorded, ?_⟩⟩
      · rintro - ⟨slot, free⟩
        rw [full] at free
        cases free
      · intro slot entry id held named nonzero
        rw [list] at held
        exact taken.grows (marked.marked slot entry id held named nonzero)

theorem completes_of_registers {call : LibCall} (registers : Registers state call) :
    ∃ after, libStep state call = some after := by
  cases call with
  | getIdx mallocOk boardId => exact ⟨_, rfl⟩
  | call | cfgInit => cases registers

/-- From `init_config` on, no two boards share an index exactly as long as no board
is registered beside one with index 0 while bit 0 is clear or every bit is set. -/
theorem indices_distinct_iff {before : LibState} {calls : List LibCall} :
    Throughout libStep DistinctIndices (initConfig before) calls ↔
      EachStep libStep SparesZero (initConfig before) calls := by
  have unguarded : EachStep libStep (fun _ _ => True) (initConfig before) calls :=
    eachStep_of_forall fun _ _ => trivial
  refine throughout_iff_eachStep ?_ ?_ (Marked.empty rfl) (DistinctIndices.empty rfl) unguarded
  · intro state call next marked distinct _ stepped
    exact Marked.step marked distinct (libStep_reindexed stepped)
  · intro state call _ _ _ stuck registers
    obtain ⟨after, stepped⟩ := completes_of_registers registers
    rw [stepped] at stuck
    cases stuck

/-- The close of board 2, which has no index, frees the index of board 1. -/
theorem close_frees_other_index :
    ∃ final, runFrom libStep (initConfig LibState.loaded)
        [.getIdx true 1, .call (.deviceClose 2), .getIdx true 3] = some final ∧
      ¬ DistinctIndices final := by
  have seen : (runFrom libStep (initConfig LibState.loaded)
      [.getIdx true 1, .call (.deviceClose 2), .getIdx true 3]).map (fun final =>
        (final.devBoardidToIdxList 0, final.devBoardidToIdxList 1)) =
      some (some ⟨0, 1⟩, some ⟨0, 3⟩) := by decide +kernel
  obtain ⟨final, ran, observed⟩ := Option.map_eq_some_iff.mp seen
  obtain ⟨first, second⟩ := Prod.mk.inj observed
  exact ⟨final, ran, fun distinct => distinct 0 1 _ _ first second (by decide) rfl⟩

/-! ## Indices that no board holds -/

def Held (state : LibState) (id : Fin maxDevHandle) : Prop :=
  ∃ slot entry, state.devBoardidToIdxList slot = some entry ∧ entry.idx = id.val

def NoLeak (state : LibState) : Prop :=
  ∀ id, idBit state.idBitmap id = true → Held state id

/-- `free_board_info` meets no set bit but that of its board, and a board that finds
the list full finds the first clear bit to be the index of some entry. -/
def ReturnsAll (state : LibState) : LibCall → Prop
  | .call (.freeBoards boardId) =>
      ∀ id, idBit state.idBitmap id = true → (id.val : Int) = getIdxOrZero state boardId
  | .getIdx mallocOk boardId => Registers state (.getIdx mallocOk boardId) →
      state.devBoardidToIdxList.freeSlot maxDevHandle = none →
        ∀ id, idBit state.idBitmap id = false →
          (∀ earlier, earlier < id → idBit state.idBitmap earlier = true) → Held state id
  | _ => True

theorem returnsAll_of_quiet {call : LibCall} (unregistered : ¬ Registers state call)
    (notFree : ¬ IsFree call) : ReturnsAll state call := by
  cases call with
  | cfgInit => trivial
  | getIdx => exact fun registers => absurd registers unregistered
  | call call =>
      cases call with
      | checkBoards | deviceOpen | deviceClose => trivial
      | freeBoards => exact absurd trivial notFree

theorem NoLeak.closed (noLeak : NoLeak state) (recorded : Recorded state)
    (idBitmap : next.idBitmap = destroyId (getIdxOrZero state boardId) state.idBitmap)
    (list : next.devBoardidToIdxList =
      state.devBoardidToIdxList.release fun entry => entry.boardId == boardId) : NoLeak next := by
  intro id set
  rw [idBitmap, idBit_destroyId] at set
  obtain ⟨before, spared⟩ := (Bool.and_eq_true _ _).mp set
  obtain ⟨slot, entry, held, named⟩ := noLeak id before
  have different : entry.boardId ≠ boardId := by
    rintro rfl
    rw [recorded.getIdxOrZero_eq held, named] at spared
    simp at spared
  refine ⟨slot, entry, ?_, named⟩
  rw [list]
  exact Slots.release_eq_some_iff.mpr ⟨held, by simpa using different⟩

theorem NoLeak.stored {idx : Int} {slot : Fin maxDevHandle} (noLeak : NoLeak state)
    (taken : Taken state.idBitmap idx next.idBitmap)
    (free : state.devBoardidToIdxList.freeSlot maxDevHandle = some slot)
    (list : next.devBoardidToIdxList = state.devBoardidToIdxList.store slot ⟨idx, boardId⟩) :
    NoLeak next := by
  intro id set
  have old : idBit state.idBitmap id = true → Held next id := by
    intro before
    obtain ⟨place, entry, held, named⟩ := noLeak id before
    have apart : place ≠ slot := by
      rintro rfl
      rw [(Slots.freeSlot_some free).2] at held
      cases held
    exact ⟨place, entry, by rw [list, Slots.store_other apart, held], named⟩
  cases taken with
  | none _ same =>
      rw [same] at set
      exact old set
  | @first taken _ clear before after =>
      rw [after, Bool.or_eq_true, decide_eq_true_eq] at set
      rcases set with before | rfl
      · exact old before
      · exact ⟨slot, _, by rw [list]; exact Slots.store_same, rfl⟩

theorem NoLeak.unstored_iff {idx : Int} (noLeak : NoLeak state)
    (absent : findIdx state boardId = none) (taken : Taken state.idBitmap idx next.idBitmap)
    (full : state.devBoardidToIdxList.freeSlot maxDevHandle = none)
    (list : next.devBoardidToIdxList = state.devBoardidToIdxList) :
    NoLeak next ↔ ReturnsAll state (.getIdx true boardId) := by
  have same : ∀ id, Held next id ↔ Held state id := by
    intro id
    rw [Held, Held, list]
  constructor
  · intro returned _ _ id clear before
    cases taken with
    | none set => simp [set id] at clear
    | @first taken _ unset sooner after =>
        have first : id = taken := by
          rcases lt_trichotomy id taken with low | rfl | high
          · simp [sooner id low] at clear
          · rfl
          · simp [before taken high] at unset
        refine (same id).mp (returned id ?_)
        simp [after, first]
  · intro returns id set
    refine (same id).mpr ?_
    cases taken with
    | none _ unchanged =>
        rw [unchanged] at set
        exact noLeak id set
    | @first taken _ unset sooner after =>
        rw [after, Bool.or_eq_true, decide_eq_true_eq] at set
        rcases set with before | rfl
        · exact noLeak id before
        · exact returns ⟨rfl, absent⟩ full id unset sooner

theorem NoLeak.step {call : LibCall} (noLeak : NoLeak state) (recorded : Recorded state)
    (reindexed : Reindexed state next call) : NoLeak next ↔ ReturnsAll state call := by
  cases reindexed with
  | kept unregistered notFree idBitmap list =>
      have same : NoLeak next := by
        intro id set
        rw [idBitmap] at set
        rw [Held, list]
        exact noLeak id set
      exact iff_of_true same (returnsAll_of_quiet unregistered notFree)
  | reset unregistered notFree idBitmap list =>
      have cleared : NoLeak next := by
        intro id set
        rw [idBitmap id] at set
        cases set
      exact iff_of_true cleared (returnsAll_of_quiet unregistered notFree)
  | closed idBitmap list => exact iff_of_true (noLeak.closed recorded idBitmap list) trivial
  | stored absent taken free list =>
      refine iff_of_true (noLeak.stored taken free list) ?_
      intro _ full
      rw [free] at full
      cases full
  | unstored absent taken full list => exact noLeak.unstored_iff absent taken full list
  | @freed boardId idBitmap list =>
      have unheld : ∀ id, ¬ Held next id := by
        rintro id ⟨slot, entry, held, _⟩
        rw [list] at held
        cases held
      constructor
      · intro returned id set
        by_contra different
        refine unheld id (returned id ?_)
        rw [idBitmap, idBit_destroyId, set]
        simpa using different
      · intro returns id set
        rw [idBitmap, idBit_destroyId] at set
        obtain ⟨before, spared⟩ := (Bool.and_eq_true _ _).mp set
        simp [returns id before] at spared

theorem returnsAll_of_stuck {call : LibCall} (stuck : libStep state call = none) :
    ReturnsAll state call := by
  cases call with
  | cfgInit => trivial
  | getIdx => cases stuck
  | call call =>
      cases call with
      | checkBoards | deviceOpen | deviceClose => trivial
      | freeBoards => cases stuck

/-- From `init_config` on, every set bit is the index of a board exactly as long as
`free_board_info` drops no board but the one it names and no board finds the list
full with an unused bit. -/
theorem no_leak_iff {before : LibState} {calls : List LibCall} :
    Throughout libStep NoLeak (initConfig before) calls ↔
      EachStep libStep ReturnsAll (initConfig before) calls := by
  have unguarded : EachStep libStep (fun _ _ => True) (initConfig before) calls :=
    eachStep_of_forall fun _ _ => trivial
  have start : Recorded (initConfig before) := Recorded.empty rfl
  refine throughout_iff_eachStep ?_ ?_ start ?_ unguarded
  · intro state call next recorded noLeak _ stepped
    have reindexed := libStep_reindexed stepped
    exact ⟨noLeak.step recorded reindexed, fun _ => recorded.step reindexed⟩
  · intro state call _ _ _ stuck
    exact returnsAll_of_stuck stuck
  · intro id set
    have clear : idBit (initConfig before).idBitmap id = false := idBit_cleared
    rw [clear] at set
    cases set

/-- Freeing the table for board 1 forgets board 2 and leaves its bit set. -/
theorem free_leaks_other_index :
    ∃ final, runFrom libStep (initConfig LibState.loaded)
        [.getIdx true 1, .getIdx true 2, .call (.freeBoards 1)] = some final ∧
      ¬ NoLeak final := by
  have seen : (runFrom libStep (initConfig LibState.loaded)
      [.getIdx true 1, .getIdx true 2, .call (.freeBoards 1)]).map (fun final =>
        (idBit final.idBitmap 1, final.devBoardidToIdxList.occupied)) = some (true, 0) := by
    decide +kernel
  obtain ⟨final, ran, observed⟩ := Option.map_eq_some_iff.mp seen
  obtain ⟨set, unused⟩ := Prod.mk.inj observed
  refine ⟨final, ran, ?_⟩
  intro noLeak
  obtain ⟨slot, entry, held, _⟩ := noLeak 1 set
  rw [Slots.occupied_eq_zero_iff.mp unused slot] at held
  cases held

end Vi53xx.Lib
