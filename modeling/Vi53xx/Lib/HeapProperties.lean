import Vi53xx.Lib.Heap
import Vi53xx.Lib.IndexRecords

/-! The memory of a process over its calls of the library: nothing is freed twice or while
it is in use, and what is neither in use nor freed has been lost by a call that forgets it. -/

set_option autoImplicit false

namespace Vi53xx.Lib

open Foundation

/-- What the pointers of the library point to. -/
def Heap.held (heap : Heap) : List Nat :=
  heap.boardInfo.toList ++ heap.boardErrorInfo.toList ++
    (heap.devHandleList.entries ++ heap.devBoardidToIdxList.entries)

/-- The memory accounts for everything: blocks are in use, freed or among the lost ones. -/
structure Heap.Sound (heap : Heap) (lost : List Nat) : Prop where
  numbered : heap.ledger.taken = List.range heap.mallocs
  accounts : heap.ledger.Accounts (heap.held ++ lost)

/-- A pointer is set where the record that it points to is there, and the tables are gone
when a check is due. -/
structure Heap.Backs (heap : Heap) (state : LibState) : Prop where
  handles : ∀ slot, (heap.devHandleList slot).isSome = (state.devHandleList slot).isSome
  indices : ∀ slot, (heap.devBoardidToIdxList slot).isSome = (state.devBoardidToIdxList slot).isSome
  tables : state.initCheckOk = false → heap.boardInfo = none ∧ heap.boardErrorInfo = none

/-- No board has a handle or an index. -/
structure Unlisted (state : LibState) : Prop where
  handles : ∀ slot, state.devHandleList slot = none
  indices : ∀ slot, state.devBoardidToIdxList slot = none

/-- A handle that the open allocates has a slot. -/
def OpenPlaces (env : OpenEnv) (state : LibState) (boardId : BitVec 32) : Prop :=
  ∀ boards, searchedBoards state = .ok boards → 0 ≤ env.openFile (devicePath boards boardId) →
    getAvailableBoardCount state ≠ 0 → getDevHandle state boardId = none → env.mallocOk = true →
      (state.devHandleList.freeSlot (getAvailableBoardCount state).toNat).isSome = true

/-- The call forgets no block. -/
def KeepsMemory (state : LibState) : LibCall → Prop
  | .call (.checkBoards _) => state.initCheckOk = true ∨ Unlisted state
  | .call (.deviceOpen env boardId) => OpenPlaces env state boardId
  | .call (.deviceClose _) => True
  | .call (.freeBoards _) => Unlisted state
  | .cfgInit _ env boardId => (state.initCheckOk = true ∨ Unlisted state) ∧
      ∀ checked, checkBoardsInfo env.check state = .ok (0, checked) →
        OpenPlaces env.device checked boardId
  | .getIdx mallocOk boardId => Registers state (.getIdx mallocOk boardId) →
      (state.devBoardidToIdxList.freeSlot maxDevHandle).isSome = true

variable {heap : Heap} {state next : LibState} {lost : List Nat} {boardId : BitVec 32}

namespace Heap

/-! ## Blocks -/

theorem Sound.perm {other : Heap} {left : List Nat} (sound : heap.Sound lost)
    (mallocs : other.mallocs = heap.mallocs) (ledger : other.ledger = heap.ledger)
    (same : (heap.held ++ lost).Perm (other.held ++ left)) : other.Sound left := by
  refine ⟨by rw [ledger, mallocs, sound.numbered], ?_⟩
  rw [ledger]
  exact sound.accounts.perm same

/-- A block that `malloc` gives out is in use as soon as a pointer to it is kept. -/
theorem Sound.take {kept : Heap} {left : List Nat} (sound : heap.Sound lost)
    (mallocs : kept.mallocs = heap.malloc.2.mallocs) (ledger : kept.ledger = heap.malloc.2.ledger)
    (placed : (kept.held ++ left).Perm (heap.mallocs :: (heap.held ++ lost))) : kept.Sound left := by
  constructor
  · rw [ledger, mallocs, malloc, Ledger.take, sound.numbered, List.range_succ]
  · rw [ledger]
    exact (sound.accounts.take [heap.mallocs]).perm placed.symm

theorem Sound.release {kept : Heap} {left gone : List Nat} (sound : heap.Sound lost)
    (mallocs : kept.mallocs = heap.mallocs) (ledger : kept.ledger = heap.ledger.giveBack gone)
    (split : (heap.held ++ lost).Perm (gone ++ (kept.held ++ left))) : kept.Sound left := by
  refine ⟨by rw [ledger, mallocs, ← sound.numbered, Ledger.giveBack], ?_⟩
  rw [ledger]
  exact (sound.accounts.perm split).giveBack gone

theorem Sound.freeMem (sound : heap.Sound lost) : heap.freeMem.Sound lost := by
  refine sound.release rfl rfl ?_
  simp [held, Heap.freeMem, Heap.free]

/-- Setting the lists to NULL loses what they point to. -/
theorem Sound.initConfig (sound : heap.Sound lost) :
    heap.initConfig.Sound
      (lost ++ (heap.devHandleList.entries ++ heap.devBoardidToIdxList.entries)) := by
  refine sound.perm rfl rfl ?_
  rw [List.perm_iff_count]
  intro block
  simp only [held, Heap.initConfig, Slots.entries_empty, List.count_append, List.count_nil]
  omega

theorem Sound.releaseDevHandle (sound : heap.Sound lost) :
    (heap.releaseDevHandle state boardId).Sound lost := by
  refine sound.release rfl rfl ?_
  have split := List.perm_iff_count.mp (@Slots.entries_select _ _ heap.devHandleList
    (released state.devHandleList fun handle => handle.boardId == boardId))
  rw [List.perm_iff_count]
  intro block
  have here := split block
  simp only [held, Heap.releaseDevHandle, Heap.free, List.count_append] at here ⊢
  omega

theorem Sound.releaseIdx (sound : heap.Sound lost) : (heap.releaseIdx state boardId).Sound lost := by
  refine sound.release rfl rfl ?_
  have split := List.perm_iff_count.mp (@Slots.entries_select _ _ heap.devBoardidToIdxList
    (released state.devBoardidToIdxList fun entry => entry.boardId == boardId))
  rw [List.perm_iff_count]
  intro block
  have here := split block
  simp only [held, Heap.releaseIdx, Heap.free, List.count_append] at here ⊢
  omega

theorem Sound.requstMem {env : CheckEnv} (sound : heap.Sound lost)
    (unset : heap.boardInfo = none ∧ heap.boardErrorInfo = none) :
    (heap.requstMem env).Sound lost := by
  have kept {first second : Heap} (found : first.Sound lost) (mallocs : second.mallocs = first.mallocs)
      (ledger : second.ledger = first.ledger) (same : second.held = first.held) :
      second.Sound lost := by
    refine found.perm mallocs ledger ?_
    rw [same]
  unfold Heap.requstMem
  split
  · dsimp only
    have first : Sound { heap.malloc.2 with boardInfo := some heap.malloc.1 } lost := by
      refine sound.take rfl rfl ?_
      simp [held, malloc, unset]
    split
    · refine first.take rfl rfl ?_
      rw [List.perm_iff_count]
      intro block
      simp only [held, malloc, unset, Option.toList_some, Option.toList_none, List.count_append,
        List.count_cons, List.count_nil]
      omega
    · refine kept first rfl rfl ?_
      simp [held, malloc, unset]
  · refine kept sound rfl rfl ?_
    simp [held, unset]

/-! ## The lists of boards -/

theorem Sound.storeHandle {slot : Fin maxDevHandle} (sound : heap.Sound lost)
    (empty : heap.devHandleList slot = none) :
    Sound { heap.malloc.2 with
      devHandleList := heap.devHandleList.store slot heap.mallocs } lost := by
  have stored := List.perm_iff_count.mp
    (@Slots.entries_store _ _ heap.devHandleList slot heap.mallocs empty)
  refine sound.take rfl rfl ?_
  rw [List.perm_iff_count]
  intro block
  have here := stored block
  simp only [held, malloc, List.count_append, List.count_cons] at here ⊢
  omega

theorem Sound.storeIdx {slot : Fin maxDevHandle} (sound : heap.Sound lost)
    (empty : heap.devBoardidToIdxList slot = none) :
    Sound { heap.malloc.2 with
      devBoardidToIdxList := heap.devBoardidToIdxList.store slot heap.mallocs } lost := by
  have stored := List.perm_iff_count.mp
    (@Slots.entries_store _ _ heap.devBoardidToIdxList slot heap.mallocs empty)
  refine sound.take rfl rfl ?_
  rw [List.perm_iff_count]
  intro block
  have here := stored block
  simp only [held, malloc, List.count_append, List.count_cons] at here ⊢
  omega

/-- A block that no pointer is kept to is lost at once. -/
theorem Sound.lose (sound : heap.Sound lost) : heap.malloc.2.Sound (lost ++ [heap.mallocs]) := by
  refine sound.take rfl rfl ?_
  rw [List.perm_iff_count]
  intro block
  simp only [held, malloc, List.count_append, List.count_cons, List.count_nil]
  omega

theorem Sound.openWith {env : OpenEnv} {cnt devHandle : Int} (sound : heap.Sound lost)
    (backs : heap.Backs state) :
    ∃ more, (heap.openWith env state boardId cnt devHandle).Sound (lost ++ more) ∧
      (more = [] ↔ (0 ≤ devHandle → cnt ≠ 0 →
        (state.devHandleList.lookup cnt.toNat fun handle => handle.boardId == boardId) = none →
          env.mallocOk = true → (state.devHandleList.freeSlot cnt.toNat).isSome = true)) := by
  have idle : heap.Sound (lost ++ []) := by rwa [List.append_nil]
  unfold Heap.openWith
  by_cases uncounted : cnt = 0
  · rw [if_pos uncounted]
    exact ⟨[], idle, by simp [uncounted]⟩
  · rw [if_neg uncounted]
    by_cases failed : devHandle < 0
    · rw [if_pos failed]
      exact ⟨[], idle, iff_of_true rfl fun nonnegative => absurd failed (not_lt.mpr nonnegative)⟩
    · rw [if_neg failed]
      cases found : state.devHandleList.lookup cnt.toNat fun handle => handle.boardId == boardId with
      | some handle => exact ⟨[], idle, by simp⟩
      | none =>
          cases memory : env.mallocOk with
          | false => exact ⟨[], idle, by simp⟩
          | true =>
              cases free : state.devHandleList.freeSlot cnt.toNat with
              | some slot =>
                  have empty : heap.devHandleList slot = none := by
                    have same := backs.handles slot
                    rw [(Slots.freeSlot_some free).2] at same
                    simpa using same
                  have stored := sound.storeHandle empty
                  exact ⟨[], by rwa [List.append_nil], by simp⟩
              | none => exact ⟨[heap.mallocs], sound.lose, by simp [uncounted, not_lt.mp failed]⟩

theorem Sound.vi53xxDeviceOpen {env : OpenEnv} (sound : heap.Sound lost) (backs : heap.Backs state) :
    ∃ more, (heap.vi53xxDeviceOpen env state boardId).Sound (lost ++ more) ∧
      (more = [] ↔ OpenPlaces env state boardId) := by
  unfold Heap.vi53xxDeviceOpen OpenPlaces
  cases searched : searchedBoards state with
  | error fault => exact ⟨[], by rwa [List.append_nil], by simp⟩
  | ok boards =>
      obtain ⟨more, after, none_lost⟩ := @Sound.openWith heap state lost boardId env
        (getAvailableBoardCount state) (env.openFile (devicePath boards boardId)) sound backs
      refine ⟨more, after, none_lost.trans ?_⟩
      simp only [Except.ok.injEq, forall_eq']
      rfl

theorem Sound.getIdx {mallocOk : Bool} (sound : heap.Sound lost) (backs : heap.Backs state) :
    ∃ more, (heap.getIdx mallocOk state boardId).Sound (lost ++ more) ∧
      (more = [] ↔ KeepsMemory state (.getIdx mallocOk boardId)) := by
  have idle : heap.Sound (lost ++ []) := by rwa [List.append_nil]
  unfold Heap.getIdx KeepsMemory Registers
  cases found : findIdx state boardId with
  | some entry => exact ⟨[], idle, by simp [found]⟩
  | none =>
      cases mallocOk with
      | false => exact ⟨[], idle, by simp⟩
      | true =>
          cases free : state.devBoardidToIdxList.freeSlot maxDevHandle with
          | some slot =>
              have empty : heap.devBoardidToIdxList slot = none := by
                have same := backs.indices slot
                rw [(Slots.freeSlot_some free).2] at same
                simpa using same
              have stored := sound.storeIdx empty
              exact ⟨[], by rwa [List.append_nil], by simp⟩
          | none => exact ⟨[heap.mallocs], sound.lose, by simp [found]⟩

/-! ## Pointers and records -/

section Released

variable {Entry : Type} {list : Slots maxDevHandle Entry} {blocks : Slots maxDevHandle Nat}
  {wanted : Entry → Bool}

theorem select_released (same : ∀ slot, (blocks slot).isSome = (list slot).isSome)
    (slot : Fin maxDevHandle) :
    (blocks.select (fun slot => !released list wanted slot) slot).isSome =
      (list.release wanted slot).isSome := by
  have here := same slot
  cases held : list slot with
  | none => simpa [Slots.select, released, Slots.release, held] using here
  | some entry =>
      rw [held] at here
      cases chosen : wanted entry with
      | false => simpa [Slots.select, released, Slots.release, held, chosen] using here
      | true => simp [Slots.select, released, Slots.release, held, chosen]

theorem store_isSome {place : Fin maxDevHandle} {block : Nat} {entry : Entry}
    (same : ∀ slot, (blocks slot).isSome = (list slot).isSome) (slot : Fin maxDevHandle) :
    (blocks.store place block slot).isSome = (list.store place entry slot).isSome := by
  by_cases here : slot = place
  · simp [here]
  · rw [Slots.store_other here, Slots.store_other here]
    exact same slot

end Released

theorem requstMem_lists {env : CheckEnv} :
    (heap.requstMem env).devHandleList = heap.devHandleList ∧
      (heap.requstMem env).devBoardidToIdxList = heap.devBoardidToIdxList := by
  unfold Heap.requstMem
  split
  · dsimp only
    split <;> exact ⟨rfl, rfl⟩
  · exact ⟨rfl, rfl⟩

theorem Backs.checked {env : CheckEnv} {ret : Int} (backs : heap.Backs state)
    (check : Lib.checkBoardsInfo env state = .ok (ret, next)) :
    (heap.checkBoardsInfo env state).Backs next := by
  have checked := checkBoardsInfo_checked check
  unfold Heap.checkBoardsInfo
  cases checked with
  | alreadyOk flagged =>
      rw [if_pos flagged]
      exact backs
  | outOfMemory clear | noBoards clear | boards clear =>
      obtain ⟨handles, indices⟩ := @requstMem_lists heap.initConfig env
      rw [if_neg (by simp [clear])]
      refine ⟨?_, ?_, fun flag => by cases flag⟩
      · rw [handles]
        exact fun _ => rfl
      · rw [indices]
        exact fun _ => rfl

theorem Backs.opened {env : OpenEnv} {answer : OpenReturn} (backs : heap.Backs state)
    (opened : Lib.vi53xxDeviceOpen env state boardId = .ok (answer, next)) :
    (heap.vi53xxDeviceOpen env state boardId).Backs next := by
  obtain ⟨boards, searched, _, outcome⟩ := vi53xxDeviceOpen_opened opened
  unfold Heap.vi53xxDeviceOpen Heap.openWith
  rw [searched]
  dsimp only
  cases outcome with
  | noBoards uncounted =>
      rw [if_pos uncounted]
      unfold received
      split <;> exact ⟨backs.handles, backs.indices, backs.tables⟩
  | openFailed counted failed =>
      rw [if_neg counted, if_pos failed]
      exact backs
  | alreadyOpen counted nonnegative found =>
      rw [if_neg counted, if_neg (not_lt.mpr nonnegative)]
      unfold getDevHandle at found
      rw [found]
      exact ⟨backs.handles, backs.indices, backs.tables⟩
  | outOfMemory counted nonnegative absent exhausted =>
      rw [if_neg counted, if_neg (not_lt.mpr nonnegative)]
      unfold getDevHandle at absent
      rw [absent, exhausted]
      exact ⟨backs.handles, backs.indices, backs.tables⟩
  | stored counted nonnegative absent allocated free =>
      rw [if_neg counted, if_neg (not_lt.mpr nonnegative)]
      unfold getDevHandle at absent
      rw [absent, allocated, free]
      exact ⟨store_isSome backs.handles, backs.indices, backs.tables⟩
  | fallThrough counted nonnegative absent allocated full =>
      rw [if_neg counted, if_neg (not_lt.mpr nonnegative)]
      unfold getDevHandle at absent
      rw [absent, allocated, full]
      exact ⟨backs.handles, backs.indices, backs.tables⟩

theorem Backs.closed (backs : heap.Backs state) :
    (heap.vi53xxDeviceClose state boardId).Backs (Lib.vi53xxDeviceClose state boardId) := by
  unfold Heap.vi53xxDeviceClose Lib.vi53xxDeviceClose
  dsimp only
  split
  · exact ⟨backs.handles, select_released backs.indices, fun _ => ⟨rfl, rfl⟩⟩
  · split
    · exact ⟨select_released backs.handles, select_released backs.indices, fun _ => ⟨rfl, rfl⟩⟩
    · exact ⟨select_released backs.handles, select_released backs.indices, backs.tables⟩

theorem Backs.freed : heap.freeBoardInfo.Backs (Lib.freeBoardInfo state boardId) :=
  ⟨fun _ => rfl, fun _ => rfl, fun _ => ⟨rfl, rfl⟩⟩

theorem Backs.indexed {mallocOk : Bool} (backs : heap.Backs state) :
    (heap.getIdx mallocOk state boardId).Backs (Lib.getIdx mallocOk state boardId).2 := by
  unfold Heap.getIdx Lib.getIdx
  cases findIdx state boardId with
  | some entry => exact backs
  | none =>
      cases mallocOk with
      | false => exact backs
      | true =>
          cases state.devBoardidToIdxList.freeSlot maxDevHandle with
          | some slot => exact ⟨backs.handles, store_isSome backs.indices, backs.tables⟩
          | none => exact ⟨backs.handles, backs.indices, backs.tables⟩

/-! ## Each call -/

theorem Backs.unlisted_iff (backs : heap.Backs state) :
    heap.devHandleList.entries ++ heap.devBoardidToIdxList.entries = [] ↔ Unlisted state := by
  have empty {Entry : Type} {blocks : Slots maxDevHandle Nat} {list : Slots maxDevHandle Entry}
      (same : ∀ slot, (blocks slot).isSome = (list slot).isSome) :
      blocks.entries = [] ↔ ∀ slot, list slot = none := by
    rw [Slots.entries_eq_nil_iff]
    refine forall_congr' fun slot => ?_
    rw [← Option.not_isSome_iff_eq_none, same slot, Option.not_isSome_iff_eq_none]
  rw [List.append_eq_nil_iff, empty backs.handles, empty backs.indices]
  exact ⟨fun both => ⟨both.1, both.2⟩, fun unlisted => ⟨unlisted.handles, unlisted.indices⟩⟩

theorem Sound.checked {env : CheckEnv} (sound : heap.Sound lost) (backs : heap.Backs state) :
    ∃ more, (heap.checkBoardsInfo env state).Sound (lost ++ more) ∧
      (more = [] ↔ state.initCheckOk = true ∨ Unlisted state) := by
  unfold Heap.checkBoardsInfo
  cases flag : state.initCheckOk with
  | true => exact ⟨[], by simpa using sound, by simp⟩
  | false =>
      refine ⟨_, (sound.initConfig).requstMem (backs.tables flag), ?_⟩
      rw [backs.unlisted_iff]
      simp

theorem Sound.freed (sound : heap.Sound lost) (backs : heap.Backs state) :
    ∃ more, heap.freeBoardInfo.Sound (lost ++ more) ∧ (more = [] ↔ Unlisted state) :=
  ⟨_, sound.freeMem.initConfig, backs.unlisted_iff⟩

theorem Sound.closed (sound : heap.Sound lost) :
    (heap.vi53xxDeviceClose state boardId).Sound lost := by
  unfold Heap.vi53xxDeviceClose
  dsimp only
  split
  · exact sound.freeMem.releaseIdx
  · split
    · exact sound.freeMem.releaseDevHandle.releaseIdx
    · exact sound.releaseDevHandle.releaseIdx

/-- A check that answers anything but 0 has emptied the lists. -/
theorem refused_unlisted {env : CheckEnv} {ret : Int}
    (check : Lib.checkBoardsInfo env state = .ok (ret, next)) (nonzero : ret ≠ 0) :
    Unlisted next := by
  cases checkBoardsInfo_checked check with
  | alreadyOk => exact absurd rfl nonzero
  | outOfMemory | noBoards | boards => exact ⟨fun _ => rfl, fun _ => rfl⟩

theorem Sound.cfgInit {cfg : CfgModule} {env : InitEnv} (sound : heap.Sound lost)
    (backs : heap.Backs state) (stepped : libStep state (.cfgInit cfg env boardId) = some next) :
    (heap.cfgInit env state boardId).Backs next ∧
      ∃ more, (heap.cfgInit env state boardId).Sound (lost ++ more) ∧
        (more = [] ↔ KeepsMemory state (.cfgInit cfg env boardId)) := by
  obtain ⟨first, middle, kept⟩ := @Sound.checked heap state lost env.check sound backs
  unfold Heap.cfgInit KeepsMemory
  cases libStep_cfgInit stepped with
  | @refused ret checked check nonzero =>
      obtain ⟨later, after, freed⟩ := middle.freed (backs.checked check)
      have none_later := freed.mpr (refused_unlisted check nonzero)
      rw [check]
      dsimp only
      rw [if_pos nonzero]
      refine ⟨Backs.freed, first, ?_, ?_⟩
      · rwa [none_later, List.append_nil] at after
      · rw [kept]
        refine (and_iff_left ?_).symm
        intro other passed
        cases check.symm.trans passed
        exact absurd rfl nonzero
  | @accepted checked _ check opened =>
      obtain ⟨answer, boards, ran, _, _⟩ := callStep_open opened
      have checkedBacks := backs.checked check
      obtain ⟨later, after, placed⟩ :=
        @Sound.vi53xxDeviceOpen _ _ _ boardId env.device middle checkedBacks
      rw [check]
      dsimp only
      rw [if_neg (not_not.mpr rfl)]
      refine ⟨checkedBacks.opened ran, first ++ later, by rwa [← List.append_assoc], ?_⟩
      rw [List.append_eq_nil_iff, kept, placed]
      refine and_congr_right' ⟨?_, fun each => each checked check⟩
      intro places other passed
      cases check.symm.trans passed
      exact places

theorem Sound.step {call : LibCall} (sound : heap.Sound lost) (backs : heap.Backs state)
    (stepped : libStep state call = some next) :
    (heap.libCall state call).Backs next ∧
      ∃ more, (heap.libCall state call).Sound (lost ++ more) ∧ (more = [] ↔ KeepsMemory state call) := by
  cases call with
  | call call =>
      cases call with
      | checkBoards env =>
          obtain ⟨ret, check⟩ := callStep_checked stepped
          exact ⟨backs.checked check, sound.checked backs⟩
      | deviceOpen env boardId =>
          obtain ⟨answer, boards, opened, _, _⟩ := callStep_open stepped
          exact ⟨backs.opened opened, sound.vi53xxDeviceOpen backs⟩
      | deviceClose boardId =>
          cases stepped
          refine ⟨backs.closed, [], ?_, iff_of_true rfl trivial⟩
          rw [List.append_nil]
          exact sound.closed
      | freeBoards boardId =>
          cases stepped
          exact ⟨Backs.freed, sound.freed backs⟩
  | getIdx mallocOk boardId =>
      cases stepped
      exact ⟨backs.indexed, sound.getIdx backs⟩
  | cfgInit cfg env boardId => exact sound.cfgInit backs stepped

end Heap

/-! ## Runs -/

variable {process : Allocating} {calls : List LibCall}

def Allocating.loaded : Allocating := ⟨LibState.loaded, .loaded⟩

/-- After every run of the library nothing has been freed twice, nothing in use has been
freed, and all memory is in use or freed exactly when no call of the run forgets a block. -/
theorem memory_accounted (ran : runFrom allocatingStep Allocating.loaded calls = some process) :
    process.heap.ledger.returned.Nodup ∧ process.heap.held.Nodup ∧
      (∀ block ∈ process.heap.held, block ∉ process.heap.ledger.returned) ∧
      (process.heap.ledger.Accounts process.heap.held ↔
        EachStep allocatingStep (fun process call => KeepsMemory process.state call)
          Allocating.loaded calls) := by
  have step : ∀ (process : Allocating) (call : LibCall) (next : Allocating) (lost : List Nat),
      process.heap.Sound lost ∧ process.heap.Backs process.state →
      allocatingStep process call = some next →
      ∃ more, (next.heap.Sound (lost ++ more) ∧ next.heap.Backs next.state) ∧
        (more = [] ↔ KeepsMemory process.state call) := by
    rintro process call next lost ⟨sound, backs⟩ stepped
    obtain ⟨state, taken, rfl⟩ := Option.map_eq_some_iff.mp stepped
    obtain ⟨backed, more, sounder, kept⟩ := sound.step backs taken
    exact ⟨more, ⟨sounder, backed⟩, kept⟩
  have start : Allocating.loaded.heap.Sound [] ∧ Allocating.loaded.heap.Backs Allocating.loaded.state := by
    refine ⟨⟨rfl, ?_⟩, ⟨fun _ => rfl, fun _ => rfl, fun _ => ⟨rfl, rfl⟩⟩⟩
    simpa [Allocating.loaded, Heap.loaded, Heap.held] using Ledger.accounts_empty
  obtain ⟨lost, ⟨sound, _⟩, kept⟩ := runFrom_adds step start ran
  rw [List.nil_append] at sound
  have distinct : process.heap.ledger.taken.Nodup := by
    rw [sound.numbered]
    exact List.nodup_range
  obtain ⟨returned, holding, apart⟩ := sound.accounts.nodup distinct
  refine ⟨returned, (List.nodup_append.mp holding).1, ?_, sound.accounts.accounts_iff.trans kept⟩
  intro block member
  exact apart block (List.mem_append_left lost member)

/-- A board is opened twice and forgotten, checked again and closed. -/
def reopens : List LibCall :=
  [.call (.checkBoards oneBoard), .call (.deviceOpen (opensAs 3) 7), .getIdx true 7,
    .call (.deviceOpen (opensAs 4) 7), .call (.freeBoards 7), .call (.checkBoards oneBoard),
    .call (.deviceClose 7)]

theorem memory_accounted_reopens :
    ∃ process, runFrom allocatingStep Allocating.loaded reopens = some process ∧
      process.heap.ledger.returned.Nodup ∧ process.heap.held.Nodup ∧
      (∀ block ∈ process.heap.held, block ∉ process.heap.ledger.returned) ∧
      (process.heap.ledger.Accounts process.heap.held ↔
        EachStep allocatingStep (fun process call => KeepsMemory process.state call)
          Allocating.loaded reopens) := by
  have seen : (runFrom allocatingStep Allocating.loaded reopens).isSome = true := by
    decide +kernel
  obtain ⟨process, ran⟩ := Option.isSome_iff_exists.mp seen
  exact ⟨process, ran, memory_accounted ran⟩

end Vi53xx.Lib
