import Vi53xx.Lib.IndexRecords

/-! What `get_idx` grants a board: one bit and one slot, which `release_idx` gives
back, and an index that the calls for other boards leave alone. -/

set_option autoImplicit false

namespace Vi53xx.Lib

open Foundation

variable {state next before : LibState} {boardId : BitVec 32} {slot : Fin maxDevHandle}
  {entry : BoardidToIdx} {mallocOk : Bool}

def ofBoard (boardId : BitVec 32) (entry : BoardidToIdx) : Bool := entry.boardId == boardId

/-! ## Grant and release -/

theorem idBitmap_ext {left right : Fin bitmapSize → BitVec 8}
    (same : ∀ id, idBit left id = idBit right id) : left = right := by
  funext index
  apply BitVec.eq_of_getLsbD_eq
  intro bit low
  have inside : index.val < 16 := index.isLt
  have place : 8 * index.val + bit < 128 := by omega
  have byte : (8 * index.val + bit) / 8 = index.val := by omega
  have offset : (8 * index.val + bit) % 8 = bit := by omega
  have here := same ⟨8 * index.val + bit, place⟩
  simpa only [idBit_eq_getLsbD, byte, offset] using here

/-- One clear bit has been set and one empty slot filled. -/
structure ChangesOne (state after : LibState) : Prop where
  bit : ∃ id, idBit state.idBitmap id = false ∧
    ∀ other, idBit after.idBitmap other = (idBit state.idBitmap other || decide (other = id))
  slot : ∃ slot, state.devBoardidToIdxList slot = none ∧
    (∃ entry, after.devBoardidToIdxList slot = some entry) ∧
    ∀ other, other ≠ slot → after.devBoardidToIdxList other = state.devBoardidToIdxList other

/-- What `get_idx` does for a board without an entry when there is room. -/
structure Granted (state : LibState) (boardId : BitVec 32) (id slot : Fin maxDevHandle)
    (outcome : Int × LibState) : Prop where
  answer : outcome.1 = id.val
  clear : idBit state.idBitmap id = false
  set : ∀ other, idBit outcome.2.idBitmap other =
    (idBit state.idBitmap other || decide (other = id))
  free : state.devBoardidToIdxList slot = none
  list : outcome.2.devBoardidToIdxList = state.devBoardidToIdxList.store slot ⟨id.val, boardId⟩
  rest : outcome.2 = { state with
    idBitmap := outcome.2.idBitmap
    devBoardidToIdxList := outcome.2.devBoardidToIdxList }

theorem findIdx_eq_none_iff :
    findIdx state boardId = none ↔
      ∀ slot entry, state.devBoardidToIdxList slot = some entry → entry.boardId ≠ boardId := by
  constructor
  · exact absent_of_findIdx
  · intro absent
    refine Slots.lookup_eq_none_iff.mpr ?_
    intro slot entry _ held
    simpa using absent slot entry held

theorem freeSlot_of_empty (free : ∃ slot, state.devBoardidToIdxList slot = none) :
    ∃ slot, state.devBoardidToIdxList.freeSlot maxDevHandle = some slot := by
  obtain ⟨slot, empty⟩ := free
  refine Option.ne_none_iff_exists'.mp ?_
  intro full
  exact Slots.freeSlot_eq_none_iff.mp full slot slot.isLt empty

theorem getIdx_granted (absent : findIdx state boardId = none)
    (clear : ∃ id, idBit state.idBitmap id = false)
    (free : ∃ slot, state.devBoardidToIdxList slot = none) :
    ∃ id slot, Granted state boardId id slot (getIdx true state boardId) := by
  obtain ⟨unused, unset⟩ := clear
  obtain ⟨slot, first⟩ := freeSlot_of_empty free
  have taken : Taken state.idBitmap _ _ := getUniqueId_taken
  have outcome : getIdx true state boardId = ((getUniqueId state.idBitmap).1, { state with
      idBitmap := (getUniqueId state.idBitmap).2
      devBoardidToIdxList := state.devBoardidToIdxList.store slot
        ⟨(getUniqueId state.idBitmap).1, boardId⟩ }) := by
    simp only [getIdx, absent, if_true, first]
  rw [outcome]
  generalize getUniqueId state.idBitmap = granted at taken
  obtain ⟨idx, bitmap⟩ := granted
  cases taken with
  | none full => simp [full unused] at unset
  | @first id _ clear _ set =>
      exact ⟨id, slot, rfl, clear, set, (Slots.freeSlot_some first).2, rfl, rfl⟩

theorem Granted.changesOne {id : Fin maxDevHandle} {outcome : Int × LibState}
    (granted : Granted state boardId id slot outcome) : ChangesOne state outcome.2 := by
  refine ⟨⟨id, granted.clear, granted.set⟩, slot, granted.free, ?_, ?_⟩
  · exact ⟨⟨id.val, boardId⟩, by rw [granted.list, Slots.store_same]⟩
  · intro other apart
    rw [granted.list, Slots.store_other apart]

theorem Granted.released {id : Fin maxDevHandle} {outcome : Int × LibState}
    (granted : Granted state boardId id slot outcome)
    (absent : findIdx state boardId = none) : releaseIdx outcome.2 boardId = state := by
  have others : ∀ other found, state.devBoardidToIdxList other = some found →
      ofBoard boardId found = false := by
    intro other found held
    simpa [ofBoard] using findIdx_eq_none_iff.mp absent other found held
  have only :
      Slots.Only (ofBoard boardId) outcome.2.devBoardidToIdxList slot ⟨id.val, boardId⟩ := by
    rw [granted.list]
    exact Slots.Only.stored (by simp [ofBoard]) others
  have found : getIdxOrZero outcome.2 boardId = id.val := by
    have entry : findIdx outcome.2 boardId = some ⟨id.val, boardId⟩ := only.lookup slot.isLt
    simp [getIdxOrZero, entry]
  have bitmap : destroyId id.val outcome.2.idBitmap = state.idBitmap := by
    apply idBitmap_ext
    intro other
    have place : (other.val : Int) = id.val ↔ other = id := by rw [Int.natCast_inj, Fin.val_inj]
    rw [idBit_destroyId, granted.set]
    by_cases same : other = id
    · simp [same, granted.clear]
    · simp [same, place]
  have list : outcome.2.devBoardidToIdxList.release (fun entry => entry.boardId == boardId) =
      state.devBoardidToIdxList := by
    rw [granted.list]
    exact Slots.release_store granted.free (by simp) others
  rw [releaseIdx, found, bitmap, list, granted.rest]

/-- For a board without an entry, with a clear bit, an empty slot and memory, the grant
changes one bit and one slot, and the release restores everything. -/
theorem releaseIdx_getIdx
    (absent : ∀ slot entry, state.devBoardidToIdxList slot = some entry → entry.boardId ≠ boardId)
    (clear : ∃ id, idBit state.idBitmap id = false)
    (free : ∃ slot, state.devBoardidToIdxList slot = none) :
    releaseIdx (getIdx true state boardId).2 boardId = state ∧
      ChangesOne state (getIdx true state boardId).2 := by
  have unknown := findIdx_eq_none_iff.mpr absent
  obtain ⟨id, slot, granted⟩ := getIdx_granted unknown clear free
  exact ⟨granted.released unknown, granted.changesOne⟩

/-- Four boards have entries, with gaps between their indices and between their slots. -/
def fragmented : LibState := { LibState.loaded with
  idBitmap := fun index => if index.val = 0 then 0b101101 else 0
  devBoardidToIdxList := fun slot =>
    List.lookup slot.val [(0, ⟨3, 8⟩), (1, ⟨0, 9⟩), (3, ⟨5, 10⟩), (6, ⟨2, 11⟩)] }

theorem releaseIdx_getIdx_fragmented :
    releaseIdx (getIdx true fragmented 7).2 7 = fragmented ∧
      ChangesOne fragmented (getIdx true fragmented 7).2 := by
  have others : ∀ slot, ((fragmented.devBoardidToIdxList slot).all fun entry =>
      entry.boardId != 7) = true := by decide +kernel
  refine releaseIdx_getIdx ?_ ⟨1, by decide⟩ ⟨2, rfl⟩
  intro slot entry held
  simpa [held] using others slot

example : (getIdx true fragmented 7).1 = 1 := by decide

/-! ## The index of a board -/

/-- The calls that are to leave the index of the board alone. -/
def LeavesIndex (boardId : BitVec 32) : LibCall → Prop
  | .getIdx _ _ => True
  | .call (.deviceOpen _ _) => True
  | .call (.deviceClose closed) => closed ≠ boardId
  | _ => False

/-- Some slot has the only entry of the board, with this index. -/
def HasIndex (boardId : BitVec 32) (idx : Int) (state : LibState) : Prop :=
  ∃ slot, Slots.Only (ofBoard boardId) state.devBoardidToIdxList slot ⟨idx, boardId⟩

theorem HasIndex.getIdx_eq {idx : Int} (has : HasIndex boardId idx state) :
    (getIdx mallocOk state boardId).1 = idx := by
  obtain ⟨slot, only⟩ := has
  have found : findIdx state boardId = some ⟨idx, boardId⟩ := only.lookup slot.isLt
  simp [getIdx, found]

theorem HasIndex.getIdx {idx : Int} {other : BitVec 32} (has : HasIndex boardId idx state) :
    HasIndex boardId idx (getIdx mallocOk state other).2 := by
  unfold Lib.getIdx
  split
  · exact has
  · next absent =>
      split
      · dsimp only
        split
        · next place free =>
            obtain ⟨slot, only⟩ := has
            have apart : other ≠ boardId := (findIdx_eq_none_iff.mp absent slot _ only.held).symm
            exact ⟨slot, only.store (Slots.freeSlot_some free).2 (by simp [ofBoard, apart])⟩
        · exact has
      · exact has

theorem HasIndex.step {idx : Int} {call : LibCall} (has : HasIndex boardId idx state)
    (leaves : LeavesIndex boardId call) (stepped : libStep state call = some next) :
    HasIndex boardId idx next := by
  cases call with
  | getIdx mallocOk other =>
      cases stepped
      exact has.getIdx
  | cfgInit => exact leaves.elim
  | call call =>
      cases call with
      | checkBoards | freeBoards => exact leaves.elim
      | deviceOpen env other =>
          obtain ⟨_, _, _, _, opened⟩ := callStep_open stepped
          rw [HasIndex, opened.indices.2]
          exact has
      | deviceClose other =>
          obtain ⟨slot, only⟩ := has
          have spared : boardId ≠ other := Ne.symm leaves
          refine ⟨slot, ?_⟩
          rw [(callStep_close stepped).2.indices.2]
          exact only.release (by simp [spared])

/-- The list has exactly one entry for the board, and `get_idx` answers with `idx`. -/
structure KeepsIndex (boardId : BitVec 32) (idx : Int) (state : LibState) : Prop where
  one : ∃! slot, ∃ entry, state.devBoardidToIdxList slot = some entry ∧ entry.boardId = boardId
  answer : ∀ mallocOk, (getIdx mallocOk state boardId).1 = idx

theorem HasIndex.keeps {idx : Int} (has : HasIndex boardId idx state) :
    KeepsIndex boardId idx state := by
  refine ⟨?_, fun _ => has.getIdx_eq⟩
  obtain ⟨slot, only⟩ := has
  refine ⟨slot, ⟨_, only.held, rfl⟩, ?_⟩
  intro other there
  obtain ⟨entry, held, named⟩ := there
  exact only.alone other entry held (by simp [ofBoard, named])

/-- This call of `get_idx` stores an entry for the board. -/
def StoresEntry (before : LibState) (boardId : BitVec 32) : Prop :=
  findIdx before boardId = none ∧ findIdx (getIdx true before boardId).2 boardId ≠ none

theorem StoresEntry.hasIndex (stores : StoresEntry before boardId) :
    HasIndex boardId (getIdx true before boardId).1 (getIdx true before boardId).2 := by
  obtain ⟨absent, there⟩ := stores
  revert there
  simp only [Lib.getIdx, absent, if_true]
  cases free : before.devBoardidToIdxList.freeSlot maxDevHandle with
  | none => exact fun there => absurd absent there
  | some slot =>
      intro _
      refine ⟨slot, Slots.Only.stored (by simp [ofBoard]) ?_⟩
      intro other found held
      simpa [ofBoard] using findIdx_eq_none_iff.mp absent other found held

/-- Once `get_idx` has stored an entry for a board, no run of index requests, opens and
closes of other boards changes the index of the board or adds a second entry. -/
theorem index_kept {calls : List LibCall} (stores : StoresEntry before boardId)
    (leaves : ∀ call ∈ calls, LeavesIndex boardId call) :
    Throughout libStep (KeepsIndex boardId (getIdx true before boardId).1)
      (getIdx true before boardId).2 calls := by
  refine Throughout.mono (fun reached has => HasIndex.keeps has) ?_
  refine throughout_of_preserved ?_ stores.hasIndex (eachStep_of_forall leaves)
  intro reached call next has allowed stepped
  exact has.step allowed stepped

theorem index_kept_loaded :
    Throughout libStep (KeepsIndex 7 (getIdx true LibState.loaded 7).1)
      (getIdx true LibState.loaded 7).2
      [.getIdx true 9, .call (.deviceOpen (opensAs 3) 9), .call (.deviceClose 9),
        .getIdx true 7] := by
  refine index_kept ⟨rfl, by decide +kernel⟩ ?_
  simp [LeavesIndex]

end Vi53xx.Lib
