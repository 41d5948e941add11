import Vi53xx.Lib.Process

/-! The indices that the library gives to boards. An index is recorded twice, as a
bit of `id_bitmap` and in an entry of the list; here is what each call does to the
two records. -/

set_option autoImplicit false

namespace Vi53xx.Lib

open Foundation

variable {state next : LibState} {boardId : BitVec 32}
  {bitmap : Fin bitmapSize → BitVec 8} {id other : Fin maxDevHandle}

/-! ## The bitmap -/

theorem idBit_eq_getLsbD :
    idBit bitmap id = (bitmap ⟨id.val / 8, Nat.div_lt_of_lt_mul id.isLt⟩).getLsbD (id.val % 8) := by
  have low : id.val % 8 < 8 := Nat.mod_lt _ (by decide)
  have nonzero : BitVec.twoPow 8 (id.val % 8) ≠ 0#8 := by
    intro zero
    have bit := congrArg (fun byte => byte.getLsbD (id.val % 8)) zero
    simp [low] at bit
  have shifted : 1#8 <<< (id.val % 8) = BitVec.twoPow 8 (id.val % 8) := rfl
  rw [idBit, shifted, BitVec.and_twoPow]
  cases bit : (bitmap ⟨id.val / 8, Nat.div_lt_of_lt_mul id.isLt⟩).getLsbD (id.val % 8) with
  | false => simp
  | true => simpa using nonzero

theorem same_bit_iff : (other.val / 8 = id.val / 8 ∧ other.val % 8 = id.val % 8) ↔ other = id := by
  rw [Fin.ext_iff]
  omega

@[simp] theorem idBit_cleared : idBit (fun _ => 0) id = false := by
  simp [idBit_eq_getLsbD]

theorem idBit_set :
    idBit (fun index => if index.val = id.val / 8 then bitmap index ||| (1#8 <<< (id.val % 8))
      else bitmap index) other = (idBit bitmap other || decide (other = id)) := by
  have low : other.val % 8 < 8 := Nat.mod_lt _ (by decide)
  have shifted : 1#8 <<< (id.val % 8) = BitVec.twoPow 8 (id.val % 8) := rfl
  simp only [idBit_eq_getLsbD, ← @same_bit_iff id other]
  by_cases place : other.val / 8 = id.val / 8
  · simp only [place, if_true, shifted, BitVec.getLsbD_or, BitVec.getLsbD_twoPow, true_and]
    by_cases bit : id.val % 8 = other.val % 8
    · simp [bit, low]
    · simp [bit, Ne.symm bit]
  · simp [place]

theorem idBit_destroyId (index : Int) :
    idBit (destroyId index bitmap) other = (idBit bitmap other && !decide ((other.val : Int) = index)) := by
  have low : other.val % 8 < 8 := Nat.mod_lt _ (by decide)
  have bounded := other.isLt
  unfold destroyId
  split
  · next inside =>
      have shifted : 1#8 <<< (index.toNat % 8) = BitVec.twoPow 8 (index.toNat % 8) := rfl
      simp only [idBit_eq_getLsbD]
      by_cases place : other.val / 8 = index.toNat / 8
      · simp only [place, if_true, shifted, BitVec.getLsbD_and, BitVec.getLsbD_not,
          BitVec.getLsbD_twoPow, low, decide_true, Bool.true_and]
        congr 2
        rw [Bool.eq_iff_iff]
        simp only [Bool.and_eq_true, decide_eq_true_eq]
        omega
      · have different : (other.val : Int) ≠ index := by omega
        simp [place, different]
  · next outside =>
      have different : (other.val : Int) ≠ index := by omega
      simp [different]

/-- What `get_unique_id` answers and leaves: the first clear bit, which it sets, or
index 0 when no bit is clear. -/
inductive Taken (bitmap : Fin bitmapSize → BitVec 8) : Int → (Fin bitmapSize → BitVec 8) → Prop where
  | first {id : Fin maxDevHandle} {after : Fin bitmapSize → BitVec 8}
      (clear : idBit bitmap id = false) (before : ∀ earlier, earlier < id → idBit bitmap earlier = true)
      (set : ∀ other, idBit after other = (idBit bitmap other || decide (other = id))) :
      Taken bitmap id.val after
  | none {after : Fin bitmapSize → BitVec 8} (full : ∀ id, idBit bitmap id = true)
      (same : after = bitmap) : Taken bitmap 0 after

theorem getUniqueId_taken : Taken bitmap (getUniqueId bitmap).1 (getUniqueId bitmap).2 := by
  unfold getUniqueId
  cases found : (List.finRange maxDevHandle).find? fun id => !idBit bitmap id with
  | none =>
      refine .none ?_ rfl
      intro id
      have set := List.find?_eq_none.mp found id (List.mem_finRange id)
      simpa using set
  | some id =>
      refine .first ?_ ?_ (fun other => idBit_set)
      · simpa using List.find?_some found
      · intro earlier sooner
        obtain ⟨_, index, inside, here, before⟩ := List.find?_eq_some_iff_getElem.mp found
        have place : index = id.val := by
          have value := congrArg Fin.val here
          simpa using value
        have passed := before earlier.val (by omega)
        simpa using passed

/-! ## What a call does to the two records -/

/-- A call for the index of a board that has none and for which there is memory. -/
def Registers (state : LibState) : LibCall → Prop
  | .getIdx mallocOk boardId => mallocOk = true ∧ findIdx state boardId = none
  | _ => False

def IsFree : LibCall → Prop
  | .call (.freeBoards _) => True
  | _ => False

inductive Reindexed (state next : LibState) : LibCall → Prop where
  | kept {call : LibCall} (unregistered : ¬ Registers state call) (notFree : ¬ IsFree call)
      (idBitmap : next.idBitmap = state.idBitmap)
      (list : next.devBoardidToIdxList = state.devBoardidToIdxList) : Reindexed state next call
  | reset {call : LibCall} (unregistered : ¬ Registers state call) (notFree : ¬ IsFree call)
      (idBitmap : ∀ id, idBit next.idBitmap id = false)
      (list : next.devBoardidToIdxList = Slots.empty) : Reindexed state next call
  | closed {boardId : BitVec 32}
      (idBitmap : next.idBitmap = destroyId (getIdxOrZero state boardId) state.idBitmap)
      (list : next.devBoardidToIdxList =
        state.devBoardidToIdxList.release fun entry => entry.boardId == boardId) :
      Reindexed state next (.call (.deviceClose boardId))
  | freed {boardId : BitVec 32}
      (idBitmap : next.idBitmap = destroyId (getIdxOrZero state boardId) state.idBitmap)
      (list : next.devBoardidToIdxList = Slots.empty) :
      Reindexed state next (.call (.freeBoards boardId))
  | stored {boardId : BitVec 32} {idx : Int} {slot : Fin maxDevHandle}
      (absent : findIdx state boardId = none) (taken : Taken state.idBitmap idx next.idBitmap)
      (free : state.devBoardidToIdxList.freeSlot maxDevHandle = some slot)
      (list : next.devBoardidToIdxList = state.devBoardidToIdxList.store slot ⟨idx, boardId⟩) :
      Reindexed state next (.getIdx true boardId)
  | unstored {boardId : BitVec 32} {idx : Int}
      (absent : findIdx state boardId = none) (taken : Taken state.idBitmap idx next.idBitmap)
      (full : state.devBoardidToIdxList.freeSlot maxDevHandle = none)
      (list : next.devBoardidToIdxList = state.devBoardidToIdxList) :
      Reindexed state next (.getIdx true boardId)

theorem freeBoardInfo_idBitmap :
    (freeBoardInfo state boardId).idBitmap =
      destroyId (getIdxOrZero state boardId) state.idBitmap := rfl

theorem Closed.indices (closed : Closed state boardId next) :
    next.idBitmap = destroyId (getIdxOrZero state boardId) state.idBitmap ∧
      next.devBoardidToIdxList =
        state.devBoardidToIdxList.release fun entry => entry.boardId == boardId := by
  cases closed with
  | uncounted | last | remaining => exact ⟨rfl, rfl⟩

theorem Opened.indices {env : OpenEnv} {fd : Int} {devName : List Char} {answer : OpenReturn}
    (opened : Opened env state boardId fd devName answer next) :
    next.idBitmap = state.idBitmap ∧ next.devBoardidToIdxList = state.devBoardidToIdxList := by
  cases opened with
  | noBoards =>
      unfold received
      split <;> exact ⟨rfl, rfl⟩
  | openFailed | alreadyOpen | outOfMemory | stored | fallThrough => exact ⟨rfl, rfl⟩

theorem Checked.indices {ret : Int} (checked : Checked state ret next) :
    (ret = 0 ∧ next = state) ∨
      ((∀ id, idBit next.idBitmap id = false) ∧ next.devBoardidToIdxList = Slots.empty) := by
  cases checked with
  | alreadyOk => exact .inl ⟨rfl, rfl⟩
  | outOfMemory | noBoards | boards => exact .inr ⟨fun _ => idBit_cleared, rfl⟩

theorem Started.indices {env : InitEnv} (started : Started env state boardId next) :
    (next.idBitmap = state.idBitmap ∧ next.devBoardidToIdxList = state.devBoardidToIdxList) ∨
      ((∀ id, idBit next.idBitmap id = false) ∧ next.devBoardidToIdxList = Slots.empty) := by
  cases started with
  | refused check nonzero =>
      rcases (checkBoardsInfo_checked check).indices with ⟨zero, _⟩ | ⟨cleared, _⟩
      · exact absurd zero nonzero
      · refine .inr ⟨?_, rfl⟩
        intro id
        rw [freeBoardInfo_idBitmap, idBit_destroyId, cleared id, Bool.false_and]
  | accepted check opened =>
      obtain ⟨_, _, _, _, outcome⟩ := callStep_open opened
      obtain ⟨idBitmap, list⟩ := outcome.indices
      rcases (checkBoardsInfo_checked check).indices with ⟨_, rfl⟩ | ⟨cleared, empty⟩
      · exact .inl ⟨idBitmap, list⟩
      · exact .inr ⟨by rw [idBitmap]; exact cleared, by rw [list, empty]⟩

theorem getIdx_reindexed {mallocOk : Bool} :
    Reindexed state (getIdx mallocOk state boardId).2 (.getIdx mallocOk boardId) := by
  unfold getIdx
  split
  · next entry found =>
      exact .kept (fun registers => by simp [registers.2] at found) id rfl rfl
  · next absent =>
      cases mallocOk with
      | false => exact .kept (fun registers => by cases registers.1) id rfl rfl
      | true =>
          cases free : state.devBoardidToIdxList.freeSlot maxDevHandle with
          | none => exact .unstored absent getUniqueId_taken free rfl
          | some slot => exact .stored absent getUniqueId_taken free rfl

theorem libStep_reindexed {call : LibCall} (stepped : libStep state call = some next) :
    Reindexed state next call := by
  cases call with
  | getIdx mallocOk boardId =>
      cases stepped
      exact getIdx_reindexed
  | cfgInit cfg env boardId =>
      rcases (libStep_cfgInit stepped).indices with ⟨idBitmap, list⟩ | ⟨cleared, empty⟩
      · exact .kept id id idBitmap list
      · exact .reset id id cleared empty
  | call call =>
      cases call with
      | checkBoards env =>
          obtain ⟨ret, checked⟩ := callStep_check stepped
          rcases checked.indices with ⟨_, rfl⟩ | ⟨cleared, empty⟩
          · exact .kept id id rfl rfl
          · exact .reset id id cleared empty
      | deviceOpen env boardId =>
          obtain ⟨_, _, _, _, outcome⟩ := callStep_open stepped
          exact .kept id id outcome.indices.1 outcome.indices.2
      | deviceClose boardId =>
          have closed := (callStep_close stepped).2.indices
          exact .closed closed.1 closed.2
      | freeBoards boardId =>
          cases stepped
          exact .freed rfl rfl

/-! ## The list -/

/-- Each board has one entry in the list, with an index of the bitmap. -/
structure Recorded (state : LibState) : Prop where
  keyed : Slots.Keyed BoardidToIdx.boardId state.devBoardidToIdxList
  inRange : ∀ slot entry, state.devBoardidToIdxList slot = some entry →
    ∃ id : Fin maxDevHandle, entry.idx = id.val

theorem Taken.inRange {idx : Int} {after : Fin bitmapSize → BitVec 8} (taken : Taken bitmap idx after) :
    ∃ id : Fin maxDevHandle, idx = id.val := by
  cases taken with
  | first => exact ⟨_, rfl⟩
  | none => exact ⟨0, rfl⟩

theorem absent_of_findIdx (absent : findIdx state boardId = none) :
    ∀ slot entry, state.devBoardidToIdxList slot = some entry → entry.boardId ≠ boardId := by
  intro slot entry held same
  have unwanted := Slots.lookup_eq_none_iff.mp absent slot entry slot.isLt held
  simp [same] at unwanted

theorem Recorded.empty (list : state.devBoardidToIdxList = Slots.empty) : Recorded state := by
  constructor
  · rw [list]
    exact Slots.keyed_empty
  · intro slot entry held
    rw [list] at held
    cases held

theorem Recorded.step {call : LibCall} (recorded : Recorded state)
    (reindexed : Reindexed state next call) : Recorded next := by
  cases reindexed with
  | kept _ _ _ list | unstored _ _ _ list =>
      exact ⟨by rw [list]; exact recorded.keyed, by rw [list]; exact recorded.inRange⟩
  | reset _ _ _ list | freed _ list => exact Recorded.empty list
  | closed _ list =>
      constructor
      · rw [list]
        exact recorded.keyed.release
      · intro slot entry held
        rw [list] at held
        exact recorded.inRange slot entry (Slots.release_eq_some_iff.mp held).1
  | stored absent taken free list =>
      constructor
      · rw [list]
        exact recorded.keyed.store (absent_of_findIdx absent)
      · intro slot entry held
        rw [list] at held
        rcases Slots.store_eq_some_iff.mp held with ⟨_, rfl⟩ | ⟨_, before⟩
        · exact taken.inRange
        · exact recorded.inRange slot entry before

/-- `_get_idx` finds the entry of a board wherever it is. -/
theorem Recorded.getIdxOrZero_eq {slot : Fin maxDevHandle} {entry : BoardidToIdx}
    (recorded : Recorded state) (held : state.devBoardidToIdxList slot = some entry) :
    getIdxOrZero state entry.boardId = entry.idx := by
  have found : findIdx state entry.boardId = some entry :=
    (Slots.lookup_key_eq_some_iff recorded.keyed).mpr ⟨slot, slot.isLt, held, rfl⟩
  simp [getIdxOrZero, found]

end Vi53xx.Lib
