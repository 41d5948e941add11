import Vi53xx.Lib.Handles

/-! What opening and closing a board does to each part of the library's state. -/

set_option autoImplicit false

namespace Vi53xx.Lib

open Foundation

variable {state next : LibState} {env : OpenEnv} {boardId other : BitVec 32}
  {boards : List DeviceInfo} {answer : OpenReturn}

/-- The entry of a board anywhere in the table, within the searched part or not. -/
def openHandle (state : LibState) (boardId : BitVec 32) : Option DevHandle :=
  state.devHandleList.lookup maxDevHandle fun handle => handle.boardId == boardId

/-! ## Frames -/

@[simp] theorem releaseParvarMat_devHandleList :
    (releaseParvarMat state).devHandleList = state.devHandleList := rfl

@[simp] theorem releaseParvarMat_availableBoardCount :
    (releaseParvarMat state).availableBoardCount = state.availableBoardCount := rfl

@[simp] theorem releaseParvarMat_boardInfo :
    (releaseParvarMat state).boardInfo = state.boardInfo := rfl

@[simp] theorem releaseParvarMat_initCheckOk :
    (releaseParvarMat state).initCheckOk = state.initCheckOk := rfl

@[simp] theorem releaseParvarMat_descriptors :
    (releaseParvarMat state).descriptors = state.descriptors := rfl

def received (fd : Int) (state : LibState) : LibState :=
  if fd < 0 then state else { state with descriptors := fd :: state.descriptors }

/-- The path of the board and the NUL after it fit `board_name`. -/
def PathFits (boards : List DeviceInfo) (boardId : BitVec 32) : Prop :=
  (devicePath boards boardId).length < boardNameSize

instance : Decidable (PathFits boards boardId) :=
  inferInstanceAs (Decidable (_ < _))

theorem getBoardHandle_fits (fits : PathFits boards boardId) :
    getBoardHandle env boards state boardId =
      .ok (env.openFile (devicePath boards boardId),
        received (env.openFile (devicePath boards boardId)) state) :=
  if_pos fits

theorem getBoardHandle_overruns (long : ¬ PathFits boards boardId) :
    getBoardHandle env boards state boardId = .error .outOfBounds :=
  if_neg long

/-! ## Opening -/

/-- The outcomes of opening a board whose device file has been opened as `fd`. -/
inductive Opened (env : OpenEnv) (state : LibState) (boardId : BitVec 32) (fd : Int)
    (devName : List Char) : OpenReturn → LibState → Prop where
  | noBoards (uncounted : getAvailableBoardCount state = 0) :
      Opened env state boardId fd devName .noBoards (received fd state)
  | openFailed (counted : getAvailableBoardCount state ≠ 0) (failed : fd < 0) :
      Opened env state boardId fd devName .openFailed state
  | alreadyOpen {handle : DevHandle} (counted : getAvailableBoardCount state ≠ 0)
      (nonnegative : 0 ≤ fd) (found : getDevHandle state boardId = some handle) :
      Opened env state boardId fd devName (.alreadyOpen handle.devHandle)
        { state with descriptors := fd :: state.descriptors }
  | outOfMemory (counted : getAvailableBoardCount state ≠ 0) (nonnegative : 0 ≤ fd)
      (absent : getDevHandle state boardId = none) (exhausted : env.mallocOk = false) :
      Opened env state boardId fd devName .outOfMemory { state with
        onlineBoardCount := (getAvailableBoardCount state).toNat + 1
        descriptors := state.descriptors.filter (· ≠ fd) }
  | stored {slot : Fin maxDevHandle} (counted : getAvailableBoardCount state ≠ 0)
      (nonnegative : 0 ≤ fd) (absent : getDevHandle state boardId = none)
      (allocated : env.mallocOk = true)
      (free : state.devHandleList.freeSlot (getAvailableBoardCount state).toNat = some slot) :
      Opened env state boardId fd devName (.stored fd) { state with
        onlineBoardCount := (getAvailableBoardCount state).toNat + 1
        devHandleList := state.devHandleList.store slot ⟨fd, boardId, devName⟩
        descriptors := fd :: state.descriptors }
  | fallThrough (counted : getAvailableBoardCount state ≠ 0) (nonnegative : 0 ≤ fd)
      (absent : getDevHandle state boardId = none) (allocated : env.mallocOk = true)
      (full : state.devHandleList.freeSlot (getAvailableBoardCount state).toNat = none) :
      Opened env state boardId fd devName .fallThrough { state with
        onlineBoardCount := (getAvailableBoardCount state).toNat + 1
        descriptors := fd :: state.descriptors }

private theorem openWith_opened (env : OpenEnv) (state : LibState) (boardId : BitVec 32) (fd : Int)
    (devName : List Char) :
    Opened env state boardId fd devName
      (openWith env (received fd state) boardId (getAvailableBoardCount state) fd devName).1
      (openWith env (received fd state) boardId (getAvailableBoardCount state) fd devName).2 := by
  unfold openWith
  split
  · next uncounted => exact .noBoards uncounted
  · next counted =>
      split
      · next failed =>
          rw [received, if_pos failed]
          exact .openFailed counted failed
      · next nonnegative =>
          have added : received fd state = { state with descriptors := fd :: state.descriptors } :=
            if_neg nonnegative
          simp only [added]
          split
          · next handle found => exact .alreadyOpen counted (Int.not_lt.mp nonnegative) found
          · next absent =>
              split
              · next allocated =>
                  split
                  · next slot free =>
                      exact .stored counted (Int.not_lt.mp nonnegative) absent allocated free
                  · next full =>
                      exact .fallThrough counted (Int.not_lt.mp nonnegative) absent allocated full
              · next exhausted =>
                  have dropped : (fd :: state.descriptors).filter (· ≠ fd) =
                      state.descriptors.filter (· ≠ fd) := by simp
                  rw [closeFile, dropped]
                  exact .outOfMemory counted (Int.not_lt.mp nonnegative) absent
                    (Bool.not_eq_true _ ▸ exhausted)

/-- `vi53xx_device_open` runs through one of its outcomes, unless it reads board
records that are not there or the path does not fit. -/
theorem vi53xxDeviceOpen_opened
    (opened : vi53xxDeviceOpen env state boardId = .ok (answer, next)) :
    ∃ boards, searchedBoards state = .ok boards ∧ PathFits boards boardId ∧
      Opened env state boardId (env.openFile (devicePath boards boardId))
        (devicePath boards boardId) answer next := by
  unfold vi53xxDeviceOpen at opened
  cases searched : searchedBoards state with
  | error fault => simp [searched] at opened
  | ok boards =>
      by_cases fits : PathFits boards boardId
      · simp only [searched, getBoardHandle_fits fits, Except.ok.injEq] at opened
        have outcome := openWith_opened env state boardId (env.openFile (devicePath boards boardId))
          (devicePath boards boardId)
        rw [opened] at outcome
        exact ⟨boards, rfl, fits, outcome⟩
      · simp [searched, getBoardHandle_overruns fits] at opened

/-- With a table to search, opening completes exactly when the path fits. -/
theorem vi53xxDeviceOpen_completes_iff (searched : searchedBoards state = .ok boards) :
    (∃ outcome, vi53xxDeviceOpen env state boardId = .ok outcome) ↔ PathFits boards boardId := by
  by_cases fits : PathFits boards boardId
  · simp [vi53xxDeviceOpen, searched, getBoardHandle_fits fits, fits]
  · simp [vi53xxDeviceOpen, searched, getBoardHandle_overruns fits, fits]

theorem vi53xxDeviceOpen_completes (env : OpenEnv) (searched : searchedBoards state = .ok boards)
    (fits : PathFits boards boardId) :
    ∃ outcome, vi53xxDeviceOpen env state boardId = .ok outcome :=
  (vi53xxDeviceOpen_completes_iff searched).mpr fits

/-! ## Closing -/

/-- The outcomes of closing a board: nothing is counted as open, the counter
reaches zero, or it stays positive. -/
inductive Closed (state : LibState) (boardId : BitVec 32) : LibState → Prop where
  | uncounted (uncounted : getAvailableBoardCount state = 0 ∨ getOnlineBoardCount state = 0) :
      Closed state boardId (releaseIdx (releaseBoardInfo (releaseParvarMat state)) boardId)
  | last (counted : getAvailableBoardCount state ≠ 0) (one : getOnlineBoardCount state = 1) :
      Closed state boardId
        (releaseIdx (releaseDevHandle (releaseBoardInfo (releaseParvarMat state)) boardId) boardId)
  | remaining (counted : getAvailableBoardCount state ≠ 0)
      (several : 2 ≤ getOnlineBoardCount state) :
      Closed state boardId
        (releaseIdx (releaseDevHandle
          { releaseParvarMat state with onlineBoardCount := getOnlineBoardCount state - 1 }
          boardId) boardId)

theorem getOnlineBoardCount_nonneg : 0 ≤ getOnlineBoardCount state := by
  unfold getOnlineBoardCount
  split <;> omega

theorem vi53xxDeviceClose_closed : Closed state boardId (vi53xxDeviceClose state boardId) := by
  unfold vi53xxDeviceClose
  dsimp only
  have nonnegative : 0 ≤ getOnlineBoardCount state := getOnlineBoardCount_nonneg
  split
  · next uncounted => exact .uncounted uncounted
  · next counted =>
      obtain ⟨available, online⟩ := not_or.mp counted
      split
      · next zero =>
          have one : getOnlineBoardCount state = 1 := by omega
          rw [one]
          exact .last available one
      · next positive => exact .remaining available (by omega)

def Drops (state : LibState) : Prop :=
  getAvailableBoardCount state = 0 ∨ getOnlineBoardCount state ≤ 1

instance : Decidable (Drops state) := by
  unfold Drops
  infer_instance

theorem Closed.drops (closed : Closed state boardId next) (drops : Drops state) :
    next.availableBoardCount = 0 ∧ next.boardInfo = none ∧ next.initCheckOk = false ∧
      next.onlineBoardCount = 0 := by
  cases closed with
  | uncounted | last => exact ⟨rfl, rfl, rfl, rfl⟩
  | remaining counted several =>
      rcases drops with uncounted | few
      · exact absurd uncounted counted
      · omega

theorem Closed.keeps (closed : Closed state boardId next) (kept : ¬ Drops state) :
    next.availableBoardCount = state.availableBoardCount ∧ next.boardInfo = state.boardInfo ∧
      next.initCheckOk = state.initCheckOk ∧
      next.onlineBoardCount = getOnlineBoardCount state - 1 := by
  cases closed with
  | uncounted uncounted =>
      rcases uncounted with zero | zero
      · exact absurd (.inl zero) kept
      · exact absurd (.inr (by omega)) kept
  | last counted one => exact absurd (.inr (by omega)) kept
  | remaining => exact ⟨rfl, rfl, rfl, rfl⟩

/-- Closing empties the slots of the board, unless nothing is counted as open. -/
theorem Closed.devHandleList (closed : Closed state boardId next) :
    next.devHandleList = state.devHandleList ∧
        (getAvailableBoardCount state = 0 ∨ getOnlineBoardCount state = 0) ∨
      next.devHandleList =
        state.devHandleList.release fun handle => handle.boardId == boardId := by
  cases closed with
  | uncounted uncounted => exact .inl ⟨rfl, uncounted⟩
  | last | remaining => exact .inr rfl

theorem Closed.devHandleList_of_kept (closed : Closed state boardId next) (kept : ¬ Drops state) :
    next.devHandleList = state.devHandleList.release fun handle => handle.boardId == boardId := by
  rcases closed.devHandleList with ⟨_, zero | zero⟩ | released
  · exact absurd (.inl zero) kept
  · exact absurd (.inr (by omega)) kept
  · exact released

end Vi53xx.Lib
