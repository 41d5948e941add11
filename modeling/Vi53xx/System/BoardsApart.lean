import Vi53xx.System.Processes

/-! Boards do not interfere. What a process sees of a board after a run is what it would
see if only the calls about that board had been made, by whatever process. -/

set_option autoImplicit false

namespace Vi53xx.System

open Foundation Driver

def StackCall.boardId : StackCall → BitVec 32
  | .deviceOpen boardId _ _ | .deviceClose boardId | .board boardId _ _ _ _ => boardId

def StackCall.about (boardId : BitVec 32) (call : StackCall) : Bool := call.boardId == boardId

def AboutBoard (boardId : BitVec 32) (made : ProcessCall) : Bool := made.2.about boardId

/-- The abstract systems have the same board, whatever else they have. -/
structure SameBoard (boardId : BitVec 32) (left right : BoardSystem) : Prop where
  isOpen : left.isOpen boardId = right.isOpen boardId
  regs : left.regs boardId = right.regs boardId
  cells : left.cells boardId = right.cells boardId

/-- The process sees the same of the board: whether it is open, what its registers hold,
and which bytes it has been given. -/
structure SeenAlike (wiring : Wiring) (boardId : BitVec 32) (left right : Stack) : Prop where
  isOpen : (Lib.getDevHandle left.lib boardId).isSome = (Lib.getDevHandle right.lib boardId).isSome
  reads : (Lib.getDevHandle left.lib boardId).isSome = true → ∀ bar : BitVec 32, bar = 0 ∨ bar = 1 →
    ∀ offset, RegisterInside (wiring.length boardId bar) offset → ∀ addr stack user, ∃ leftNext rightNext,
      stackStep left
        (.board boardId (.transfer (.readRegister bar offset addr)) stack .complete user) = some leftNext ∧
      stackStep right
        (.board boardId (.transfer (.readRegister bar offset addr)) stack .complete user) = some rightNext ∧
      wordAt leftNext.machine.kernel.user addr = wordAt rightNext.machine.kernel.user addr
  dumps : (Lib.getDevHandle left.lib boardId).isSome = true → ∀ buff pos len : BitVec 64, buff ≠ 0 →
    pos.toNat + len.toNat ≤ dataSize → ∀ stack user, ∃ leftNext rightNext,
      stackStep left
        (.board boardId (.transfer (.buffer .dump 1 buff pos len)) stack .complete user) = some leftNext ∧
      stackStep right
        (.board boardId (.transfer (.buffer .dump 1 buff pos len)) stack .complete user) = some rightNext ∧
      ∀ i < len.toNat, leftNext.machine.kernel.user (buff + BitVec.ofNat 64 i) =
        rightNext.machine.kernel.user (buff + BitVec.ofNat 64 i)

variable {answers : Nat → Option (BitVec 64)} {boards : List Lib.DeviceInfo} {wiring : Wiring}
  {left right : BoardSystem} {state : Processes} {boardId other : BitVec 32}
  {calls : List ProcessCall} {call : BoardCall} {user : BitVec 64 → BitVec 8}

theorem SameBoard.take (same : SameBoard boardId left right) :
    SameBoard boardId (left.take boardId call user) (right.take boardId call user) where
  isOpen := same.isOpen
  regs := by simp only [BoardSystem.take, if_true, same.regs]
  cells := by simp only [BoardSystem.take, if_true, same.cells]

theorem SameBoard.take_other (same : SameBoard boardId left right) (different : other ≠ boardId) :
    SameBoard boardId (left.take other call user) right where
  isOpen := same.isOpen
  regs := (if_neg different.symm).trans same.regs
  cells := (if_neg different.symm).trans same.cells

theorem boards_unwinding : Unwinding BoardSystem.step (StackCall.about boardId) (SameBoard boardId) where
  consistent := by
    intro left right call mine same
    have named : call.boardId = boardId := by simpa [StackCall.about] using mine
    subst named
    cases call with
    | deviceOpen | deviceClose =>
        exact ⟨(if_pos rfl).trans (if_pos rfl).symm, same.regs, same.cells⟩
    | board target call stack outcome user =>
        have isOpen : left.isOpen target = right.isOpen target := same.isOpen
        simp only [BoardSystem.step, isOpen]
        split
        · exact same.take
        · exact same
  unseen := by
    intro left right call foreign same
    have different : call.boardId ≠ boardId := by simpa [StackCall.about] using foreign
    cases call with
    | deviceOpen | deviceClose =>
        exact ⟨(if_neg fun here => different here.symm).trans same.isOpen, same.regs, same.cells⟩
    | board target call stack outcome user =>
        simp only [BoardSystem.step]
        split
        · exact same.take_other different
        · exact same

theorem allowed_alone {call : StackCall} (mine : call.about boardId = true)
    (same : SameBoard boardId left right) (allowed : Allowed boards wiring left call) :
    Allowed boards wiring right call := by
  have named : call.boardId = boardId := by simpa [StackCall.about] using mine
  subst named
  cases call with
  | deviceOpen target pick mallocOk => exact allowed
  | deviceClose target => exact same.isOpen.symm.trans allowed
  | board target call stack outcome user => exact fun isOpen => allowed (same.isOpen.trans isOpen)

/-- Which process has the board open is said of each process, and what the board holds of
the board. -/
theorem sameBoard_separate : Family.Separate boardSharing boardSharing (SameBoard boardId) :=
  fun _ _ _ _ own common => ⟨own.isOpen, common.regs, common.cells⟩

theorem shared_unwinding : Unwinding SharedBoards.step (AboutBoard boardId)
    (fun left right => ∀ pid, SameBoard boardId (SharedBoards.process left pid)
      (SharedBoards.process right pid)) :=
  Family.unwinding sameBoard_separate boards_unwinding

/-- The calls about a board can be made without the others, and leave the board the same. -/
theorem about_board (allowed : AllowedRun boards wiring state calls) (boardId : BitVec 32) :
    AllowedRun boards wiring state (calls.filter (AboutBoard boardId)) ∧
      ∀ pid, SameBoard boardId (SharedBoards.process (specAfter wiring state calls) pid)
        (SharedBoards.process (specAfter wiring state (calls.filter (AboutBoard boardId))) pid) := by
  have start : ∀ pid, SameBoard boardId
      (SharedBoards.process (SharedBoards.start wiring state.common.kernel) pid)
      (SharedBoards.process (SharedBoards.start wiring state.common.kernel) pid) :=
    fun _ => ⟨rfl, rfl, rfl⟩
  exact ⟨shared_unwinding.eachStep_purge
    (fun _ _ made mine same allowed => allowed_alone mine (same made.1) allowed) start allowed,
    shared_unwinding.purge start⟩

theorem seenAlike {one two : Stack} {info : Lib.DeviceInfo} (member : info ∈ boards)
    (shows : Shows boards wiring left one) (others : Shows boards wiring right two)
    (same : SameBoard info.boardId left right) : SeenAlike wiring info.boardId one two := by
  have openBoth : (Lib.getDevHandle one.lib info.boardId).isSome = true →
      left.isOpen info.boardId = true ∧ right.isOpen info.boardId = true := by
    intro held
    rw [shows.isOpen info member] at held
    exact ⟨held, same.isOpen.symm.trans held⟩
  refine ⟨?_, ?_, ?_⟩
  · rw [shows.isOpen info member, others.isOpen info member]
    exact same.isOpen
  · intro held bar inside offset register addr stack user
    obtain ⟨first, second⟩ := openBoth held
    obtain ⟨leftNext, ranLeft, leftWord⟩ :=
      shows.reads info member first bar inside offset register addr stack user
    obtain ⟨rightNext, ranRight, rightWord⟩ :=
      others.reads info member second bar inside offset register addr stack user
    refine ⟨leftNext, rightNext, ranLeft, ranRight, ?_⟩
    rw [leftWord, rightWord, same.regs]
  · intro held buff pos len pointed inside stack user
    obtain ⟨first, second⟩ := openBoth held
    obtain ⟨leftNext, ranLeft, leftBytes⟩ :=
      shows.dumps info member first buff pos len pointed inside stack user
    obtain ⟨rightNext, ranRight, rightBytes⟩ :=
      others.dumps info member second buff pos len pointed inside stack user
    refine ⟨leftNext, rightNext, ranLeft, ranRight, ?_⟩
    intro i below
    rw [leftBytes i below, rightBytes i below, same.cells]

/-- After an allowed run, each process sees of a board what it sees after the calls of all
processes about the board alone. -/
theorem boards_do_not_interfere
    (started : ∀ pid, Started answers boards wiring (Processes.process state pid))
    (allowed : AllowedRun boards wiring state calls) :
    ∀ info ∈ boards, ∃ all alone, runFrom processStep state calls = some all ∧
      runFrom processStep state (calls.filter (AboutBoard info.boardId)) = some alone ∧
      ∀ pid, SeenAlike wiring info.boardId (Processes.process all pid) (Processes.process alone pid) := by
  intro info member
  obtain ⟨kept, same⟩ := about_board allowed info.boardId
  obtain ⟨all, ran, shows⟩ := shows_after started allowed
  obtain ⟨alone, ranAlone, showsAlone⟩ := shows_after started kept
  exact ⟨all, alone, ran, ranAlone, fun pid =>
    seenAlike member (shows pid) (showsAlone pid) (same pid)⟩

theorem boards_do_not_interfere_two :
    ∃ boards state,
      (∀ pid, Started (fun _ => some 0x10000) boards twoWiring (Processes.process state pid)) ∧
      ∀ info ∈ boards, ∃ all alone, runFrom processStep state twoCalls = some all ∧
        runFrom processStep state (twoCalls.filter (AboutBoard info.boardId)) = some alone ∧
        ∀ pid, SeenAlike twoWiring info.boardId (Processes.process all pid)
          (Processes.process alone pid) := by
  obtain ⟨boards, state, started, ids, _⟩ := two_started
  exact ⟨boards, state, started, boards_do_not_interfere started (twoCalls_allowed ids)⟩

end Vi53xx.System
