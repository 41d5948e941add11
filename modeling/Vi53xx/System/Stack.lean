import Vi53xx.Driver.BufferStore
import Vi53xx.Driver.DeviceFiles
import Vi53xx.Lib.Calls
import Vi53xx.Lib.ChannelRequests
import Vi53xx.System.TransferReports

/-! A process with its boards: the library, the files it has open, and the driver behind
them. A call about a board goes from the handle table to a descriptor, from there to the
file, and to the board the file is of. -/

set_option autoImplicit false

namespace Vi53xx.System

open Foundation Driver

/-- What a process asks of a board that it has opened, or has not. -/
inductive BoardCall where
  | transfer (call : TransferCall)
  | start (channel direction : BitVec 32)
  | stop (channel direction : BitVec 32)
  deriving DecidableEq

def BoardCall.sent (state : Lib.LibState) (stack : XdmaInfo) (boardId : BitVec 32) :
    BoardCall → Lib.Sent
  | .transfer call => call.sent state stack boardId
  | .start channel direction => Lib.vi53xxXdmaStart state stack boardId channel direction
  | .stop channel direction => Lib.vi53xxXdmaStop state stack boardId channel direction

/-- `files` says which board a descriptor is of, as long as it is open. -/
structure Stack where
  lib : Lib.LibState
  files : Int → Option Nat
  machine : Machine

/-- A descriptor for a new file, by those that are open. -/
abbrev Pick := List Int → Int

/-- `user` is the memory of the process at a call. -/
inductive StackCall where
  | deviceOpen (boardId : BitVec 32) (pick : Pick) (mallocOk : Bool)
  | deviceClose (boardId : BitVec 32)
  | board (boardId : BitVec 32) (call : BoardCall) (stack : XdmaInfo) (outcome : CopyOutcome)
      (user : BitVec 64 → BitVec 8)

/-- `open(2)` on a path, which gives a descriptor where the driver has a device file. -/
def fileEnv (registry : Registry) (fd : Int) (mallocOk : Bool) : Lib.OpenEnv where
  openFile path := if (registry.fileBoard path).isSome then fd else -1
  mallocOk := mallocOk

/-- The board whose file a descriptor is open on. -/
def Stack.file (state : Stack) (fd : Int) : Option Nat :=
  if fd ∈ state.lib.descriptors then state.files fd else none

def Stack.opened (state : Stack) (boardId : BitVec 32) (fd : Int) (mallocOk : Bool) : Option Stack := do
  let registry := state.machine.plugged.registry
  let boards ← (Lib.searchedBoards state.lib).toOption
  let (_, lib) ← (Lib.vi53xxDeviceOpen (fileEnv registry fd mallocOk) state.lib boardId).toOption
  some { state with
    lib
    files := fun other =>
      if other = fd then registry.fileBoard (Lib.devicePath boards boardId) else state.files other }

/-- An `ioctl` on a descriptor; one that is not open is turned down. -/
def Stack.ioctl (state : Stack) (outcome : CopyOutcome) (user : BitVec 64 → BitVec 8) :
    Lib.Sent → Option Stack
  | .error _ => some state
  | .ok (fd, cmd, info) =>
      match state.file fd with
      | none => some state
      | some xpdev =>
          let kernel := { state.machine.kernel with user }
          (requestMachine xpdev (.ioctl cmd info outcome) { state.machine with kernel }).map
            fun machine => { state with machine }

def stackStep (state : Stack) : StackCall → Option Stack
  | .deviceOpen boardId pick mallocOk =>
      state.opened boardId (pick state.lib.descriptors) mallocOk
  | .deviceClose boardId => some { state with lib := Lib.vi53xxDeviceClose state.lib boardId }
  | .board boardId call stack outcome user =>
      state.ioctl outcome user (call.sent state.lib stack boardId)

/-! ## The abstract system -/

/-- Boards as a user sees them: which ones are open, and for each its registers, by BAR,
and the bytes that it has been given to send. -/
structure BoardSystem where
  isOpen : BitVec 32 → Bool
  regs : BitVec 32 → BitVec 32 → BitVec 32 → BitVec 32
  cells : BitVec 32 → Nat → BitVec 8

/-- A register write: BAR, offset and value. -/
abbrev RegWrite := BitVec 32 × BitVec 32 × BitVec 32

def engineStart : BitVec 32 := (1#32 <<< 26) ||| (1#32 <<< 2) ||| 1#32

/-- The control register of a channel, which starts and stops it. -/
def engineReg (channel direction : BitVec 32) : BitVec 32 :=
  channelReg (controlReg (direction.setWidth 8)) (channel.setWidth 8 - 1)

/-- The library passes the request on. -/
def ChannelPassed (channel direction : BitVec 32) : Prop :=
  ¬ Lib.channelRefused channel ∧ direction.setWidth 8 ≤ (1 : BitVec 8)

instance (channel direction : BitVec 32) : Decidable (ChannelPassed channel direction) :=
  inferInstanceAs (Decidable (_ ∧ _))

/-- The register that a call writes, if it comes to the card. -/
def BoardCall.write : BoardCall → Option RegWrite
  | .transfer (.writeRegister bar offset val) =>
      if bar = 0 ∨ bar = 1 then some (bar, offset, val) else none
  | .transfer (.readRegister _ _ _) | .transfer (.buffer _ _ _ _ _) => none
  | .start channel direction =>
      if ChannelPassed channel direction then some (1, engineReg channel direction, engineStart)
      else none
  | .stop channel direction =>
      if ChannelPassed channel direction then some (1, engineReg channel direction, DMA_STOP)
      else none

/-- The bytes that a call gives to a board, if it comes to the card. -/
def BoardCall.piece (user : BitVec 64 → BitVec 8) : BoardCall → Option (Piece (BitVec 8))
  | .transfer (.buffer .write channel buff pos len) =>
      if buff = 0 then none else some (Driver.piece (Lib.bufferInfo .cleared channel buff pos len) user)
  | .transfer (.buffer .read _ _ _ _) | .transfer (.buffer .dump _ _ _ _)
  | .transfer (.readRegister _ _ _) | .transfer (.writeRegister _ _ _) | .start _ _ | .stop _ _ => none

def regsAfter (regs : BitVec 32 → BitVec 32 → BitVec 32) :
    Option RegWrite → BitVec 32 → BitVec 32 → BitVec 32
  | none => regs
  | some (bar, offset, val) => fun other place =>
      if other = bar ∧ place = offset then val else regs other place

def cellsAfter (cells : Nat → BitVec 8) : Option (Piece (BitVec 8)) → Nat → BitVec 8
  | none => cells
  | some piece => splice cells piece

/-- A call that the driver has read. -/
def BoardSystem.take (boards : BoardSystem) (boardId : BitVec 32) (call : BoardCall)
    (user : BitVec 64 → BitVec 8) : BoardSystem :=
  { boards with
    regs := fun other =>
      if other = boardId then regsAfter (boards.regs boardId) call.write else boards.regs other
    cells := fun other =>
      if other = boardId then cellsAfter (boards.cells boardId) (call.piece user)
      else boards.cells other }

def BoardSystem.step (boards : BoardSystem) : StackCall → BoardSystem
  | .deviceOpen boardId _ _ =>
      { boards with isOpen := fun other => if other = boardId then true else boards.isOpen other }
  | .deviceClose boardId =>
      { boards with isOpen := fun other => if other = boardId then false else boards.isOpen other }
  | .board boardId call _ outcome user =>
      if boards.isOpen boardId ∧ outcome.infoMissed = 0 then boards.take boardId call user
      else boards

end Vi53xx.System
