import Vi53xx.Driver.XdmaCtrl
import Vi53xx.Foundation.Runs

/-! The driver under the requests of its clients, one after the other. All boards
share the one kernel state. -/

set_option autoImplicit false

namespace Vi53xx.Driver

open Foundation

inductive Request where
  | ioctl (cmd : BitVec 32) (info : XdmaInfo) (outcome : CopyOutcome)
  | mmap (outcome : Int)

def answer (xdev : XdmaDev) : Request → KernelM Int
  | .ioctl cmd info outcome => vi53xxIoctl xdev cmd info outcome
  | .mmap outcome => vi53xxXdmaMmap xdev outcome

structure DriverCall where
  board : Nat
  request : Request

def Kernel.untraced (state : Kernel) : Kernel := { state with trace := [] }

/-- A call with the log of what it touches, and nothing earlier. -/
def handled (devices : Nat → XdmaDev) (state : Kernel) (call : DriverCall) :
    Except Fault Int × Kernel :=
  answer (devices call.board) call.request state.untraced

/-- A fault ends the run. -/
def driverStep (devices : Nat → XdmaDev) (state : Kernel) (call : DriverCall) : Option Kernel :=
  match handled devices state call with
  | (.ok _, next) => some next
  | (.error _, _) => none

end Vi53xx.Driver
