import Vi53xx.Driver.Bounds
import Vi53xx.Driver.DeviceMap
import Vi53xx.Driver.Hotplug
import Vi53xx.Driver.Led

/-! The whole driver under its calls: boards that are probed and removed, with the
memory and the bus resources they take, and the requests they answer in between. An
access behind a BAR or a buffer ends a run, as one through NULL does. -/

set_option autoImplicit false

namespace Vi53xx.Driver

open Foundation

/-- The `xdma_dev` of a board, with the device its record belongs to and the lengths of
its BARs. -/
structure Board where
  pdev : PciDev
  hold : BusHold
  xdev : XdmaDev
  length : Fin xdmaBarNum → BitVec 64

/-- `boards` is the heap of `xdma_dev` structures, and `leds` has the blink states of the
records, by the number of the record. -/
structure Machine where
  plugged : Plugged
  kernel : Kernel
  boards : Nat → Option Board
  leds : Nat → BitVec 32
  ledger : Holdings

def Machine.start (outcome : ProcOutcome) (major : Fin boardTepeNum → BitVec 32) (kernel : Kernel) :
    Machine where
  plugged := Plugged.start outcome major
  kernel := kernel
  boards := fun _ => none
  leds := fun _ => LED_BLINK_OFF
  ledger := .empty

def Machine.setBoard (xpdev : Nat) (board : Option Board) (state : Machine) : Machine :=
  { state with boards := fun other => if other = xpdev then board else state.boards other }

/-- What a probe meets before it comes to the channels. -/
structure ProbeEnv where
  outcome : ProbeOutcome
  map : DeviceMapEnv
  readReg : BitVec 32 → BitVec 32

/-- The outcome with the answer that `xdma_device_map` has come to. -/
def ProbeEnv.mapped (env : ProbeEnv) (deviceMap : Bool) : ProbeOutcome :=
  { env.outcome with deviceMap }

variable (answers : Nat → Option (BitVec 64))

/-- `xdma_probe` from `vi53xx_dev_init` on. A board without BAR 0 has its type read
through a NULL pointer; the type is the last of the registers that are read there. -/
def probeMapped (env : ProbeEnv) (pdev : PciDev) (hold : BusHold) (ledger : Holdings)
    (state : Machine) : Option Machine :=
  let xpdev := state.plugged.registry.allocated
  if (hold.bar 0).isNone ∨ ¬ InBar (env.map.bars.length 0) deviceBoardType then none
  else
    let plugged := probe (env.mapped true) env.readReg pdev state.plugged
    let kernel := state.kernel.xpdevAlloc xpdev
    if (xdmaProbe (env.mapped true) env.readReg pdev state.plugged.registry).1 < 0 then
      some { state with plugged, kernel, ledger := xpdevRelease xpdev pdev (some hold) ledger }
    else if ¬ ChannelInitInside (env.map.bars.length 1) then none
    else
      match xdmaChannelInit answers (.allocated xpdev hold.bar) kernel with
      | (.error _, _) => none
      | (.ok xdev, next) =>
          some (({ state with
            plugged
            kernel := next
            ledger := ledger.take (dmaTaken answers kernel next) } : Machine).setBoard xpdev
              (some ⟨pdev, hold, xdev, env.map.bars.length⟩))

/-- `xdma_probe`. -/
def probeMachine (env : ProbeEnv) (pdev : PciDev) (state : Machine) : Option Machine :=
  let xpdev := state.plugged.registry.allocated
  if env.outcome.xpdevAlloc then
    match xdmaDeviceMap env.map xpdev pdev (state.ledger.take [.xpdev xpdev]) with
    | (none, ledger) =>
        some { state with
          plugged := probe (env.mapped false) env.readReg pdev state.plugged
          kernel := state.kernel.xpdevAlloc xpdev
          ledger := xpdevRelease xpdev pdev none ledger }
    | (some hold, ledger) => probeMapped answers env pdev hold ledger state
  else some { state with plugged := probe env.outcome env.readReg pdev state.plugged }

/-- `xdma_remove`, on a record whose device has not been freed. `intact` says whether the
record still holds its list node when `list_del` comes to it, after `xpdev_free`. -/
def removeMachine (pdev : PciDev) (intact : Bool) (state : Machine) : Option Machine :=
  match state.plugged.drvdata pdev with
  | none => some state
  | some xpdev =>
      if intact then do
        let board ← state.boards xpdev
        match xdmaFreeResource state.kernel (some board.xdev) with
        | .error _ => none
        | .ok calls =>
            some (({ state with
              plugged := xdmaRemove pdev state.plugged
              ledger := xpdevRelease xpdev board.pdev (some board.hold)
                (state.ledger.giveBack (freedBlocks calls)) } : Machine).setBoard xpdev none)
      else none

/-- A request on a file of a board, unless it faults, leaves the board's buffers or BARs, or
comes to a record that has been freed. -/
def requestMachine (xpdev : Nat) (request : Request) (state : Machine) : Option Machine :=
  match state.boards xpdev with
  | none => if request.OfBoard then none else some state
  | some board =>
      if request.Inside board.xdev board.length state.kernel then
        match answer board.xdev request state.kernel with
        | (.error _, _) => none
        | (.ok _, kernel) => some { state with kernel }
      else none

/-- The blink state of a record, which is written to the LED register behind its BAR 0. -/
def Machine.setLed (xpdev : Nat) (value : BitVec 32) (state : Machine) : Machine :=
  let regBase := (state.boards xpdev).bind fun board => board.xdev.bar 0
  { state with
    leds := fun other => if other = xpdev then value else state.leds other
    kernel := { state.kernel with
      regs := fun base place =>
        if regBase = some base ∧ place = deviceLedBlink then value else state.kernel.regs base place } }

/-- The record whose file under `/proc/vi53xx` has the name. -/
def Registry.deviceNamed (registry : Registry) (name : List Char) : Option Nat :=
  match registry.procEntries.find? fun entry => entry.name == name with
  | some ⟨_, .device xpdev⟩ => some xpdev
  | _ => none

/-- `device_write` of `on` or `off` on the machine; `on` leaves the LED to the timer. -/
def deviceWriteMachine (name : List Char) (on : Bool) (state : Machine) : Option Machine :=
  (deviceWrite name on state.plugged).map fun plugged =>
    match state.plugged.registry.deviceNamed name with
    | some xpdev =>
        if on then { state with plugged }
        else ({ state with plugged } : Machine).setLed xpdev LED_BLINK_OFF
    | none => { state with plugged }

def timerIsrMachine (xpdev : Nat) (state : Machine) : Option Machine :=
  (timerIsr xpdev state.plugged).map fun plugged =>
    ({ state with plugged } : Machine).setLed xpdev
      (if state.leds xpdev = LED_BLINK_ON then LED_BLINK_OFF else LED_BLINK_ON)

inductive MachineCall where
  | probe (env : ProbeEnv) (pdev : PciDev)
  | remove (pdev : PciDev) (intact : Bool)
  | request (xpdev : Nat) (request : Request)
  | deviceWrite (name : List Char) (on : Bool)
  | timerIsr (xpdev : Nat)

def machineStep (state : Machine) : MachineCall → Option Machine
  | .probe env pdev =>
      if (state.plugged.drvdata pdev).isSome then none else probeMachine answers env pdev state
  | .remove pdev intact => removeMachine pdev intact state
  | .request xpdev request => requestMachine xpdev request state
  | .deviceWrite name on => deviceWriteMachine name on state
  | .timerIsr xpdev => timerIsrMachine xpdev state

end Vi53xx.Driver
