import Vi53xx.Driver.Registry

/-! Boards that come and go: probing and removal, first as whole calls beside the
LED commands, then step by step, with the calls for different devices interleaved. -/

set_option autoImplicit false

namespace Vi53xx.Driver

/-- The driver with what the kernel holds for it: the driver data of the devices,
and the LED timers that are pending, by the record they are part of. -/
structure Plugged where
  registry : Registry
  drvdata : PciDev → Option Nat
  ledTimers : Nat → Bool
  /-- The records of the boards whose removal has returned. -/
  removed : List Nat

/-- The driver after its module init, with the majors it has been given. -/
def Plugged.start (outcome : ProcOutcome) (major : Fin boardTepeNum → BitVec 32) : Plugged where
  registry := (initBoardInfo true outcome (Registry.unloaded major)).2
  drvdata := fun _ => none
  ledTimers := fun _ => false
  removed := []

def Plugged.devSetDrvdata (pdev : PciDev) (data : Option Nat) (state : Plugged) : Plugged :=
  { state with drvdata := fun device => if device = pdev then data else state.drvdata device }

/-! ## Probing and removal -/

/-- `vi53xx_dev_clean`, which takes the character device away and nothing else: the
proc entry stays, and so does the timer. -/
def vi53xxDevClean (xpdev : Nat) (registry : Registry) : Registry :=
  match registry.xpdevs xpdev with
  | some record => { registry with cdevs := registry.cdevs.erase record.ctrlCdev.cdevno }
  | none => registry

def listAdd (xpdev : Nat) (registry : Registry) : Registry :=
  { registry with pcieDeviceList := xpdev :: registry.pcieDeviceList }

/-- `list_del`, on a record that still holds its list node. -/
def listDel (xpdev : Nat) (registry : Registry) : Registry :=
  { registry with pcieDeviceList := registry.pcieDeviceList.filter (· ≠ xpdev) }

def probe (outcome : ProbeOutcome) (readReg : BitVec 32 → BitVec 32) (pdev : PciDev)
    (state : Plugged) : Plugged :=
  let (rv, registry) := xdmaProbe outcome readReg pdev state.registry
  let plugged := { state with registry }
  if rv = 0 then plugged.devSetDrvdata pdev (some state.registry.allocated) else plugged

/-- `xdma_free_resource` frees DMA buffers, which are not part of these records. -/
def xdmaRemove (pdev : PciDev) (state : Plugged) : Plugged :=
  match state.drvdata pdev with
  | none => state
  | some xpdev =>
      let registry := vi53xxDevClean xpdev state.registry
      -- The node is taken off the list after the record around it has been freed.
      let registry := listDel xpdev (xpdevFree xpdev registry)
      let plugged := { state with registry, removed := xpdev :: state.removed }
      plugged.devSetDrvdata pdev none

/-! ## The LED -/

def setCreateFlag (xpdev : Nat) (record : XdmaPciDev) (createFlag : Bool) (registry : Registry) :
    Registry :=
  let info := { record.ctrlCdev.info with createFlag }
  let record := { record with ctrlCdev := { record.ctrlCdev with info } }
  { registry with xpdevs := fun address =>
      if address = xpdev then some record else registry.xpdevs address }

def callBlinkControl (on : Bool) (xpdev : Nat) (record : XdmaPciDev) (state : Plugged) : Plugged :=
  if on && record.ctrlCdev.info.createFlag then state
  else
    { state with
      registry := setCreateFlag xpdev record on state.registry
      ledTimers := fun address => if address = xpdev then on else state.ledTimers address }

/-- Writing `on` or `off` to a file under `/proc/vi53xx`, unless it goes to a freed record. -/
def deviceWrite (name : List Char) (on : Bool) (state : Plugged) : Option Plugged :=
  match state.registry.procEntries.find? fun entry => entry.name == name with
  | some ⟨_, .device xpdev⟩ =>
      (state.registry.xpdevs xpdev).map fun record => callBlinkControl on xpdev record state
  | _ => some state

/-- `timer_isr` toggles the LED and adds its timer again. -/
def timerIsr (xpdev : Nat) (state : Plugged) : Option Plugged :=
  if state.ledTimers xpdev then (state.registry.xpdevs xpdev).map fun _ => state else none

inductive PlugCall where
  | probe (outcome : ProbeOutcome) (readReg : BitVec 32 → BitVec 32) (pdev : PciDev)
  | remove (pdev : PciDev)
  | deviceWrite (name : List Char) (on : Bool)
  | timerIsr (xpdev : Nat)

/-- No device is probed that has a driver, and no timer goes off that is not pending. -/
def plugStep (state : Plugged) : PlugCall → Option Plugged
  | .probe outcome readReg pdev =>
      if (state.drvdata pdev).isSome then none else some (probe outcome readReg pdev state)
  | .remove pdev => some (xdmaRemove pdev state)
  | .deviceWrite name on => deviceWrite name on state
  | .timerIsr xpdev => timerIsr xpdev state

/-! ## Step by step -/

/-- What a call of the driver does next with the record it works on: the steps of
`xdma_probe` up to `setDrvdata`, its error exit, and the steps of `xdma_remove`. -/
inductive Stage where
  | deviceMap
  | devInit
  | channelInit
  | listAdd
  | setDrvdata
  | errOut
  | devClean
  | freeResource
  | xpdevFree
  | listDel
  | clearDrvdata
  deriving DecidableEq, Repr

/-- The calls under way, at most one for each device. -/
structure Hotplug where
  plugged : Plugged
  doing : PciDev → Option (Stage × Nat)

/-- One device whose call is to take its next step, with what the step meets. -/
structure Turn where
  pdev : PciDev
  outcome : ProbeOutcome
  readReg : BitVec 32 → BitVec 32

def Hotplug.proceed (pdev : PciDev) (next : Option (Stage × Nat)) (plugged : Plugged)
    (state : Hotplug) : Hotplug where
  plugged := plugged
  doing := fun device => if device = pdev then next else state.doing device

/-- A device without a call under way is probed when it has no driver data, and
removed when it has. -/
def turn (state : Hotplug) (t : Turn) : Hotplug :=
  let plugged := state.plugged
  let registry := plugged.registry
  let proceed := fun next plugged => state.proceed t.pdev next plugged
  match state.doing t.pdev with
  | none =>
      match plugged.drvdata t.pdev with
      | some xpdev => proceed (some (.devClean, xpdev)) plugged
      | none =>
          if t.outcome.xpdevAlloc then
            proceed (some (.deviceMap, registry.allocated))
              { plugged with registry := { registry with allocated := registry.allocated + 1 } }
          else state
  | some (.deviceMap, xpdev) =>
      proceed (some (if t.outcome.deviceMap then .devInit else .errOut, xpdev)) plugged
  | some (.devInit, xpdev) =>
      let (rv, registry) := createCdev t.outcome t.readReg xpdev t.pdev registry
      proceed (some (if rv < 0 then .errOut else .channelInit, xpdev)) { plugged with registry }
  | some (.channelInit, xpdev) => proceed (some (.listAdd, xpdev)) plugged
  | some (.listAdd, xpdev) =>
      proceed (some (.setDrvdata, xpdev)) { plugged with registry := listAdd xpdev registry }
  | some (.setDrvdata, xpdev) => proceed none (plugged.devSetDrvdata t.pdev (some xpdev))
  | some (.errOut, xpdev) => proceed none { plugged with registry := xpdevFree xpdev registry }
  | some (.devClean, xpdev) =>
      proceed (some (.freeResource, xpdev))
        { plugged with registry := vi53xxDevClean xpdev registry }
  | some (.freeResource, xpdev) => proceed (some (.xpdevFree, xpdev)) plugged
  | some (.xpdevFree, xpdev) =>
      proceed (some (.listDel, xpdev)) { plugged with registry := xpdevFree xpdev registry }
  | some (.listDel, xpdev) =>
      proceed (some (.clearDrvdata, xpdev)) { plugged with registry := listDel xpdev registry }
  | some (.clearDrvdata, xpdev) =>
      let plugged := { plugged with removed := xpdev :: plugged.removed }
      proceed none (plugged.devSetDrvdata t.pdev none)

def turnStep (state : Hotplug) (t : Turn) : Option Hotplug := some (turn state t)

/-! ## A driver with three majors -/

def givenMajors (n : Fin boardTepeNum) : BitVec 32 := BitVec.ofNat 32 (240 + n.val)

/-- A board of type ES5341 with board id 1, for which the kernel refuses nothing. -/
def es5341Turn : Turn where
  pdev := ⟨0x10EE, 0x16F2, 0, 1, 0⟩
  outcome := ProbeOutcome.allOk
  readReg offset :=
    if offset = deviceBoardType then es5341Id else if offset = deviceBoardId then 1 else 0

def es5341Plug : PlugCall := .probe es5341Turn.outcome es5341Turn.readReg es5341Turn.pdev

end Vi53xx.Driver
