import Vi53xx.Driver.BoardInfo

/-! What the driver keeps about all its boards: instance counters, character
devices, the list of devices and the entries under `/proc/vi53xx`. What the
kernel decides (allocations, registrations) is an argument. -/

set_option autoImplicit false

namespace Vi53xx.Driver

open Foundation.CText

/-- A `dev_t` has 20 bits for the minor number. -/
def MKDEV (major minor : BitVec 32) : BitVec 32 := (major <<< 20) ||| minor

def MAJOR (dev : BitVec 32) : BitVec 32 := dev >>> 20

def MINOR (dev : BitVec 32) : BitVec 32 := dev &&& 0xFFFFF#32

structure PciDev where
  vendor : BitVec 16
  device : BitVec 16
  domain : BitVec 32
  bus : BitVec 8
  devfn : BitVec 8
  deriving DecidableEq, Repr

structure XdmaCdev where
  cdevno : BitVec 32
  info : DeviceInfo
  deriving DecidableEq, Repr

structure XdmaPciDev where
  pdev : PciDev
  ctrlCdev : XdmaCdev
  deriving DecidableEq, Repr

/-- What serves a proc entry; a device's entry carries its `xdma_cdev`. -/
inductive ProcFops where
  | boards
  | mapping
  | device (xpdev : Nat)
  deriving DecidableEq, Repr

structure ProcEntry where
  name : List Char
  fops : ProcFops
  deriving DecidableEq, Repr

/-- `xpdevs` is the heap of `xdma_pci_dev` records by address. -/
structure Registry where
  boardNameList : List BoardInfo
  major : Fin boardTepeNum → BitVec 32
  parentDir : Bool
  procEntries : List ProcEntry
  cdevs : List (BitVec 32)
  xpdevs : Nat → Option XdmaPciDev
  allocated : Nat
  pcieDeviceList : List Nat

/-- The driver before its module init, with the majors it will be given. -/
def Registry.unloaded (major : Fin boardTepeNum → BitVec 32) : Registry where
  boardNameList := []
  major := major
  parentDir := false
  procEntries := []
  cdevs := []
  xpdevs := fun _ => none
  allocated := 0
  pcieDeviceList := []

/-! ## Proc entries -/

/-- `proc_create`, which refuses a name that is taken. -/
def procCreate (ok : Bool) (name : List Char) (fops : ProcFops) (registry : Registry) :
    Bool × Registry :=
  if ok && registry.procEntries.all fun entry => entry.name != name then
    (true, { registry with procEntries := registry.procEntries ++ [⟨name, fops⟩] })
  else (false, registry)

def devBoards : List Char := "boards".toList

def devMaping : List Char := "mapping".toList

structure ProcOutcome where
  mkdir : Bool
  boards : Bool
  mapping : Bool

def createBoardProc (outcome : ProcOutcome) (registry : Registry) : Int × Registry :=
  let registry := { registry with parentDir := outcome.mkdir }
  if outcome.mkdir then
    match procCreate outcome.boards devBoards .boards registry with
    | (true, registry) => (0, registry)
    | (false, registry) => (-1, { registry with procEntries := [] })
  else (-1, registry)

def createInstanceBoardIdMmap (outcome : ProcOutcome) (registry : Registry) : Int × Registry :=
  if registry.parentDir then
    match procCreate outcome.mapping devMaping .mapping registry with
    | (true, registry) => (0, registry)
    | (false, registry) => (-1, { registry with procEntries := [] })
  else (-1, registry)

def createBoardsInfoProc (outcome : ProcOutcome) (registry : Registry) : Int × Registry :=
  createInstanceBoardIdMmap outcome (createBoardProc outcome registry).2

/-- `init_board_info`; `memory` says whether one of the two allocations succeeds. -/
def initBoardInfo (memory : Bool) (outcome : ProcOutcome) (registry : Registry) : Int × Registry :=
  if memory then
    (0, (createBoardsInfoProc outcome { registry with
      boardNameList := initialBoardNameList }).2)
  else (-ENOMEM, registry)

def createProcDevice (ok : Bool) (xpdev : Nat) (name : List Char) (registry : Registry) : Registry :=
  if registry.parentDir then (procCreate ok name (.device xpdev) registry).2 else registry

/-! ## Probing -/

/-- What the kernel answers in a probe. `deviceCreate` says that `device_create` has not
given NULL, which is all that the driver tests: an error pointer counts as a success. -/
structure ProbeOutcome where
  xpdevAlloc : Bool
  deviceMap : Bool
  kobjectSetName : Int
  cdevAdd : Int
  deviceCreate : Bool
  procCreate : Bool

def ProbeOutcome.allOk : ProbeOutcome := ⟨true, true, 0, 0, true, true⟩

/-- `create_cdev` for the record at address `xpdev`. The comparison of the
unsigned instance number with 0 never holds and is left out. -/
def createCdev (outcome : ProbeOutcome) (readReg : BitVec 32 → BitVec 32) (xpdev : Nat)
    (pdev : PciDev) (registry : Registry) : Int × Registry :=
  let incaDt := readReg deviceBoardType
  let (instance_, boardNameList) := getBoardInstance incaDt registry.boardNameList
  let registry := { registry with boardNameList }
  match getBoardName incaDt, getMajorIdx incaDt boardNameList with
  | some name, some n =>
      if bounded : n < boardTepeNum then
        let cdevno := MKDEV (registry.major ⟨n, bounded⟩) instance_
        let info := initDeviceInfo readReg instance_
        let deviceName := name ++ '_' :: decimal (MINOR cdevno).toInt
        let registry := { registry with
          xpdevs := fun address =>
            if address = xpdev then some ⟨pdev, cdevno, info⟩ else registry.xpdevs address }
        if outcome.kobjectSetName < 0 then (outcome.kobjectSetName, registry)
        else if outcome.cdevAdd < 0 then (-EINVAL, registry)
        else if outcome.deviceCreate then
          (0, createProcDevice outcome.procCreate xpdev deviceName
            { registry with cdevs := cdevno :: registry.cdevs })
        else (-1, registry)
      else (-EINVAL, registry)
  | _, _ => (-EINVAL, registry)

def xpdevFree (xpdev : Nat) (registry : Registry) : Registry :=
  { registry with xpdevs := fun address =>
      if address = xpdev then none else registry.xpdevs address }

/-- `xdma_probe` as far as the records of this module go; `xdma_channel_init`
always answers 0. -/
def xdmaProbe (outcome : ProbeOutcome) (readReg : BitVec 32 → BitVec 32) (pdev : PciDev)
    (registry : Registry) : Int × Registry :=
  if !outcome.xpdevAlloc then (-ENOMEM, registry)
  else
    let xpdev := registry.allocated
    let registry := { registry with allocated := registry.allocated + 1 }
    if !outcome.deviceMap then (-EINVAL, xpdevFree xpdev registry)
    else
      let (rv, registry) := createCdev outcome readReg xpdev pdev registry
      if rv < 0 then (-EINVAL, xpdevFree xpdev registry)
      else (0, { registry with pcieDeviceList := xpdev :: registry.pcieDeviceList })

end Vi53xx.Driver
