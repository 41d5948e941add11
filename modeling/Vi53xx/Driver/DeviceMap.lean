import Vi53xx.Driver.Bars
import Vi53xx.Driver.FreeResource
import Vi53xx.Driver.Registry
import Vi53xx.Foundation.Ledger

/-! Mapping a device when it is probed: what `xdma_device_map` acquires, one thing
after the other, and what its error exits and `xdma_device_umap` give back. -/

set_option autoImplicit false

namespace Vi53xx.Driver

open Foundation

/-- What the kernel provides for a board. The structures of the driver go by the
number of the record that `xpdev_alloc` has made. -/
inductive Resource where
  | xpdev (address : Nat)
  | xdev (address : Nat)
  | enabled (pdev : PciDev)
  | regions (pdev : PciDev)
  | iomap (pdev : PciDev) (address : Nat)
  | dma (block : Nat) (phys : BitVec 64)
  deriving DecidableEq, Repr

abbrev Holdings := Ledger Resource

/-- What the kernel answers while a device is mapped. -/
structure DeviceMapEnv where
  xdevAlloc : Bool
  enableDevice : Int
  requestRegions : Int
  bars : BarEnv
  dmaMask64 : Int
  dmaMask32 : Int

/-- The part of `xdma_dev` that says what the device holds of the bus. -/
structure BusHold where
  bar : Fin xdmaBarNum → Option Nat
  regionsInUse : Bool
  gotRegions : Bool

def BusHold.zeroed : BusHold := ⟨fun _ => none, false, false⟩

/-- The calls of `pci_iomap` and `pci_iounmap` that a function has logged. -/
def logBars (pdev : PciDev) (bars : Bars) (ledger : Holdings) : Holdings :=
  (ledger.take (bars.mapped.map (.iomap pdev))).giveBack (bars.unmapped.map (.iomap pdev))

def requestRegions (env : DeviceMapEnv) (pdev : PciDev) (xdev : BusHold) (ledger : Holdings) :
    Int × BusHold × Holdings :=
  if env.requestRegions ≠ 0 then (env.requestRegions, { xdev with regionsInUse := true }, ledger)
  else (0, { xdev with gotRegions := true }, ledger.take [.regions pdev])

def setDmaMask (env : DeviceMapEnv) : Int :=
  if env.dmaMask64 = 0 then 0 else if env.dmaMask32 = 0 then 0 else -EINVAL

/-! ## The way out of `xdma_device_map`, by label -/

def freeXdev (xpdev : Nat) (ledger : Holdings) : Holdings := ledger.giveBack [.xdev xpdev]

def errRegions (xpdev : Nat) (pdev : PciDev) (xdev : BusHold) (ledger : Holdings) : Holdings :=
  freeXdev xpdev (if xdev.regionsInUse then ledger else ledger.giveBack [.enabled pdev])

def errMap (xpdev : Nat) (pdev : PciDev) (xdev : BusHold) (ledger : Holdings) : Holdings :=
  errRegions xpdev pdev xdev (if xdev.gotRegions then ledger.giveBack [.regions pdev] else ledger)

def errMask (xpdev : Nat) (pdev : PciDev) (xdev : BusHold) (ledger : Holdings) : Holdings :=
  errMap xpdev pdev xdev (logBars pdev (unmapBars ⟨xdev.bar, [], []⟩) ledger)

/-- `xdma_device_map`, with the device structure as far as the bus goes. -/
def xdmaDeviceMap (env : DeviceMapEnv) (xpdev : Nat) (pdev : PciDev) (ledger : Holdings) :
    Option BusHold × Holdings :=
  if !env.xdevAlloc then (none, ledger)
  else
    let ledger := ledger.take [.xdev xpdev]
    if env.enableDevice ≠ 0 then (none, freeXdev xpdev ledger)
    else
      let ledger := ledger.take [.enabled pdev]
      let (rv, xdev, ledger) := requestRegions env pdev .zeroed ledger
      if rv ≠ 0 then (none, errRegions xpdev pdev xdev ledger)
      else
        let (rv, bars) := mapBars env.bars .zeroed
        let xdev := { xdev with bar := bars.bar }
        let ledger := logBars pdev bars ledger
        if rv ≠ 0 then (none, errMap xpdev pdev xdev ledger)
        else if setDmaMask env ≠ 0 then (none, errMask xpdev pdev xdev ledger)
        else (some xdev, ledger)

/-- `xdma_device_umap` on a device that is there. -/
def xdmaDeviceUmap (xpdev : Nat) (pdev : PciDev) (xdev : BusHold) (ledger : Holdings) : Holdings :=
  let ledger := logBars pdev (unmapBars ⟨xdev.bar, [], []⟩) ledger
  let ledger := if xdev.gotRegions then ledger.giveBack [.regions pdev] else ledger
  let ledger := if xdev.regionsInUse then ledger else ledger.giveBack [.enabled pdev]
  ledger.giveBack [.xdev xpdev]

/-- `xpdev_free`; the device is NULL when it has not been mapped. -/
def xpdevRelease (xpdev : Nat) (pdev : PciDev) (xdev : Option BusHold) (ledger : Holdings) :
    Holdings :=
  let ledger :=
    match xdev with
    | none => ledger
    | some xdev => xdmaDeviceUmap xpdev pdev xdev ledger
  ledger.giveBack [.xpdev xpdev]

/-! ## DMA memory -/

/-- What an attempt to allocate DMA memory has taken. -/
def dmaBlock (answers : Nat → Option (BitVec 64)) (attempt : Nat) : Option Resource :=
  (answers attempt).map (.dma attempt)

/-- What has been taken between the two states. -/
def dmaTaken (answers : Nat → Option (BitVec 64)) (before after : Kernel) : List Resource :=
  (List.range' before.allocated (after.allocated - before.allocated)).filterMap (dmaBlock answers)

def freedBlock : MemoryCall → Option Resource
  | .setMemoryWb _ _ => none
  | .dmaFreeCoherent _ block phys => some (.dma block phys)

def freedBlocks (calls : List MemoryCall) : List Resource := calls.filterMap freedBlock

end Vi53xx.Driver
