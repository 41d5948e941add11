import Vi53xx.Driver.BoardInfo
import Vi53xx.Driver.Kernel

/-! Mapping the BARs of a board. The length of a BAR comes back in an `int`, whose sign
tells a failure. -/

set_option autoImplicit false

namespace Vi53xx.Driver

/-- What the bus says of the BARs, and the answers of `pci_iomap`. -/
structure BarEnv where
  length : Fin xdmaBarNum → BitVec 64
  iomap : Fin xdmaBarNum → Option Nat

/-- `xdev->bar`, with the addresses that `pci_iomap` has given and those that
`pci_iounmap` has been called on. -/
structure Bars where
  bar : Fin xdmaBarNum → Option Nat
  mapped : List Nat
  unmapped : List Nat

/-- The BARs of the zeroed structure that `alloc_dev_instance` gives. -/
def Bars.zeroed : Bars := ⟨fun _ => none, [], []⟩

def Bars.setBar (bars : Bars) (idx : Fin xdmaBarNum) (address : Option Nat) : Bars :=
  { bars with bar := fun place => if place = idx then address else bars.bar place }

def mapSingleBar (env : BarEnv) (bars : Bars) (idx : Fin xdmaBarNum) : Int × Bars :=
  let barLen := env.length idx
  let mapLen := barLen
  let bars := bars.setBar idx none
  if barLen = 0 then (0, bars)
  else
    match env.iomap idx with
    | none => (-1, bars)
    | some address =>
        ((mapLen.setWidth 32).toInt,
          { bars.setBar idx (some address) with mapped := bars.mapped ++ [address] })

def unmapBar (bars : Bars) (idx : Fin xdmaBarNum) : Bars :=
  match bars.bar idx with
  | none => bars
  | some address => { bars.setBar idx none with unmapped := bars.unmapped ++ [address] }

def unmapBars (bars : Bars) : Bars := (List.finRange xdmaBarNum).foldl unmapBar bars

/-- The turns of the loop for the BARs that are left. -/
def mapBarsLoop (env : BarEnv) : List (Fin xdmaBarNum) → Bars → Int × Bars
  | [], bars => (0, bars)
  | idx :: rest, bars =>
      let (barLen, bars) := mapSingleBar env bars idx
      if barLen = 0 then mapBarsLoop env rest bars
      else if barLen < 0 then (-EINVAL, unmapBars bars)
      else mapBarsLoop env rest bars

def mapBars (env : BarEnv) (bars : Bars) : Int × Bars :=
  mapBarsLoop env (List.finRange xdmaBarNum) bars

end Vi53xx.Driver
