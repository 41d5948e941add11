import Vi53xx.Interface
import Vi53xx.Foundation.Program

/-! The kernel as the driver's requests see it: registers behind mapped BARs, DMA
buffers and descriptor tables by block, user memory, and the log of what a
request has touched. A block is named by a number, and a place in it by its
offset, which can lie outside the block. -/

set_option autoImplicit false

namespace Vi53xx.Driver

open Foundation

inductive Fault where
  | nullPointer
  | outOfBounds
  deriving DecidableEq, Repr

abbrev xdmaBarNum : Nat := 6

abbrev xdmaChannelNum : Nat := 2

abbrev maxDescNum : Nat := 64

instance : NeZero xdmaBarNum := ⟨by decide⟩

instance : NeZero xdmaChannelNum := ⟨by decide⟩

instance : NeZero maxDescNum := ⟨by decide⟩

theorem channelNum_le : xdmaChannelNum ≤ 4 := by decide

structure XdmaDesc where
  control : BitVec 32
  bytes : BitVec 32
  srcAddrLo : BitVec 32
  srcAddrHi : BitVec 32
  dstAddrLo : BitVec 32
  dstAddrHi : BitVec 32
  nextLo : BitVec 32
  nextHi : BitVec 32
  deriving DecidableEq, Repr

/-- A pointer into DMA memory is the number of the block it is the start of. -/
structure XdmaCfgInfo where
  direction : BitVec 8
  sgDescNum : BitVec 8
  pData : Fin maxDescNum → Option Nat
  dataLen : Fin maxDescNum → BitVec 32
  dataPhyAddr : Fin maxDescNum → BitVec 64
  pFirstDesc : Option Nat
  firstDescPhyAddr : BitVec 64
  size : BitVec 64
  channel : Int
  epAddr : BitVec 32

def XdmaCfgInfo.cleared : XdmaCfgInfo where
  direction := 0
  sgDescNum := 0
  pData := fun _ => none
  dataLen := fun _ => 0
  dataPhyAddr := fun _ => 0
  pFirstDesc := none
  firstDescPhyAddr := 0
  size := 0
  channel := 0
  epAddr := 0

/-- A mapped BAR is the number of its register block. -/
structure XdmaDev where
  idx : Nat
  bar : Fin xdmaBarNum → Option Nat
  c2hDmaCfg : Fin xdmaChannelNum → XdmaCfgInfo
  h2cDmaCfg : Fin xdmaChannelNum → XdmaCfgInfo

inductive Access where
  | h2cDmaCfg (index : Int)
  | c2hDmaCfg (index : Int)
  | bar (index : Int) (mapped : Bool)
  | buffer (block : Nat) (start : Int) (length : Nat)
  | setMemoryUc (pData : Option Nat)
  | dmaCommonMmap (pData : Option Nat)
  deriving DecidableEq, Repr

structure Kernel where
  xdmaSetting : XdmaInfo
  regs : Nat → BitVec 32 → BitVec 32
  buffers : Nat → Int → BitVec 8
  descs : Nat → Nat → XdmaDesc
  user : BitVec 64 → BitVec 8
  fmap : Nat → Fin 2 → Fin 4 → Bool
  allocated : Nat
  trace : List Access

def Kernel.booted : Kernel where
  xdmaSetting := .cleared
  regs := fun _ _ => 0
  buffers := fun _ _ => 0
  descs := fun _ _ => ⟨0, 0, 0, 0, 0, 0, 0, 0⟩
  user := fun _ => 0
  fmap := fun _ _ _ => false
  allocated := 0
  trace := []

abbrev KernelM := Program Kernel Fault

/-! ## Tables -/

/-- The entry at an `int` index, if the table has one there. -/
def entryAt {size : Nat} {Entry : Type} (table : Fin size → Entry) (index : Int) : Option Entry :=
  if bounded : 0 ≤ index ∧ index.toNat < size then some (table ⟨index.toNat, bounded.2⟩) else none

def logAccess (access : Access) : KernelM Unit :=
  Program.change fun state => { state with trace := access :: state.trace }

def h2cDmaCfg (xdev : XdmaDev) (index : Int) : KernelM XdmaCfgInfo := do
  logAccess (.h2cDmaCfg index)
  match entryAt xdev.h2cDmaCfg index with
  | some cfg => pure cfg
  | none => Program.fault .outOfBounds

def c2hDmaCfg (xdev : XdmaDev) (index : Int) : KernelM XdmaCfgInfo := do
  logAccess (.c2hDmaCfg index)
  match entryAt xdev.c2hDmaCfg index with
  | some cfg => pure cfg
  | none => Program.fault .outOfBounds

/-- `xdev->bar[index]`, NULL for a BAR that is not mapped. -/
def regBase (xdev : XdmaDev) (index : Int) : KernelM (Option Nat) := do
  match entryAt xdev.bar index with
  | some base => do
      logAccess (.bar index base.isSome)
      pure base
  | none => do
      logAccess (.bar index false)
      Program.fault .outOfBounds

/-! ## Registers -/

def readReg (base : Option Nat) (offset : BitVec 32) : KernelM (BitVec 32) :=
  match base with
  | some block => Program.read fun state => state.regs block offset
  | none => Program.fault .nullPointer

def writeReg (base : Option Nat) (offset value : BitVec 32) : KernelM Unit :=
  match base with
  | some block => Program.change fun state => { state with
      regs := fun other place =>
        if other = block ∧ place = offset then value else state.regs other place }
  | none => Program.fault .nullPointer

/-! ## User memory -/

/-- The number of bytes that a copy has not copied, in an `int`. -/
def copyResult (missed : Nat) : Int := (BitVec.ofNat 32 missed).toInt

/-- `copy_from_user` into a buffer. What could not be copied is cleared. -/
def copyFromUser (pData : Option Nat) (start : Int) (buf : BitVec 64) (size missed : Nat) :
    KernelM Int :=
  match pData with
  | none => if size = 0 then pure (copyResult missed) else Program.fault .nullPointer
  | some block => do
      logAccess (.buffer block start size)
      Program.change fun state => { state with
        buffers := fun other place =>
          let index := (place - start).toNat
          if other = block ∧ start ≤ place ∧ index < size then
            if index < size - missed then state.user (buf + BitVec.ofNat 64 index) else 0
          else state.buffers other place }
      pure (copyResult missed)

def copyToUser (pData : Option Nat) (start : Int) (buf : BitVec 64) (size missed : Nat) :
    KernelM Int :=
  match pData with
  | none => if size = 0 then pure (copyResult missed) else Program.fault .nullPointer
  | some block => do
      logAccess (.buffer block start (size - missed))
      Program.change fun state => { state with
        user := fun address =>
          let index := (address - buf).toNat
          if index < size - missed then state.buffers block (start + index)
          else state.user address }
      pure (copyResult missed)

def copyValueToUser (value : BitVec 32) (address : BitVec 64) (missed : Nat) : KernelM Int := do
  Program.change fun state => { state with
    user := fun place =>
      let index := (place - address).toNat
      if index < 4 - missed then value.extractLsb' (8 * index) 8 else state.user place }
  pure (copyResult missed)

end Vi53xx.Driver
