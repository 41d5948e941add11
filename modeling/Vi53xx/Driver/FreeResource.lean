import Vi53xx.Driver.XdmaCtrl

/-! Taking down the DMA memory of a board: the buffers of its channels and then
their descriptors. A buffer that user space has mapped is made cacheable again. -/

set_option autoImplicit false

namespace Vi53xx.Driver

open Foundation

def PAGE_SHIFT : Nat := 12

inductive MemoryCall where
  | setMemoryWb (pData : Nat) (numPages : BitVec 64)
  | dmaFreeCoherent (size : BitVec 64) (block : Nat) (phys : BitVec 64)
  deriving DecidableEq, Repr

/-- The flags of the board's record, its device, and the calls made so far. -/
structure Removal where
  fmap : Fin 2 → Fin 4 → Bool
  xdev : XdmaDev
  calls : List MemoryCall

abbrev RemovalM := Program Removal Fault

def XdmaDev.cfg (xdev : XdmaDev) (dir : Fin 2) (index : Fin xdmaChannelNum) : XdmaCfgInfo :=
  if dir = 0 then xdev.h2cDmaCfg index else xdev.c2hDmaCfg index

def XdmaDev.setCfg (xdev : XdmaDev) (dir : Fin 2) (index : Fin xdmaChannelNum) (cfg : XdmaCfgInfo) :
    XdmaDev :=
  if dir = 0 then
    { xdev with h2cDmaCfg := fun other => if other = index then cfg else xdev.h2cDmaCfg other }
  else
    { xdev with c2hDmaCfg := fun other => if other = index then cfg else xdev.c2hDmaCfg other }

def memoryCall (call : MemoryCall) : RemovalM Unit :=
  Program.change fun state => { state with calls := state.calls ++ [call] }

/-! ## Buffers -/

def XdmaCfgInfo.withoutPData (cfg : XdmaCfgInfo) (i : Fin maxDescNum) : XdmaCfgInfo :=
  { cfg with pData := fun other => if other = i then none else cfg.pData other }

/-- The flag is the one at the loop index, where `mmap` takes the channel's number. -/
def restoreBuffer (dir : Fin 2) (channel : Fin xdmaChannelNum) (block : Nat) : RemovalM Unit := do
  let state ← Program.read id
  if state.fmap dir (channel.castLE channelNum_le) then
    memoryCall (.setMemoryWb block ((state.xdev.cfg dir channel).size >>> PAGE_SHIFT))
  else pure ()

def freeBuffer (dir : Fin 2) (channel : Fin xdmaChannelNum) (i : Fin maxDescNum) (block : Nat) :
    RemovalM Unit := do
  restoreBuffer dir channel block
  let cfg ← Program.read fun state => state.xdev.cfg dir channel
  memoryCall (.dmaFreeCoherent cfg.size block (cfg.dataPhyAddr i))
  Program.change fun state => { state with
    xdev := state.xdev.setCfg dir channel ((state.xdev.cfg dir channel).withoutPData i) }

/-- The body of the loops of `xdma_free_c2h_pdata` and `xdma_free_h2c_pdata`. -/
def freePdata (dir : Fin 2) (channel : Fin xdmaChannelNum) (i : Nat) : RemovalM Unit := do
  let cfg ← Program.read fun state => state.xdev.cfg dir channel
  if bounded : i < maxDescNum then
    match cfg.pData ⟨i, bounded⟩ with
    | some block => freeBuffer dir channel ⟨i, bounded⟩ block
    | none => pure ()
  else Program.fault .outOfBounds

/-- The turns of the loop from index `i` on. -/
def freePdataLoop (dir : Fin 2) (channel : Fin xdmaChannelNum) : Nat → Nat → RemovalM Unit
  | 0, _ => pure ()
  | remaining + 1, i => do
      freePdata dir channel i
      freePdataLoop dir channel remaining (i + 1)

def xdmaFreeC2hPdata (channel : Fin xdmaChannelNum) (descNum : Nat) : RemovalM Unit :=
  freePdataLoop 1 channel descNum 0

def xdmaFreeH2cPdata (channel : Fin xdmaChannelNum) (descNum : Nat) : RemovalM Unit :=
  freePdataLoop 0 channel descNum 0

/-- The body of the loop of `xdma_free_pci_bus_addr`. -/
def freeChannelBuffers (channel : Fin xdmaChannelNum) : RemovalM Unit := do
  let c2hNum ← Program.read fun state => (state.xdev.c2hDmaCfg channel).sgDescNum.toNat
  xdmaFreeC2hPdata channel c2hNum
  let h2cNum ← Program.read fun state => (state.xdev.h2cDmaCfg channel).sgDescNum.toNat
  xdmaFreeH2cPdata channel h2cNum

def xdmaFreePciBusAddr : RemovalM Unit := do
  freeChannelBuffers 0
  freeChannelBuffers 1

/-! ## Descriptors -/

def freeDesc (dir : Fin 2) (channel : Fin xdmaChannelNum) : RemovalM Unit := do
  let state ← Program.read id
  let cfg := state.xdev.cfg dir channel
  match cfg.pFirstDesc with
  | some block => do
      memoryCall (.dmaFreeCoherent (cfg.sgDescNum.setWidth 64 * BitVec.ofNat 64 XdmaDesc.size) block
        cfg.firstDescPhyAddr)
      Program.change fun state => { state with
        xdev := state.xdev.setCfg dir channel
          { state.xdev.cfg dir channel with pFirstDesc := none } }
  | none => pure ()

def xdmaFreeH2cDesc (channel : Fin xdmaChannelNum) : RemovalM Unit := freeDesc 0 channel

def xdmaFreeC2hDesc (channel : Fin xdmaChannelNum) : RemovalM Unit := freeDesc 1 channel

def xdmaFreeDesc : RemovalM Unit := do
  xdmaFreeH2cDesc 0
  xdmaFreeC2hDesc 0
  xdmaFreeH2cDesc 1
  xdmaFreeC2hDesc 1

def freeMemory : RemovalM Unit := do
  xdmaFreePciBusAddr
  xdmaFreeDesc

/-- The calls that `xdma_free_resource` makes, in their order. -/
def xdmaFreeResource (state : Kernel) : Option XdmaDev → Except Fault (List MemoryCall)
  | none => .ok []
  | some xdev =>
      match freeMemory ⟨state.fmap xdev.idx, xdev, []⟩ with
      | (.ok _, final) => .ok final.calls
      | (.error fault, _) => .error fault

/-- The record of a board is zeroed when `xpdev_alloc` makes it. -/
def Kernel.xpdevAlloc (idx : Nat) (state : Kernel) : Kernel :=
  { state with fmap := fun other => if other = idx then fun _ _ => false else state.fmap other }

end Vi53xx.Driver
