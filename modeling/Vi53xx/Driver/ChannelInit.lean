import Vi53xx.Driver.Libxdma

/-! Setting up the channels of a board when it is probed. -/

set_option autoImplicit false

namespace Vi53xx.Driver

open Foundation

def CH1 : Int := 1

structure XdmaChannelAddr where
  addr : BitVec 32
  size : BitVec 32
  deriving DecidableEq, Repr

/-- `ch_addr`; entries without an initialiser are zero. -/
def chAddr (dir : Fin 2) (channel : Fin 3) : XdmaChannelAddr :=
  match dir, channel with
  | 0, 1 => ⟨0x80100000#32, 0x2000#32⟩
  | 1, 1 => ⟨0x80100000#32, 0x2000#32⟩
  | 1, 2 => ⟨0x00000000#32, 0x400000#32⟩
  | _, _ => ⟨0, 0⟩

/-- The turns of the loop from index `i` on; a failed allocation ends it. -/
def physicalAddressLoop (answer : Nat → Option (BitVec 64)) :
    Nat → Nat → XdmaCfgInfo → KernelM XdmaCfgInfo
  | 0, _, cfg => pure cfg
  | remaining + 1, i, cfg => do
      match ← dmaAllocCoherent answer with
      | none => pure cfg
      | some (block, phys) => do
          Program.change fun state => { state with
            buffers := fun other place =>
              if other = block ∧ 0 ≤ place ∧ place < cfg.size.toNat then 0
              else state.buffers other place }
          physicalAddressLoop answer remaining (i + 1) { cfg with
            dataPhyAddr := fun index => if index.val = i then phys else cfg.dataPhyAddr index
            pData := fun index => if index.val = i then some block else cfg.pData index }

def xdmaPhysicalAddressInit (answer : Nat → Option (BitVec 64)) (cfg : XdmaCfgInfo) :
    KernelM XdmaCfgInfo :=
  physicalAddressLoop answer cfg.sgDescNum.toNat 0 cfg

def descNum : BitVec 8 := 1

/-- The assignments of `vi53xx_info_init`. -/
def XdmaCfgInfo.withAddr (cfg : XdmaCfgInfo) (entry : XdmaChannelAddr) : XdmaCfgInfo :=
  { cfg with
    sgDescNum := descNum
    epAddr := entry.addr
    dataLen := fun index => if index = 0 then entry.size else cfg.dataLen index
    size := entry.size.setWidth 64 }

def vi53xxInfoInit (answer : Nat → Option (BitVec 64)) (cfg : XdmaCfgInfo) : KernelM XdmaCfgInfo :=
  if bounded : cfg.direction.toNat < 2 ∧ 0 ≤ cfg.channel ∧ cfg.channel.toNat < 3 then
    xdmaPhysicalAddressInit answer
      (cfg.withAddr (chAddr ⟨cfg.direction.toNat, bounded.1⟩ ⟨cfg.channel.toNat, bounded.2.2⟩))
  else Program.fault .outOfBounds

/-- `_xdma_channel_init`. -/
def setupChannel (answer : Nat → Option (BitVec 64)) (xdev : XdmaDev) (cfg : XdmaCfgInfo) :
    KernelM XdmaCfgInfo := do
  let cfg ← vi53xxInfoInit answer cfg
  xdmaPollInit xdev cfg.channel cfg.direction
  xdmaStop xdev (BitVec.ofInt 8 cfg.channel) cfg.direction
  xdmaCreateTransfer answer xdev (BitVec.ofInt 8 cfg.channel) cfg

def initDmaCfg (cfg : XdmaCfgInfo) (direction : BitVec 8) (channel : Fin xdmaChannelNum) :
    XdmaCfgInfo :=
  { cfg with direction, channel := channel.val + 1 }

def setupH2cChannel (answer : Nat → Option (BitVec 64)) (xdev : XdmaDev) (cfg : XdmaCfgInfo) :
    KernelM XdmaCfgInfo :=
  if cfg.channel = CH1 then setupChannel answer xdev cfg else pure cfg

/-- The body of the loop of `xdma_channel_init`. -/
def channelInit (answer : Nat → Option (BitVec 64)) (xdev : XdmaDev) (channel : Fin xdmaChannelNum) :
    KernelM XdmaDev := do
  let c2h ← setupChannel answer xdev (initDmaCfg (xdev.c2hDmaCfg channel) C2H_DIR channel)
  let xdev := { xdev with c2hDmaCfg := fun other =>
    if other = channel then c2h else xdev.c2hDmaCfg other }
  let h2c ← setupH2cChannel answer xdev (initDmaCfg (xdev.h2cDmaCfg channel) H2C_DIR channel)
  pure { xdev with h2cDmaCfg := fun other =>
    if other = channel then h2c else xdev.h2cDmaCfg other }

def xdmaChannelInit (answer : Nat → Option (BitVec 64)) (xdev : XdmaDev) : KernelM XdmaDev := do
  let xdev ← channelInit answer xdev 0
  channelInit answer xdev 1

def XdmaDev.allocated (idx : Nat) (bar : Fin xdmaBarNum → Option Nat) : XdmaDev where
  idx := idx
  bar := bar
  c2hDmaCfg := fun _ => XdmaCfgInfo.cleared
  h2cDmaCfg := fun _ => XdmaCfgInfo.cleared

end Vi53xx.Driver
