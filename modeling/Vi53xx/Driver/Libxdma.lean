import Vi53xx.Driver.Kernel

/-! The register-level operations of a channel and its mapping into user space. -/

set_option autoImplicit false

namespace Vi53xx.Driver

open Foundation

def H2C_CONTROL_REG : BitVec 32 := 0x0004

def C2H_CONTROL_REG : BitVec 32 := 0x1004

def H2C_SGDMA_DESC_LOW32_REG : BitVec 32 := 0x4080

def H2C_SGDMA_DESC_HIGH32_REG : BitVec 32 := 0x4084

def H2C_SGDMA_DESC_ADJA_REG : BitVec 32 := 0x4088

def H2C_SGDMA_DESC_ADD_REG : BitVec 32 := 0x408C

def C2H_SGDMA_DESC_LOW32_REG : BitVec 32 := 0x5080

def C2H_SGDMA_DESC_HIGH32_REG : BitVec 32 := 0x5084

def C2H_SGDMA_DESC_ADJA_REG : BitVec 32 := 0x5088

def C2H_SGDMA_DESC_ADD_REG : BitVec 32 := 0x508C

def SGDMA_DESC_MODE_EN_REG : BitVec 32 := 0x6020

def DMA_STOP : BitVec 32 := 0x0000

def DESC_MAGIC : BitVec 32 := 0xAD4B0000#32

def PCI_DMA_H (addr : BitVec 64) : BitVec 32 := ((addr >>> 16) >>> 16).setWidth 32

def PCI_DMA_L (addr : BitVec 64) : BitVec 32 := (addr &&& 0xffffffff#64).setWidth 32

def channelReg (first : BitVec 32) (channelIndex : BitVec 8) : BitVec 32 :=
  first + channelIndex.setWidth 32 * 0x100#32

def controlReg (direction : BitVec 8) : BitVec 32 :=
  if direction = H2C_DIR then H2C_CONTROL_REG else C2H_CONTROL_REG

def xdmaStart (xdev : XdmaDev) (channel direction : BitVec 8) : KernelM Unit := do
  let base ← regBase xdev 1
  let value := (1#32 <<< 26) ||| (1#32 <<< 2) ||| 1#32
  writeReg base (channelReg (controlReg direction) (channel - 1)) value
  let _ ← readReg base (channelReg (controlReg direction) (channel - 1))

def xdmaStartDesc (xdev : XdmaDev) (channel : BitVec 8) (cfg : XdmaCfgInfo) : KernelM Unit := do
  let base ← regBase xdev 1
  if 1 < cfg.sgDescNum then
    let first := if cfg.direction = H2C_DIR then H2C_SGDMA_DESC_ADD_REG else C2H_SGDMA_DESC_ADD_REG
    writeReg base (channelReg first (channel - 1)) (cfg.sgDescNum.setWidth 32)

def xdmaStop (xdev : XdmaDev) (channel direction : BitVec 8) : KernelM Unit := do
  let base ← regBase xdev 1
  writeReg base (channelReg (controlReg direction) (channel - 1)) DMA_STOP

/-- Here the channel index is an `int`. -/
def xdmaPollInit (xdev : XdmaDev) (channel : Int) (direction : BitVec 8) : KernelM Unit := do
  let base ← regBase xdev 1
  let reg := controlReg direction + BitVec.ofInt 32 ((channel - 1) * 0x100)
  let value ← readReg base reg
  writeReg base reg (value ||| ((1#32 <<< 26) ||| (1#32 <<< 2)))

/-! ## Descriptors -/

/-- `dma_alloc_coherent`: the block and its physical address, if it succeeds.
Blocks are numbered by attempt. -/
def dmaAllocCoherent (answer : Nat → Option (BitVec 64)) : KernelM (Option (Nat × BitVec 64)) := do
  let attempt ← Program.read Kernel.allocated
  Program.change fun state => { state with allocated := attempt + 1 }
  pure ((answer attempt).map fun phys => (attempt, phys))

def elementAt {Entry : Type} (table : Fin maxDescNum → Entry) (i : Nat) : KernelM Entry :=
  match entryAt table i with
  | some entry => pure entry
  | none => Program.fault .outOfBounds

def xdmaDescSetAddr (desc : XdmaDesc) (buffPhyAddr : BitVec 64) (direction : BitVec 8)
    (epAddr : BitVec 32) : XdmaDesc :=
  let epAddr := epAddr.setWidth 64
  if direction = H2C_DIR then
    { desc with
      srcAddrLo := PCI_DMA_L buffPhyAddr
      srcAddrHi := PCI_DMA_H buffPhyAddr
      dstAddrLo := PCI_DMA_L epAddr
      dstAddrHi := PCI_DMA_H epAddr }
  else
    { desc with
      dstAddrLo := PCI_DMA_L buffPhyAddr
      dstAddrHi := PCI_DMA_H buffPhyAddr
      srcAddrLo := PCI_DMA_L epAddr
      srcAddrHi := PCI_DMA_H epAddr }

def setDesc (block i : Nat) (update : XdmaDesc → XdmaDesc) : KernelM Unit :=
  Program.change fun state => { state with
    descs := fun other index =>
      if other = block ∧ index = i then update (state.descs other index)
      else state.descs other index }

def fillDesc (cfg : XdmaCfgInfo) (block i : Nat) (control epAddr : BitVec 32) : KernelM Unit := do
  let bytes ← elementAt cfg.dataLen i
  let phys ← elementAt cfg.dataPhyAddr i
  setDesc block i fun desc =>
    xdmaDescSetAddr { desc with control, bytes } phys cfg.direction epAddr

def XdmaDesc.size : Nat := 32

/-- The loop over all descriptors but the last, from index `i` on. The answer is
the value it leaves in `extra_adj`. -/
def descLoop (cfg : XdmaCfgInfo) (block : Nat) (firstDescPhy : BitVec 64) :
    Nat → Nat → BitVec 8 → BitVec 32 → KernelM (BitVec 32)
  | 0, _, _, extraAdj => pure extraAdj
  | remaining + 1, i, adj, _ => do
      let extraAdj : BitVec 32 :=
        if 0 < adj then
          let credit := adj.setWidth 32 - 1
          if 15#32 < credit then 15#32 else credit
        else 0
      let adj := if 0 < adj then adj - 1 else adj
      fillDesc cfg block i (DESC_MAGIC ||| (extraAdj <<< 8))
        (cfg.epAddr + BitVec.ofNat 32 (i * 0x2000))
      let nextPhy := firstDescPhy + BitVec.ofNat 64 ((i + 1) * XdmaDesc.size)
      setDesc block i fun desc =>
        { desc with nextLo := PCI_DMA_L nextPhy, nextHi := PCI_DMA_H nextPhy }
      descLoop cfg block firstDescPhy remaining (i + 1) adj extraAdj

/-- The config with its descriptor table, or as it was if there is no memory. -/
def xdmaDescAlloc (answer : Nat → Option (BitVec 64)) (cfg : XdmaCfgInfo) : KernelM XdmaCfgInfo := do
  match ← dmaAllocCoherent answer with
  | none => pure cfg
  | some (block, firstDescPhy) => do
      let last := cfg.sgDescNum.toNat - 1
      let extraAdj ← descLoop cfg block firstDescPhy last 0 (cfg.sgDescNum - 1) 0
      fillDesc cfg block last (DESC_MAGIC ||| (extraAdj <<< 8) ||| 0x13#32)
        (cfg.epAddr + (cfg.sgDescNum.setWidth 32 - 1) * 0x2000)
      pure { cfg with pFirstDesc := some block, firstDescPhyAddr := firstDescPhy }

def xdmaCofgDesc (xdev : XdmaDev) (channel : BitVec 8) (cfg : XdmaCfgInfo) : KernelM Unit := do
  let base ← regBase xdev 1
  let index := channel - 1
  let sgNum := cfg.sgDescNum.setWidth 32
  let host := cfg.direction = H2C_DIR
  if 1 < cfg.sgDescNum then
    let mode ← readReg base SGDMA_DESC_MODE_EN_REG
    let bit := 1#32 <<< (if host then index.toNat else index.toNat + 16)
    writeReg base SGDMA_DESC_MODE_EN_REG (mode ||| bit)
  writeReg base (channelReg (if host then H2C_SGDMA_DESC_LOW32_REG else C2H_SGDMA_DESC_LOW32_REG)
    index) (PCI_DMA_L cfg.firstDescPhyAddr)
  writeReg base (channelReg (if host then H2C_SGDMA_DESC_HIGH32_REG else C2H_SGDMA_DESC_HIGH32_REG)
    index) (PCI_DMA_H cfg.firstDescPhyAddr)
  writeReg base (channelReg (if host then H2C_SGDMA_DESC_ADJA_REG else C2H_SGDMA_DESC_ADJA_REG)
    index) (sgNum - 1)
  if 1 < cfg.sgDescNum then
    writeReg base (channelReg (if host then H2C_SGDMA_DESC_ADD_REG else C2H_SGDMA_DESC_ADD_REG)
      index) sgNum

def xdmaCreateTransfer (answer : Nat → Option (BitVec 64)) (xdev : XdmaDev) (channel : BitVec 8)
    (cfg : XdmaCfgInfo) : KernelM XdmaCfgInfo := do
  let cfg ← xdmaDescAlloc answer cfg
  xdmaCofgDesc xdev channel cfg
  pure cfg

/-! ## Mapping -/

/-- `outcome` is what `dma_common_mmap` answers. -/
def xdmaMmap (xdev : XdmaDev) (cfg : XdmaCfgInfo) (outcome : Int) : KernelM Int := do
  if bounded : cfg.direction.toNat < 2 ∧ 0 ≤ cfg.channel ∧ cfg.channel.toNat < 4 then
    let direction : Fin 2 := ⟨cfg.direction.toNat, bounded.1⟩
    let channel : Fin 4 := ⟨cfg.channel.toNat, bounded.2.2⟩
    let mapped ← Program.read fun state => state.fmap xdev.idx direction channel
    if !mapped then
      logAccess (.setMemoryUc (cfg.pData 0))
      Program.change fun state => { state with
        fmap := fun idx one other =>
          if idx = xdev.idx ∧ one = direction ∧ other = channel then true
          else state.fmap idx one other }
    logAccess (.dmaCommonMmap (cfg.pData 0))
    pure outcome
  else Program.fault .outOfBounds

end Vi53xx.Driver
