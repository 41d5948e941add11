import Vi53xx.Driver.ChannelInit
import Vi53xx.Driver.Requests

/-! Where the BARs and the DMA buffers of a board end, and what a request and the setup of
the channels come to behind them. -/

set_option autoImplicit false

namespace Vi53xx.Driver

open Foundation

/-- The four bytes of the register are inside a BAR of the length. -/
def InBar (length : BitVec 64) (offset : BitVec 32) : Prop := offset.toNat + 4 ≤ length.toNat

instance (length : BitVec 64) (offset : BitVec 32) : Decidable (InBar length offset) :=
  inferInstanceAs (Decidable (_ ≤ _))

/-- The bytes are inside a buffer of the size, if there are any. -/
def InBuffer (size : BitVec 64) (start : Int) (bytes : Nat) : Prop :=
  bytes = 0 ∨ (0 ≤ start ∧ start + bytes ≤ size.toNat)

instance (size : BitVec 64) (start : Int) (bytes : Nat) : Decidable (InBuffer size start bytes) :=
  inferInstanceAs (Decidable (_ ∨ _))

/-! ## Requests -/

/-- So many bytes from the position on are inside the buffer of the channel. -/
def ChannelFits (cfgs : Fin xdmaChannelNum → XdmaCfgInfo) (info : XdmaInfo) (bytes : Nat) : Prop :=
  ∀ index : Fin xdmaChannelNum, info.channel = BitVec.ofNat 32 (index.val + 1) →
    InBuffer (cfgs index).size (posInt info) bytes

instance (cfgs : Fin xdmaChannelNum → XdmaCfgInfo) (info : XdmaInfo) (bytes : Nat) :
    Decidable (ChannelFits cfgs info bytes) :=
  inferInstanceAs (Decidable (∀ _, _))

/-- The config that a start works with, if there is one. -/
def startedCfg (xdev : XdmaDev) (info : XdmaInfo) (uninitialised : XdmaCfgInfo) : Option XdmaCfgInfo :=
  if info.dir = H2C_DIR then entryAt xdev.h2cDmaCfg info.channel.toInt
  else if info.dir = C2H_DIR then entryAt xdev.c2hDmaCfg info.channel.toInt
  else some uninitialised

/-- The register that `xdma_start_desc` writes for a chain, and no other one. -/
def descRegs (channel : BitVec 8) (cfg : XdmaCfgInfo) : List (BitVec 32) :=
  if 1 < cfg.sgDescNum then
    [channelReg (if cfg.direction = H2C_DIR then H2C_SGDMA_DESC_ADD_REG else C2H_SGDMA_DESC_ADD_REG)
      (channel - 1)]
  else []

/-- What a start comes to behind BAR 1. -/
def startRegs (xdev : XdmaDev) (info : XdmaInfo) (uninitialised : XdmaCfgInfo) : List (BitVec 32) :=
  channelReg (controlReg info.dir) (info.channel.setWidth 8 - 1) ::
    (startedCfg xdev info uninitialised).elim [] (descRegs (info.channel.setWidth 8))

/-- What the command comes to is inside the buffers, and inside BARs of these lengths. -/
def CommandInside (xdev : XdmaDev) (length : Fin xdmaBarNum → BitVec 64) (info : XdmaInfo)
    (outcome : CopyOutcome) : XdmaCmd → Prop
  | .init => ChannelFits xdev.h2cDmaCfg info info.len.toNat
  | .print => ChannelFits xdev.c2hDmaCfg info (info.len.toNat - outcome.dataMissed)
  | .dump => ChannelFits xdev.h2cDmaCfg info (info.len.toNat - outcome.dataMissed)
  | .start => ∀ offset ∈ startRegs xdev info outcome.uninitialised, InBar (length 1) offset
  | .stop => InBar (length 1) (channelReg (controlReg info.dir) (info.channel.setWidth 8 - 1))
  | .reg => info.wr = 0 ∨ info.wr = 1 → ∀ idx : Fin xdmaBarNum, info.bar = BitVec.ofNat 32 idx.val →
      InBar (length idx) info.offset
  | .setting | .exit => True

instance (xdev : XdmaDev) (length : Fin xdmaBarNum → BitVec 64) (info : XdmaInfo) (outcome : CopyOutcome)
    (cmd : XdmaCmd) : Decidable (CommandInside xdev length info outcome cmd) :=
  match cmd with
  | .init | .print | .dump => inferInstanceAs (Decidable (ChannelFits _ _ _))
  | .start => List.decidableBAll _ _
  | .stop => inferInstanceAs (Decidable (InBar _ _))
  | .reg => inferInstanceAs (Decidable (_ ∨ _ → ∀ _, _))
  | .setting | .exit => inferInstanceAs (Decidable True)

/-- The channel of the setting has a buffer to map. -/
def SettingBuffered (xdev : XdmaDev) (setting : XdmaInfo) : Prop :=
  ∀ index : Fin xdmaChannelNum, setting.channel = BitVec.ofNat 32 (index.val + 1) →
    ((if setting.dir = H2C_DIR then xdev.h2cDmaCfg index else xdev.c2hDmaCfg index).pData 0).isSome = true

instance (xdev : XdmaDev) (setting : XdmaInfo) : Decidable (SettingBuffered xdev setting) :=
  inferInstanceAs (Decidable (∀ _, _))

/-- The request stays inside the buffers and the BARs of the board. -/
def Request.Inside (xdev : XdmaDev) (length : Fin xdmaBarNum → BitVec 64) (state : Kernel) : Request → Prop
  | .ioctl cmd info outcome => IOC_TYPE cmd = rtpcIoctlTypeXdma → outcome.infoMissed = 0 →
      ∀ known ∈ XdmaCmd.ofNr (IOC_NR cmd), CommandInside xdev length info outcome known
  | .mmap _ => SettingBuffered xdev state.xdmaSetting

instance (xdev : XdmaDev) (length : Fin xdmaBarNum → BitVec 64) (state : Kernel) (request : Request) :
    Decidable (request.Inside xdev length state) :=
  match request with
  | .ioctl _ _ _ => inferInstanceAs (Decidable (_ → _ → ∀ _ ∈ _, _))
  | .mmap _ => inferInstanceAs (Decidable (SettingBuffered _ _))

/-- The request comes to the record of its board; an `ioctl` of another type does not. -/
def Request.OfBoard : Request → Prop
  | .ioctl cmd _ _ => IOC_TYPE cmd = rtpcIoctlTypeXdma
  | .mmap _ => True

instance (request : Request) : Decidable request.OfBoard :=
  match request with
  | .ioctl _ _ _ => inferInstanceAs (Decidable (_ = _))
  | .mmap _ => inferInstanceAs (Decidable True)

/-! ## Channels -/

/-- What the setup of a channel comes to behind BAR 1, without a chain. -/
def channelRegs (direction index : BitVec 8) : List (BitVec 32) :=
  (controlReg direction ::
    if direction = H2C_DIR then
      [H2C_SGDMA_DESC_LOW32_REG, H2C_SGDMA_DESC_HIGH32_REG, H2C_SGDMA_DESC_ADJA_REG]
    else [C2H_SGDMA_DESC_LOW32_REG, C2H_SGDMA_DESC_HIGH32_REG, C2H_SGDMA_DESC_ADJA_REG]).map
      (channelReg · index)

/-- What `xdma_channel_init` comes to behind BAR 1. -/
def channelInitRegs : List (BitVec 32) :=
  channelRegs C2H_DIR 0 ++ channelRegs H2C_DIR 0 ++ channelRegs C2H_DIR 1

/-- A BAR 1 of the length has the registers that `xdma_channel_init` comes to. -/
def ChannelInitInside (length : BitVec 64) : Prop := ∀ offset ∈ channelInitRegs, InBar length offset

instance (length : BitVec 64) : Decidable (ChannelInitInside length) := List.decidableBAll _ _

end Vi53xx.Driver
