import Vi53xx.Driver.BoardInfo
import Vi53xx.Driver.Libxdma

/-! The requests of the character device: `ioctl` and `mmap`. -/

set_option autoImplicit false

namespace Vi53xx.Driver

open Foundation

instance (priority := 2000) : NeZero (XdmaInfo.size + 1) := ⟨Nat.succ_ne_zero _⟩

/-- What a request meets: the bytes that the copy of its argument and the copy of
its data leave out, and what an uninitialised config on the stack holds. -/
structure CopyOutcome where
  infoMissed : Fin (XdmaInfo.size + 1)
  dataMissed : Nat
  uninitialised : XdmaCfgInfo

def CopyOutcome.complete : CopyOutcome := ⟨0, 0, .cleared⟩

/-- `(int)info.pos`. -/
def posInt (info : XdmaInfo) : Int := (info.pos.setWidth 32).toInt

def vi53xxXdmaReg (xdev : XdmaDev) (info : XdmaInfo) (missed : Nat) : KernelM Int := do
  let base ← regBase xdev info.bar.toInt
  if info.wr = 0 then
    let value ← readReg base info.offset
    copyValueToUser value info.rVal missed
  else if info.wr = 1 then
    writeReg base info.offset info.wVal
    pure 0
  else pure 0

/-- The config that `vi53xx_xdma_start` takes; the directions index by the channel itself. -/
def startCfg (xdev : XdmaDev) (channel : BitVec 32) (dir : BitVec 8)
    (uninitialised : XdmaCfgInfo) : KernelM XdmaCfgInfo :=
  if dir = H2C_DIR then h2cDmaCfg xdev channel.toInt
  else if dir = C2H_DIR then c2hDmaCfg xdev channel.toInt
  else pure uninitialised

def vi53xxXdmaStart (xdev : XdmaDev) (channel : BitVec 32) (dir : BitVec 8)
    (uninitialised : XdmaCfgInfo) : KernelM Int := do
  let cfg ← startCfg xdev channel dir uninitialised
  xdmaStartDesc xdev (channel.setWidth 8) cfg
  xdmaStart xdev (channel.setWidth 8) dir
  pure 0

def getXdmaCfg (xdev : XdmaDev) (info : XdmaInfo) : KernelM XdmaCfgInfo :=
  if info.dir = H2C_DIR then h2cDmaCfg xdev (info.channel.toInt - 1)
  else c2hDmaCfg xdev (info.channel.toInt - 1)

def runCommand (xdev : XdmaDev) (cmd : XdmaCmd) (info : XdmaInfo) (outcome : CopyOutcome) :
    KernelM Int :=
  match cmd with
  | .init => do
      let cfg ← h2cDmaCfg xdev (info.channel.toInt - 1)
      copyFromUser (cfg.pData 0) (posInt info) info.buf info.len.toNat outcome.dataMissed
  | .start => vi53xxXdmaStart xdev info.channel info.dir outcome.uninitialised
  | .stop => do
      xdmaStop xdev (info.channel.setWidth 8) info.dir
      pure 0
  | .reg => vi53xxXdmaReg xdev info outcome.dataMissed
  | .print => do
      let cfg ← c2hDmaCfg xdev (info.channel.toInt - 1)
      copyToUser (cfg.pData 0) (posInt info) info.buf info.len.toNat outcome.dataMissed
  | .setting => do
      Program.change fun state => { state with xdmaSetting := info }
      pure 0
  | .exit => do
      let _ ← getXdmaCfg xdev info
      pure 0
  | .dump => do
      let cfg ← h2cDmaCfg xdev (info.channel.toInt - 1)
      copyToUser (cfg.pData 0) (posInt info) info.buf info.len.toNat outcome.dataMissed

def vi53xxIoctlXdma (xdev : XdmaDev) (cmd : Nat) (info : XdmaInfo) (outcome : CopyOutcome) :
    KernelM Int :=
  match XdmaCmd.ofNr cmd with
  | none => pure (-EINVAL)
  | some cmd =>
      if copyResult outcome.infoMissed.val ≠ 0 then pure (copyResult outcome.infoMissed.val)
      else runCommand xdev cmd info outcome

def vi53xxIoctl (xdev : XdmaDev) (cmd : BitVec 32) (info : XdmaInfo) (outcome : CopyOutcome) :
    KernelM Int :=
  if IOC_TYPE cmd = rtpcIoctlTypeXdma then vi53xxIoctlXdma xdev (IOC_NR cmd) info outcome
  else pure (-EINVAL)

def vi53xxXdmaMmap (xdev : XdmaDev) (outcome : Int) : KernelM Int := do
  let info ← Program.read Kernel.xdmaSetting
  let cfg ← getXdmaCfg xdev info
  xdmaMmap xdev cfg outcome

end Vi53xx.Driver
