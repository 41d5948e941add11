import Vi53xx.Interface

/-! The requests that the library passes on to the driver. A request is answered
with the `ioctl` it becomes, or with the error it is turned down with. -/

set_option autoImplicit false

namespace Vi53xx.Lib

abbrev Forwarded := Except Int (BitVec 32 × XdmaInfo)

def xdmaCallIoctl (cmd : XdmaCmd) (arg : XdmaInfo) : Forwarded := .ok (rtpcIoctlXdma cmd, arg)

def vi53xxXdmaReadWriteReg : Option XdmaInfo → Forwarded
  | none => .error (-1)
  | some reg =>
      if reg.bar.toInt < 0 ∨ 1 < reg.bar.toInt then .error (-1)
      else if reg.wr.toInt < 0 ∨ 1 < reg.wr.toInt then .error (-1)
      else xdmaCallIoctl .reg reg

/-- The checks of `vi53xx_xdma_read` and `vi53xx_xdma_write`. The comparisons with
zero are of unsigned numbers. -/
def bufferRequest (cmd : XdmaCmd) : Option XdmaInfo → Forwarded
  | none => .error (-1)
  | some info =>
      if info.buf = 0 then .error (-1)
      else if info.pos < 0 then .error (-1)
      else if info.len < 0 then .error (-1)
      else xdmaCallIoctl cmd info

def vi53xxXdmaRead (arg : Option XdmaInfo) : Forwarded := bufferRequest .print arg

def vi53xxXdmaWrite (arg : Option XdmaInfo) : Forwarded := bufferRequest .init arg

def channelRefused (channel : BitVec 32) : Prop := channel.toInt < 0 ∨ 4 < channel.toInt

instance (channel : BitVec 32) : Decidable (channelRefused channel) :=
  inferInstanceAs (Decidable (_ ∨ _))

/-- The checks that the requests about a channel and its direction share. -/
def channelRequest (cmd : XdmaCmd) : Option XdmaInfo → Forwarded
  | none => .error (-1)
  | some info =>
      if channelRefused info.channel then .error (-1)
      else if info.dir < 0 ∨ 1 < info.dir then .error (-1)
      else xdmaCallIoctl cmd info

/-- `_vi53xx_xdma_start`. -/
def xdmaStart (arg : Option XdmaInfo) : Forwarded := channelRequest .start arg

/-- `_vi53xx_xdma_stop`. -/
def xdmaStop (arg : Option XdmaInfo) : Forwarded := channelRequest .stop arg

/-- `_vi53xx_xdma_mmap_setting`. -/
def xdmaMmapSetting (arg : Option XdmaInfo) : Forwarded := channelRequest .setting arg

/-- `_vi53xx_xdma_exit`. -/
def xdmaExit (arg : Option XdmaInfo) : Forwarded := channelRequest .exit arg

def vi53xxXdmaDump : Option XdmaInfo → Forwarded
  | none => .error (-1)
  | some dump =>
      if dump.buf = 0 then .error (-1)
      else if dump.pos < 0 then .error (-1)
      else if dump.len < 0 then .error (-1)
      else if channelRefused dump.channel then .error (-1)
      else xdmaCallIoctl .dump dump

end Vi53xx.Lib
