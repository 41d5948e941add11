import Vi53xx.Foundation.KernelScan
import Vi53xx.Driver.ChannelInit
import Vi53xx.Driver.Led

/-! A write to the proc file of a board: the scanning of the command, and the `dump`
that it can ask for. -/

set_option autoImplicit false

namespace Vi53xx.Driver

open Foundation Foundation.CText Foundation.KernelScan

def EFAULT : Int := 14

abbrev kBufSize : Nat := 256

abbrev cmdSize : Nat := 255

/-- `k_buf` when the bytes that are taken of the write have been copied. -/
def kBuf (buf : List Char) : List Char :=
  let len := min 255 buf.length
  (buf.take len ++ List.replicate (kBufSize - len) nul).set 255 nul

/-- `sscanf` of a command, whose words go into `cmd`. -/
def scanCommand (format : List Directive) (text : List Char) : KernelM (List Scanned) :=
  let values := sscanf format text
  if values.all (Scanned.fits cmdSize) then pure values else Program.fault .outOfBounds

/-- The format `"%s %d %d %x"`. -/
def dumpFormat : List Directive := [.word, .space, .int, .space, .int, .space, .hex]

structure DeviceControlState where
  ch : BitVec 32
  dir : BitVec 32
  pData : Option Nat
  offset : BitVec 32

/-- The two values that `call_dump_control` prints. -/
structure DumpReport where
  offset : BitVec 8
  byte : BitVec 8
  deriving DecidableEq, Repr

def callDumpControl (dc : DeviceControlState) : KernelM DumpReport :=
  match dc.pData with
  | none => Program.fault .nullPointer
  | some block => do
      let offset := dc.offset.setWidth 8
      logAccess (.buffer block offset.toNat 1)
      let byte ← Program.read fun state => state.buffers block offset.toNat
      pure ⟨offset, byte⟩

/-- `xpdev->dma_cfg` at one of the two directions. -/
def XdmaDev.dmaCfg (xdev : XdmaDev) (dir : BitVec 32) :
    Option (Fin xdmaChannelNum → XdmaCfgInfo) :=
  if dir = H2C_DIR.setWidth 32 then some xdev.h2cDmaCfg
  else if dir = C2H_DIR.setWidth 32 then some xdev.c2hDmaCfg
  else none

/-- What a write returns, the LED it leaves, and what it has printed of a buffer. -/
structure WriteAnswer where
  ret : Int
  led : Led
  report : Option DumpReport

/-- What `dump` does with the values that have been scanned. -/
def dumpScanned (xdev : XdmaDev) (led : Led) (len count : Nat) :
    List Scanned → KernelM WriteAnswer
  | [.word _, .int ch, .int dir, .hex offset] =>
      match xdev.dmaCfg dir with
      | none => pure ⟨len, led, none⟩
      | some cfg =>
          if ch.toInt ≠ CH1 then pure ⟨len, led, none⟩
          else
            match entryAt cfg (ch.toInt - 1) with
            | none => Program.fault .outOfBounds
            | some cfg => do
                let report ← callDumpControl ⟨ch, dir, cfg.pData 0, offset⟩
                pure ⟨count, led, some report⟩
  | _ => pure ⟨count, led, none⟩

def writeDump (xdev : XdmaDev) (led : Led) (text : List Char) (len count : Nat) :
    KernelM WriteAnswer := do
  let values ← scanCommand dumpFormat text
  dumpScanned xdev led len count values

/-- What a write does with the word that has been scanned, if one has. -/
def wordScanned (xdev : XdmaDev) (led : Led) (text : List Char) (len count : Nat) :
    List Scanned → KernelM WriteAnswer
  | [.word cmd] =>
      match blinkState cmd with
      | some state => pure ⟨count, led.callBlinkControl state, none⟩
      | none =>
          if cmd = ['d', 'u', 'm', 'p'] then writeDump xdev led text len count
          else pure ⟨count, led, none⟩
  | _ => pure ⟨-EINVAL, led, none⟩

/-- The proc handler on the bytes of a write; `copied` tells that `copy_from_user` has
succeeded. -/
def XdmaDev.deviceWrite (xdev : XdmaDev) (led : Led) (buf : List Char) (copied : Bool) :
    KernelM WriteAnswer := do
  let count := buf.length
  let len := min 255 count
  if !copied then pure ⟨-EFAULT, led, none⟩
  else
    match cstring (kBuf buf) with
    | none => Program.fault .outOfBounds
    | some text => do
        let values ← scanCommand [.word] text
        wordScanned xdev led text len count values

end Vi53xx.Driver
