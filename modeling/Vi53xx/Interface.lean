import Mathlib.Data.BitVec

/-! The requests of the character device, as the headers of the driver and of the
library both define them. -/

set_option autoImplicit false

namespace Vi53xx

def H2C_DIR : BitVec 8 := 0

def C2H_DIR : BitVec 8 := 1

/-- `struct vi53xx_xdma_info`, the argument of every request. -/
structure XdmaInfo where
  bar : BitVec 32
  offset : BitVec 32
  wr : BitVec 32
  wVal : BitVec 32
  rVal : BitVec 64
  dir : BitVec 8
  channel : BitVec 32
  buf : BitVec 64
  pos : BitVec 64
  len : BitVec 64
  deriving DecidableEq, Repr

/-- `sizeof(struct vi53xx_xdma_info)`. -/
def XdmaInfo.size : Nat := 56

def XdmaInfo.cleared : XdmaInfo := ⟨0, 0, 0, 0, 0, 0, 0, 0, 0, 0⟩

inductive XdmaCmd where
  | init
  | start
  | stop
  | reg
  | print
  | setting
  | exit
  | dump
  deriving DecidableEq, Repr

/-- The number of a command, `CMD_XDMA_INIT` being 0. -/
def XdmaCmd.nr : XdmaCmd → Nat
  | .init => 0
  | .start => 1
  | .stop => 2
  | .reg => 3
  | .print => 4
  | .setting => 5
  | .exit => 6
  | .dump => 7

def XdmaCmd.ofNr : Nat → Option XdmaCmd
  | 0 => some .init
  | 1 => some .start
  | 2 => some .stop
  | 3 => some .reg
  | 4 => some .print
  | 5 => some .setting
  | 6 => some .exit
  | 7 => some .dump
  | _ => none

def IOWR (type nr size : Nat) : BitVec 32 :=
  (3#32 <<< 30) ||| (BitVec.ofNat 32 size <<< 16) ||| (BitVec.ofNat 32 type <<< 8) |||
    BitVec.ofNat 32 nr

def IOC_TYPE (cmd : BitVec 32) : Nat := (cmd.extractLsb' 8 8).toNat

def IOC_NR (cmd : BitVec 32) : Nat := (cmd.extractLsb' 0 8).toNat

def rtpcIoctlTypeXdma : Nat := 1

/-- `RTPC_IOCTL_XDMA_INIT` and so on. -/
def rtpcIoctlXdma (cmd : XdmaCmd) : BitVec 32 := IOWR rtpcIoctlTypeXdma cmd.nr XdmaInfo.size

@[simp] theorem rtpcIoctlXdma_type (cmd : XdmaCmd) :
    IOC_TYPE (rtpcIoctlXdma cmd) = rtpcIoctlTypeXdma := by
  cases cmd <;> decide

@[simp] theorem rtpcIoctlXdma_nr (cmd : XdmaCmd) :
    XdmaCmd.ofNr (IOC_NR (rtpcIoctlXdma cmd)) = some cmd := by
  cases cmd <;> decide

end Vi53xx
