import Vi53xx.Lib.DiConfig

/-! The settings of the digital outputs, and calls for inputs and outputs of one board
in any order. -/

set_option autoImplicit false

namespace Vi53xx.Lib

open Foundation Foundation.CText

/-! ## Registers -/

def DO_CONFIG_IP_BASE : BitVec 32 := 0x10000

def DO_CHNNEL_ADDRESS_OFFSET : BitVec 32 := 0x100

def DO1_En : BitVec 32 := DO_CONFIG_IP_BASE + DO_CHNNEL_ADDRESS_OFFSET + 0x00
def DO1_Ref : BitVec 32 := DO_CONFIG_IP_BASE + DO_CHNNEL_ADDRESS_OFFSET + 0x04

def DO2_En : BitVec 32 := DO_CONFIG_IP_BASE + DO_CHNNEL_ADDRESS_OFFSET + 0x08
def DO2_Ref : BitVec 32 := DO_CONFIG_IP_BASE + DO_CHNNEL_ADDRESS_OFFSET + 0x0C

def DO3_En : BitVec 32 := DO_CONFIG_IP_BASE + DO_CHNNEL_ADDRESS_OFFSET + 0x10
def DO3_Ref : BitVec 32 := DO_CONFIG_IP_BASE + DO_CHNNEL_ADDRESS_OFFSET + 0x14

def DO4_En : BitVec 32 := DO_CONFIG_IP_BASE + DO_CHNNEL_ADDRESS_OFFSET + 0x18
def DO4_Ref : BitVec 32 := DO_CONFIG_IP_BASE + DO_CHNNEL_ADDRESS_OFFSET + 0x1C

def DO5_En : BitVec 32 := DO_CONFIG_IP_BASE + DO_CHNNEL_ADDRESS_OFFSET + 0x20
def DO5_Ref : BitVec 32 := DO_CONFIG_IP_BASE + DO_CHNNEL_ADDRESS_OFFSET + 0x24

def DO6_En : BitVec 32 := DO_CONFIG_IP_BASE + DO_CHNNEL_ADDRESS_OFFSET + 0x28
def DO6_Ref : BitVec 32 := DO_CONFIG_IP_BASE + DO_CHNNEL_ADDRESS_OFFSET + 0x2C

def DO7_En : BitVec 32 := DO_CONFIG_IP_BASE + DO_CHNNEL_ADDRESS_OFFSET + 0x30
def DO7_Ref : BitVec 32 := DO_CONFIG_IP_BASE + DO_CHNNEL_ADDRESS_OFFSET + 0x34

def DO8_En : BitVec 32 := DO_CONFIG_IP_BASE + DO_CHNNEL_ADDRESS_OFFSET + 0x38
def DO8_Ref : BitVec 32 := DO_CONFIG_IP_BASE + DO_CHNNEL_ADDRESS_OFFSET + 0x3C

def DO9_En : BitVec 32 := DO_CONFIG_IP_BASE + DO_CHNNEL_ADDRESS_OFFSET + 0x40
def DO9_Ref : BitVec 32 := DO_CONFIG_IP_BASE + DO_CHNNEL_ADDRESS_OFFSET + 0x44

def DO10_En : BitVec 32 := DO_CONFIG_IP_BASE + DO_CHNNEL_ADDRESS_OFFSET + 0x48
def DO10_Ref : BitVec 32 := DO_CONFIG_IP_BASE + DO_CHNNEL_ADDRESS_OFFSET + 0x4C

def DO11_En : BitVec 32 := DO_CONFIG_IP_BASE + DO_CHNNEL_ADDRESS_OFFSET + 0x50
def DO11_Ref : BitVec 32 := DO_CONFIG_IP_BASE + DO_CHNNEL_ADDRESS_OFFSET + 0x54

def DO12_En : BitVec 32 := DO_CONFIG_IP_BASE + DO_CHNNEL_ADDRESS_OFFSET + 0x58
def DO12_Ref : BitVec 32 := DO_CONFIG_IP_BASE + DO_CHNNEL_ADDRESS_OFFSET + 0x5C

def DO13_En : BitVec 32 := DO_CONFIG_IP_BASE + DO_CHNNEL_ADDRESS_OFFSET + 0x60
def DO13_Ref : BitVec 32 := DO_CONFIG_IP_BASE + DO_CHNNEL_ADDRESS_OFFSET + 0x64

def DO14_En : BitVec 32 := DO_CONFIG_IP_BASE + DO_CHNNEL_ADDRESS_OFFSET + 0x68
def DO14_Ref : BitVec 32 := DO_CONFIG_IP_BASE + DO_CHNNEL_ADDRESS_OFFSET + 0x6C

def DO15_En : BitVec 32 := DO_CONFIG_IP_BASE + DO_CHNNEL_ADDRESS_OFFSET + 0x70
def DO15_Ref : BitVec 32 := DO_CONFIG_IP_BASE + DO_CHNNEL_ADDRESS_OFFSET + 0x74

def DO16_En : BitVec 32 := DO_CONFIG_IP_BASE + DO_CHNNEL_ADDRESS_OFFSET + 0x78
def DO16_Ref : BitVec 32 := DO_CONFIG_IP_BASE + DO_CHNNEL_ADDRESS_OFFSET + 0x7C

def F_VOLT_SEC_REF : BitVec 32 := DO_CONFIG_IP_BASE + DO_CHNNEL_ADDRESS_OFFSET + 0x80

/-! ## A call -/

abbrev DoAction := DiAction

/-- The functions that `DO_CONFIG_IP` defines. -/
def doConfig (enName refName : BitVec 32) (en ref : BitVec 8) : List DoAction :=
  [.writeRegister BAR0 enName (en.setWidth 32), .writeRegister BAR0 refName (ref.setWidth 32)]

def unknownOutput (boardId : BitVec 32) (channel : Int) : List Char :=
  "unknown channel : board_id = ".toList ++ decimal boardId.toInt ++ ", channel = ".toList ++
    decimal channel ++ " DO config \n".toList

def callDoConfig (boardId : BitVec 32) (channel : Int) (en ref : BitVec 8) : List DoAction :=
  match channel with
  | 1 => doConfig DO1_En DO1_Ref en ref
  | 2 => doConfig DO2_En DO2_Ref en ref
  | 3 => doConfig DO3_En DO3_Ref en ref
  | 4 => doConfig DO4_En DO4_Ref en ref
  | 5 => doConfig DO5_En DO5_Ref en ref
  | 6 => doConfig DO6_En DO6_Ref en ref
  | 7 => doConfig DO7_En DO7_Ref en ref
  | 8 => doConfig DO8_En DO8_Ref en ref
  | 9 => doConfig DO9_En DO9_Ref en ref
  | 10 => doConfig DO10_En DO10_Ref en ref
  | 11 => doConfig DO11_En DO11_Ref en ref
  | 12 => doConfig DO12_En DO12_Ref en ref
  | 13 => doConfig DO13_En DO13_Ref en ref
  | 14 => doConfig DO14_En DO14_Ref en ref
  | 15 => doConfig DO15_En DO15_Ref en ref
  | 16 => doConfig DO16_En DO16_Ref en ref
  | _ => [.printf (unknownOutput boardId channel)]

def handlerFVoitSecRef (val : BitVec 8) : List DoAction :=
  [.writeRegister BAR0 F_VOLT_SEC_REF (val.setWidth 32)]

def handlerDoConfig (boardId : BitVec 32) (channel : Int) (en ref : BitVec 8) : List DoAction :=
  callDoConfig boardId channel en ref

/-! ## Calls of a process -/

inductive IoCall where
  | doConfig (channel : Int) (en ref : BitVec 8)
  | fVoitSecRef (val : BitVec 8)
  | diConfig (setting : DiSetting)

def ioStep (process : DiProcess) (regs : RegFile) : IoCall → Option RegFile
  | .doConfig channel en ref =>
      some (performAll process regs (handlerDoConfig process.boardId channel en ref))
  | .fVoitSecRef val => some (performAll process regs (handlerFVoitSecRef val))
  | .diConfig setting => diStep process regs setting

end Vi53xx.Lib
