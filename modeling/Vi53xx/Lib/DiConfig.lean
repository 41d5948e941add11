import Vi53xx.Lib.BoardRequests
import Vi53xx.Lib.Scope
import Mathlib.Data.Rat.Floor

/-! The settings of the digital inputs. A voltage is an exact rational here, and what a
call does is the list of its actions, one for each function it calls. -/

set_option autoImplicit false

namespace Vi53xx.Lib

open Foundation Foundation.CText

/-! ## Registers and control codes -/

def BAR0 : BitVec 32 := 0

def DI_CONFIG_IP_BASE : BitVec 32 := 0x20000

def DIN1 : BitVec 32 := DI_CONFIG_IP_BASE + 0x100
def DIN2 : BitVec 32 := DI_CONFIG_IP_BASE + 0x110
def DIN3 : BitVec 32 := DI_CONFIG_IP_BASE + 0x120
def DIN4 : BitVec 32 := DI_CONFIG_IP_BASE + 0x130
def DIN_VLD : BitVec 32 := DI_CONFIG_IP_BASE + 0x150

def DI1_HIGHLEVEL_CONTROL : BitVec 32 := 0x3
def DI1_LOWLEVEL_CONTROL : BitVec 32 := 0x4
def DI2_HIGHLEVEL_CONTROL : BitVec 32 := 0x6
def DI2_LOWLEVEL_CONTROL : BitVec 32 := 0x5
def DI3_HIGHLEVEL_CONTROL : BitVec 32 := 0x1
def DI3_LOWLEVEL_CONTROL : BitVec 32 := 0x2
def DI4_HIGHLEVEL_CONTROL : BitVec 32 := 0x8
def DI4_LOWLEVEL_CONTROL : BitVec 32 := 0x7

def DI5_HIGHLEVEL_CONTROL : BitVec 32 := 0x3
def DI5_LOWLEVEL_CONTROL : BitVec 32 := 0x4
def DI6_HIGHLEVEL_CONTROL : BitVec 32 := 0x6
def DI6_LOWLEVEL_CONTROL : BitVec 32 := 0x5
def DI7_HIGHLEVEL_CONTROL : BitVec 32 := 0x1
def DI7_LOWLEVEL_CONTROL : BitVec 32 := 0x2
def DI8_HIGHLEVEL_CONTROL : BitVec 32 := 0x8
def DI8_LOWLEVEL_CONTROL : BitVec 32 := 0x7

def DI9_HIGHLEVEL_CONTROL : BitVec 32 := 0x3
def DI9_LOWLEVEL_CONTROL : BitVec 32 := 0x4
def DI10_HIGHLEVEL_CONTROL : BitVec 32 := 0x6
def DI10_LOWLEVEL_CONTROL : BitVec 32 := 0x5
def DI11_HIGHLEVEL_CONTROL : BitVec 32 := 0x1
def DI11_LOWLEVEL_CONTROL : BitVec 32 := 0x2
def DI12_HIGHLEVEL_CONTROL : BitVec 32 := 0x7
def DI12_LOWLEVEL_CONTROL : BitVec 32 := 0x8

def DI13_HIGHLEVEL_CONTROL : BitVec 32 := 0x3
def DI13_LOWLEVEL_CONTROL : BitVec 32 := 0x4
def DI14_HIGHLEVEL_CONTROL : BitVec 32 := 0x7
def DI14_LOWLEVEL_CONTROL : BitVec 32 := 0x8
def DI15_HIGHLEVEL_CONTROL : BitVec 32 := 0x1
def DI15_LOWLEVEL_CONTROL : BitVec 32 := 0x2
def DI16_HIGHLEVEL_CONTROL : BitVec 32 := 0x5
def DI16_LOWLEVEL_CONTROL : BitVec 32 := 0x6

def diHl : List (List (BitVec 32)) := [
  [0,
    DI1_LOWLEVEL_CONTROL, DI2_LOWLEVEL_CONTROL, DI3_LOWLEVEL_CONTROL, DI4_LOWLEVEL_CONTROL,
    DI5_LOWLEVEL_CONTROL, DI6_LOWLEVEL_CONTROL, DI7_LOWLEVEL_CONTROL, DI8_LOWLEVEL_CONTROL,
    DI9_LOWLEVEL_CONTROL, DI10_LOWLEVEL_CONTROL, DI11_LOWLEVEL_CONTROL, DI12_LOWLEVEL_CONTROL,
    DI13_LOWLEVEL_CONTROL, DI14_LOWLEVEL_CONTROL, DI15_LOWLEVEL_CONTROL, DI16_LOWLEVEL_CONTROL],
  [0,
    DI1_HIGHLEVEL_CONTROL, DI2_HIGHLEVEL_CONTROL, DI3_HIGHLEVEL_CONTROL, DI4_HIGHLEVEL_CONTROL,
    DI5_HIGHLEVEL_CONTROL, DI6_HIGHLEVEL_CONTROL, DI7_HIGHLEVEL_CONTROL, DI8_HIGHLEVEL_CONTROL,
    DI9_HIGHLEVEL_CONTROL, DI10_HIGHLEVEL_CONTROL, DI11_HIGHLEVEL_CONTROL, DI12_HIGHLEVEL_CONTROL,
    DI13_HIGHLEVEL_CONTROL, DI14_HIGHLEVEL_CONTROL, DI15_HIGHLEVEL_CONTROL, DI16_HIGHLEVEL_CONTROL]]

/-! ## The value of a setting -/

def V : ℚ := 5 / 2

def MASK : Nat := 12

/-- The conversion to `unsigned int`, of a value in its range. -/
def toUnsigned (value : ℚ) : BitVec 32 := BitVec.ofNat 32 ⌊value⌋₊

def getInputCode (val : ℚ) : BitVec 32 := toUnsigned ((toUnsigned (val * 1024)).toNat / V)

def getControl (channel highlow : Int) : Except Fault (BitVec 32) :=
  if channel < 0 ∨ highlow < 0 then .error .outOfBounds
  else
    match diHl[highlow.toNat]?.bind fun levels => levels[channel.toNat]? with
    | some control => .ok control
    | none => .error .outOfBounds

def getRegValue (channel highlow : Int) (inputCode : BitVec 32) : Except Fault (BitVec 32) :=
  (getControl channel highlow).map fun control : BitVec 32 =>
    ((control <<< MASK) ||| (inputCode <<< 2) : BitVec 32)

def getDiValue (channel highlow : Int) (val : ℚ) : Except Fault (BitVec 32) :=
  getRegValue channel highlow (getInputCode val)

/-! ## A call -/

inductive DiAction where
  | writeRegister (bar offset val : BitVec 32)
  | printf (text : List Char)
  | usleep (microseconds : Nat)
  deriving DecidableEq, Repr

/-- The functions that `DI_CONFIG_IP` defines. -/
def dinConfig (name val : BitVec 32) : DiAction := .writeRegister BAR0 name val

def dinVld (val : BitVec 32) : DiAction := .writeRegister BAR0 DIN_VLD val

def unknownChannel (boardId : BitVec 32) (channel : Int) : List Char :=
  "unknown channel : board_id = ".toList ++ decimal boardId.toInt ++ ", channel = ".toList ++
    decimal channel ++ " DI config\n".toList

/-- The `switch` of `Call_DI_Config`. -/
def groupConfig (boardId : BitVec 32) (channel : Int) (val : BitVec 32) : List DiAction :=
  match channel with
  | 1 | 2 | 3 | 4 => [dinConfig DIN4 val, dinConfig DIN3 0, dinConfig DIN2 0, dinConfig DIN1 0]
  | 5 | 6 | 7 | 8 => [dinConfig DIN3 val, dinConfig DIN4 0, dinConfig DIN2 0, dinConfig DIN1 0]
  | 9 | 10 | 11 | 12 => [dinConfig DIN2 val, dinConfig DIN3 0, dinConfig DIN4 0, dinConfig DIN1 0]
  | 13 | 14 | 15 | 16 => [dinConfig DIN1 val, dinConfig DIN2 0, dinConfig DIN3 0, dinConfig DIN4 0]
  | _ => [.printf (unknownChannel boardId channel)]

def callDiConfig (boardId : BitVec 32) (channel : Int) (val : BitVec 32) : List DiAction :=
  groupConfig boardId channel val ++ [dinVld 1, .usleep 1000, dinVld 0]

def handlerDiConfig (boardId : BitVec 32) (channel highlow : Int) (value : ℚ) :
    Except Fault (List DiAction) :=
  (getDiValue channel highlow value).map (callDiConfig boardId channel)

/-! ## The registers -/

/-- A process that has the board open, with what its stack holds. -/
structure DiProcess where
  state : LibState
  stack : XdmaInfo
  boardId : BitVec 32

/-- A request to write a register, served by the board. -/
def served (regs : RegFile) : Sent → RegFile
  | .ok (_, _, info) => (serveRegister regs (.write info.offset info.wVal) true).2
  | .error _ => regs

def perform (process : DiProcess) (regs : RegFile) : DiAction → RegFile
  | .writeRegister bar offset val => served regs
      (vi53xxWriteRegister process.state process.stack process.boardId bar offset val)
  | .printf _ => regs
  | .usleep _ => regs

def performAll (process : DiProcess) (regs : RegFile) (actions : List DiAction) : RegFile :=
  actions.foldl (perform process) regs

structure DiSetting where
  channel : Int
  highlow : Int
  value : ℚ

def diStep (process : DiProcess) (regs : RegFile) (setting : DiSetting) : Option RegFile :=
  (handlerDiConfig process.boardId setting.channel setting.highlow setting.value).toOption.map
    (performAll process regs)

end Vi53xx.Lib
