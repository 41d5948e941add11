import Vi53xx.Foundation.CText

/-! The board types the driver knows, the instance counter of each type and the
record it keeps of a board. -/

set_option autoImplicit false

namespace Vi53xx.Driver

def EINVAL : Int := 22

def ENOMEM : Int := 12

def es5341Id : BitVec 32 := 0x0000B100#32

def es5311Id : BitVec 32 := 0x0000B000#32

def es5342Id : BitVec 32 := 0x0000B200#32

abbrev boardTepeNum : Nat := 3

def deviceBoardBase : BitVec 32 := 0x50000#32

def deviceBoardType : BitVec 32 := deviceBoardBase + 0x300#32

def deviceBoardId : BitVec 32 := deviceBoardBase + 0x1C0#32

def deviceMdlVersion : BitVec 32 := deviceBoardBase + 0x200#32

def deviceFpgaVersion : BitVec 32 := deviceBoardBase + 0x204#32

def deviceLedBlink : BitVec 32 := deviceBoardBase + 0x100#32

/-- An entry of `vi53xx_inca_board_name_list`. -/
structure BoardInfo where
  incaDt : BitVec 32
  boardName : List Char
  count : BitVec 32
  deriving DecidableEq, Repr

structure DeviceInfo where
  boardId : BitVec 32
  mdlVersion : BitVec 32
  fpgaVersion : BitVec 32
  boardType : BitVec 32
  serial : BitVec 32
  ledBlink : BitVec 32
  boardInst : BitVec 32
  deviceName : List Char
  createFlag : Bool
  deriving DecidableEq, Repr

def getBoardName (boardId : BitVec 32) : Option (List Char) :=
  if boardId = es5341Id then some "es5341".toList
  else if boardId = es5311Id then some "es5311".toList
  else if boardId = es5342Id then some "es5342".toList
  else none

def initialBoardNameList : List BoardInfo :=
  [⟨es5341Id, "es5341".toList, 0⟩, ⟨es5311Id, "es5311".toList, 0⟩, ⟨es5342Id, "es5342".toList, 0⟩]

/-- The next instance number of a type, which the list then counts. -/
def getBoardInstance (incaDt : BitVec 32) : List BoardInfo → BitVec 32 × List BoardInfo
  | [] => (-1, [])
  | entry :: rest =>
      if incaDt = entry.incaDt then (entry.count, { entry with count := entry.count + 1 } :: rest)
      else
        let (instance_, rest) := getBoardInstance incaDt rest
        (instance_, entry :: rest)

def getMajorIdx (incaDt : BitVec 32) (list : List BoardInfo) : Option Nat :=
  list.findIdx? fun entry => entry.incaDt == incaDt

/-- `readReg` is what the board answers at an offset of BAR 0. The string `%s`
prints for a type without a name is never kept: `create_cdev` has returned then. -/
def initDeviceInfo (readReg : BitVec 32 → BitVec 32) (boardInst : BitVec 32) : DeviceInfo where
  boardId := readReg deviceBoardId
  mdlVersion := readReg deviceMdlVersion
  fpgaVersion := readReg deviceFpgaVersion
  boardType := readReg deviceBoardType
  serial := 0x9910001#32
  ledBlink := readReg deviceLedBlink
  boardInst := boardInst
  deviceName := (getBoardName (readReg deviceBoardType)).getD "(null)".toList
  createFlag := false

end Vi53xx.Driver
