import Vi53xx.Foundation.SlotTable
import Mathlib.Data.BitVec

/-! The static variables of the user-space library, as one record, together with
the descriptors the process holds open. A NULL pointer is `none`; a table of
pointers to records that no one else keeps is a table of the records. -/

set_option autoImplicit false

namespace Vi53xx.Lib

open Foundation

abbrev maxDevHandle : Nat := 128

abbrev boardNum : Nat := 128

abbrev bitmapSize : Nat := maxDevHandle / 8

instance : NeZero maxDevHandle := ⟨by decide⟩

def ENODEV : Int := 19

def ENOMEM : Int := 12

/-- Undefined behaviour a call can run into; the process does not go on. -/
inductive Fault where
  | nullPointer
  | outOfBounds
  | unterminated
  deriving DecidableEq, Repr

structure DeviceInfo where
  boardInst : BitVec 32
  boardId : BitVec 32
  boardType : BitVec 32
  boardName : List Char
  deriving DecidableEq, Repr

def DeviceInfo.cleared : DeviceInfo := ⟨0, 0, 0, []⟩

structure DevHandle where
  devHandle : Int
  boardId : BitVec 32
  devName : List Char
  deriving DecidableEq, Repr

structure BoardidToIdx where
  idx : Int
  boardId : BitVec 32
  deriving DecidableEq, Repr

/-- The variable that matio has read from the parameter file. -/
structure MatVar where
  name : List Char
  isUint32 : Bool
  rows : BitVec 32
  columns : BitVec 32
  bytes : Nat
  data : List (BitVec 32)
  deriving DecidableEq, Repr

/-- `pmt`. The file handles of matio are numbers. -/
structure ParvarMat where
  matPath : List Char
  size : Nat
  data : Option (List (BitVec 32))
  rows : BitVec 32
  columns : BitVec 32
  matfile : Option Nat
  matvar : Option MatVar
  dataType : Int
  deriving DecidableEq, Repr

def ParvarMat.cleared : ParvarMat := ⟨[], 0, none, 0, 0, none, none, 0⟩

structure LibState where
  availableBoardCount : Int
  onlineBoardCount : Int
  initCheckOk : Bool
  boardInfo : Option (List DeviceInfo)
  boardErrorInfo : Option (List DeviceInfo)
  idBitmap : Fin bitmapSize → BitVec 8
  devHandleList : Slots maxDevHandle DevHandle
  devBoardidToIdxList : Slots maxDevHandle BoardidToIdx
  pmt : ParvarMat
  /-- What `open(2)` has returned and `close(2)` has not been called on. -/
  descriptors : List Int

def LibState.loaded : LibState where
  availableBoardCount := 0
  onlineBoardCount := 0
  initCheckOk := false
  boardInfo := none
  boardErrorInfo := none
  idBitmap := fun _ => 0
  devHandleList := Slots.empty
  devBoardidToIdxList := Slots.empty
  pmt := ParvarMat.cleared
  descriptors := []

end Vi53xx.Lib
