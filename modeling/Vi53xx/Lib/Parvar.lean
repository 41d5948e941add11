import Vi53xx.Lib.Handles
import Vi53xx.Foundation.Runs

/-! The parameter file of a model, which matio reads: the calls of a process that open
the file, and those that release it on the way. -/

set_option autoImplicit false

namespace Vi53xx.Lib

open Foundation

/-! ## The path -/

abbrev strSize : Nat := 256

abbrev matPathSize : Nat := 512

/-- A string that is written to the start of an array, its NUL included. -/
def writeString (size : Nat) (text : List Char) : Except Fault (List Char) :=
  if text.length + 1 ≤ size then .ok text else .error .outOfBounds

def toLower (char : Char) : Char :=
  if 'A' ≤ char ∧ char ≤ 'Z' then Char.ofNat (char.toNat + 32) else char

def convertToLower (str : List Char) : List Char := str.map toLower

/-- The format of `set_parvar_mat_path`. -/
def parvarPath (str : List Char) : List Char :=
  "/home/rtpc/codegen/simodels/".toList ++ str ++ "/external/code/src/simulink_".toList ++ str ++
    "/parvar.mat".toList

/-! ## Opening and releasing -/

/-- What the calls of matio answer. A variable of 32-bit integers has as many elements
as its size in bytes says. -/
structure MatEnv where
  matOpen : Option Nat
  varReadNext : Option (List Char)
  varRead : List Char → Option MatVar
  sized : ∀ name var, varRead name = some var → var.isUint32 = true →
    var.data.length = var.bytes / 4

/-- The library with the files that have been opened and not been closed. -/
structure ParvarProcess where
  lib : LibState
  files : List Nat

def initParvarMat (env : MatEnv) (pmt : ParvarMat) : Except Fault ParvarMat :=
  match env.varReadNext with
  | none => .ok pmt
  | some name =>
      match env.varRead name with
      | none => .error .nullPointer
      | some matvar =>
          if matvar.isUint32 then .ok { pmt with
            matvar := some matvar
            rows := matvar.rows
            columns := matvar.columns
            size := matvar.bytes / 4
            data := some matvar.data
            dataType := 1 }
          else .ok { pmt with matvar := some matvar, dataType := 0 }

def ParvarProcess.withPmt (process : ParvarProcess) (pmt : ParvarMat) : ParvarProcess :=
  { process with lib := { process.lib with pmt } }

def setParvarMatPath (env : MatEnv) (process : ParvarProcess) :
    Option (List Char) → Except Fault (Int × ParvarProcess)
  | none => .ok (-1, process)
  | some name => do
      let str ← writeString strSize name
      let matPath ← writeString matPathSize (parvarPath (convertToLower str))
      -- `memset` on the whole structure, the handle of an open file included
      let pmt := { ParvarMat.cleared with matPath, matfile := env.matOpen }
      match env.matOpen with
      | none => .ok (-1, process.withPmt pmt)
      | some file => do
          let pmt ← initParvarMat env pmt
          .ok (0, { process.withPmt pmt with files := file :: process.files })

/-- A call of the library in which `release_parvar_mat` closes the current file. -/
def ParvarProcess.releasing (process : ParvarProcess) (lib : LibState) : ParvarProcess :=
  ⟨lib, process.files.filter fun file => process.lib.pmt.matfile ≠ some file⟩

def checkParvarMatDataTypeUint32 (state : LibState) : Int := state.pmt.dataType

def getParvarData (state : LibState) : Option (List (BitVec 32)) := state.pmt.data

def getParvarMatSize (state : LibState) : Nat := state.pmt.size

/-! ## Calls of a process -/

inductive ParvarCall where
  | setPath (env : MatEnv) (name : Option (List Char))
  | deviceClose (boardId : BitVec 32)
  | freeBoards (boardId : BitVec 32)

/-- `Mat_Open` gives no handle that is still open. -/
def parvarStep (process : ParvarProcess) : ParvarCall → Option ParvarProcess
  | .setPath env name =>
      if env.matOpen.any process.files.contains then none
      else (setParvarMatPath env process name).toOption.map Prod.snd
  | .deviceClose boardId => some (process.releasing (vi53xxDeviceClose process.lib boardId))
  | .freeBoards boardId => some (process.releasing (freeBoardInfo process.lib boardId))

/-- A process that has set no path yet. -/
def ParvarProcess.started (lib : LibState) : ParvarProcess :=
  ⟨{ lib with pmt := ParvarMat.cleared }, []⟩

end Vi53xx.Lib
