import Vi53xx.Lib.State
import Vi53xx.Foundation.CText

/-! The board table of the library: how `check_boards_info` loads it from the
mapping file, how it is searched and how it is dropped. What the system decides
(the file, `malloc`, the bytes nobody has written) is an argument. -/

set_option autoImplicit false

namespace Vi53xx.Lib

open Foundation Foundation.CText

/-! ## The mapping file -/

/-- `sscanf(text, "%x:%d:%x", ..)`, if it converts all three. -/
def scanMapping (text : List Char) : Option (BitVec 32 × BitVec 32 × BitVec 32) := do
  let (inst, text) ← scanHex text
  let text ← scanLiteral ':' text
  let (id, text) ← scanDecimal text
  let text ← scanLiteral ':' text
  let (type, _) ← scanHex text
  return (inst, id, type)

def separators : List Char := [' ', '\t', '\n']

/-- `sizeof(board_name)`, in a record as on the stack of `get_board_handle`, and
`sizeof(dev_name)`. -/
def boardNameSize : Nat := 32

/-- The body of the loop of `extractValue` on the buffer as `fgets` leaves it. -/
def extractLine (line : List Char) : Except Fault (List Char × Option DeviceInfo) :=
  let (name, line) := strtok separators line
  match cstring (line.drop 11) with
  | none => .error .unterminated
  | some numbers =>
      match scanMapping numbers with
      | none => .ok (line, none)
      | some (inst, id, type) =>
          match name with
          | none => .error .nullPointer
          | some offset =>
              match cstring (line.drop offset) with
              | none => .error .unterminated
              | some name =>
                  -- `sprintf` runs on into the next record
                  if name.length < boardNameSize then .ok (line, some ⟨inst, id, type, name⟩)
                  else .error .outOfBounds

/-- The loop, from what the buffer holds and the records stored so far. -/
def extractLines : List Char → List (List Char) → List DeviceInfo → Except Fault (List DeviceInfo)
  | _, [], info => .ok info
  | line, text :: rest, info =>
      match extractLine (putString line text) with
      | .error fault => .error fault
      | .ok (line, none) => extractLines line rest info
      | .ok (line, some record) =>
          -- a record past the end of the array corrupts the heap
          if info.length < boardNum then extractLines line rest (info ++ [record])
          else .error .outOfBounds

/-- The records stored in order, with their number; `line` is the content of the
buffer before the first `fgets`. -/
def extractValue (line : List Char) (file : Option (List Char)) :
    Except Fault (Int × List DeviceInfo) :=
  match file with
  | none => .ok (-1, [])
  | some content =>
      match extractLines line (fgetsAll 256 content) [] with
      | .error fault => .error fault
      | .ok info => .ok (info.length, info)

/-! ## Loading the table -/

/-- The position `j` at which the inner loop of `_check_boards_info` breaks off. -/
def conflictOf (info : Nat → DeviceInfo) (count i : Nat) : Option Nat :=
  (List.range' (i + 1) (count - i)).find? fun j => (info i).boardId == (info j).boardId

/-- `_check_boards_info`: the entries written to `err_info`, whose number it returns. -/
def conflicts (info : Nat → DeviceInfo) (count : Nat) : List DeviceInfo :=
  if count = 1 then []
  else (List.range count).flatMap fun i =>
    match conflictOf info count i with
    | none => []
    | some j => [info i, info j]

/-- An array of `boardNum` records whose first entries have been written. -/
def fillTable (records : List DeviceInfo) : List DeviceInfo :=
  records ++ List.replicate (boardNum - records.length) DeviceInfo.cleared

/-- What a call of `check_boards_info` meets. `pastEnd` is what the memory right
after the board table reads as. -/
structure CheckEnv where
  procfs : List Char → Option (List Char)
  mallocInfo : Bool
  mallocErrorInfo : Bool
  line : List Char
  pastEnd : DeviceInfo

def mapingPath : List Char := "/proc/vi53xx/maping".toList

def initConfig (state : LibState) : LibState :=
  { state with
    devHandleList := Slots.empty
    devBoardidToIdxList := Slots.empty
    idBitmap := fun _ => 0 }

def requstMem (env : CheckEnv) (state : LibState) : Int × LibState :=
  if env.mallocInfo then
    let state := { state with boardInfo := some (fillTable []) }
    if env.mallocErrorInfo then (0, { state with boardErrorInfo := some (fillTable []) })
    else (-1, { state with boardErrorInfo := none })
  else (-1, { state with boardInfo := none })

def checkBoardsInfo (env : CheckEnv) (state : LibState) : Except Fault (Int × LibState) :=
  if state.initCheckOk then .ok (0, state)
  else
    let (ret, state) := requstMem env (initConfig { state with initCheckOk := true })
    if ret < 0 then .ok (ret, state)
    else
      match extractValue env.line (env.procfs mapingPath) with
      | .error fault => .error fault
      | .ok (boardNumber, records) =>
          let table := fillTable records
          let state := { state with boardInfo := some table }
          if boardNumber ≤ 0 then .ok (ret, state)
          else
            let errors := conflicts (fun i => table.getD i env.pastEnd) boardNumber.toNat
            -- an entry past the end of `err_info` corrupts the heap
            if boardNum < errors.length then .error .outOfBounds
            else
              .ok (errors.length, { state with
                availableBoardCount := boardNumber
                boardErrorInfo := some (fillTable errors) })

/-! ## Searching the table -/

def getAvailableBoardCount (state : LibState) : Int :=
  if state.availableBoardCount > maxDevHandle then 0 else state.availableBoardCount

def getOnlineBoardCount (state : LibState) : Int :=
  if state.onlineBoardCount ≤ 0 then 0 else state.onlineBoardCount

/-- The entries of `board_info` that the search loops go through. -/
def searchedBoards (state : LibState) : Except Fault (List DeviceInfo) :=
  if state.availableBoardCount ≤ 0 then .ok []
  else
    match state.boardInfo with
    | none => .error .nullPointer
    | some info =>
        if state.availableBoardCount ≤ info.length then
          .ok (info.take state.availableBoardCount.toNat)
        else .error .outOfBounds

def vi53xxGetBoardType (boards : List DeviceInfo) (boardId : BitVec 32) : BitVec 32 :=
  match boards.find? fun board => board.boardId == boardId with
  | some board => board.boardType
  | none => 0

def getBoardName (boards : List DeviceInfo) (boardType : BitVec 32) : Option (List Char) :=
  (boards.find? fun board => board.boardType == boardType).map DeviceInfo.boardName

def getBoardInstance (boards : List DeviceInfo) (boardId : BitVec 32) : BitVec 32 :=
  match boards.find? fun board => board.boardId == boardId with
  | some board => board.boardInst
  | none => 0

/-- `"/dev/%s_%d"` for the board; a NULL name prints as `(null)`. -/
def devicePath (boards : List DeviceInfo) (boardId : BitVec 32) : List Char :=
  let name := getBoardName boards (vi53xxGetBoardType boards boardId)
  "/dev/".toList ++ name.getD "(null)".toList ++
    '_' :: decimal (getBoardInstance boards boardId).toInt

/-! ## Dropping the table -/

def freeMem (state : LibState) : LibState :=
  { state with boardInfo := none, boardErrorInfo := none }

def releaseBoardInfo (state : LibState) : LibState :=
  { freeMem state with availableBoardCount := 0, onlineBoardCount := 0, initCheckOk := false }

def releaseParvarMat (state : LibState) : LibState :=
  let pmt := state.pmt
  let pmt := if pmt.matvar.isSome then { pmt with matvar := none, data := none } else pmt
  let pmt := if pmt.matfile.isSome then { pmt with matfile := none } else pmt
  { state with pmt }

end Vi53xx.Lib
