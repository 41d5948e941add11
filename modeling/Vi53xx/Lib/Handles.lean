import Vi53xx.Lib.Boards

/-! The handle table of the library and the indices it gives to boards. -/

set_option autoImplicit false

namespace Vi53xx.Lib

open Foundation

/-! ## Indices -/

/-- The bit of `id_bitmap` that stands for an index. -/
def idBit (bitmap : Fin bitmapSize → BitVec 8) (id : Fin maxDevHandle) : Bool :=
  (bitmap ⟨id.val / 8, Nat.div_lt_of_lt_mul id.isLt⟩ &&& (1#8 <<< (id.val % 8))) != 0#8

def getUniqueId (bitmap : Fin bitmapSize → BitVec 8) : Int × (Fin bitmapSize → BitVec 8) :=
  match (List.finRange maxDevHandle).find? fun id => !idBit bitmap id with
  | some id =>
      (id.val, fun index =>
        if index.val = id.val / 8 then bitmap index ||| (1#8 <<< (id.val % 8)) else bitmap index)
  | none => (0, bitmap)

def destroyId (id : Int) (bitmap : Fin bitmapSize → BitVec 8) : Fin bitmapSize → BitVec 8 :=
  if 0 ≤ id ∧ id < maxDevHandle then
    fun index =>
      if index.val = id.toNat / 8 then bitmap index &&& ~~~(1#8 <<< (id.toNat % 8))
      else bitmap index
  else bitmap

def findIdx (state : LibState) (boardId : BitVec 32) : Option BoardidToIdx :=
  state.devBoardidToIdxList.lookup maxDevHandle fun entry => entry.boardId == boardId

/-- `_get_idx`, which answers 0 for a board it does not find. -/
def getIdxOrZero (state : LibState) (boardId : BitVec 32) : Int :=
  match findIdx state boardId with
  | some entry => entry.idx
  | none => 0

def getIdx (mallocOk : Bool) (state : LibState) (boardId : BitVec 32) : Int × LibState :=
  match findIdx state boardId with
  | some entry => (entry.idx, state)
  | none =>
      if mallocOk then
        let (idx, idBitmap) := getUniqueId state.idBitmap
        match state.devBoardidToIdxList.freeSlot maxDevHandle with
        | some slot => (idx, { state with
            idBitmap
            devBoardidToIdxList := state.devBoardidToIdxList.store slot ⟨idx, boardId⟩ })
        | none => (0, { state with idBitmap })
      else (-ENOMEM, state)

def releaseIdx (state : LibState) (boardId : BitVec 32) : LibState :=
  { state with
    idBitmap := destroyId (getIdxOrZero state boardId) state.idBitmap
    devBoardidToIdxList :=
      state.devBoardidToIdxList.release fun entry => entry.boardId == boardId }

/-! ## Handles -/

def getDevHandle (state : LibState) (boardId : BitVec 32) : Option DevHandle :=
  state.devHandleList.lookup (getAvailableBoardCount state).toNat fun handle =>
    handle.boardId == boardId

structure OpenEnv where
  openFile : List Char → Int
  mallocOk : Bool

/-- `get_board_handle` with the entries of the table that its searches go through. -/
def getBoardHandle (env : OpenEnv) (boards : List DeviceInfo) (state : LibState)
    (boardId : BitVec 32) : Except Fault (Int × LibState) :=
  let path := devicePath boards boardId
  -- `sprintf` runs on behind `board_name`, on the stack
  if path.length < boardNameSize then
    let fd := env.openFile path
    .ok (fd, if fd < 0 then state else { state with descriptors := fd :: state.descriptors })
  else .error .outOfBounds

/-- The ways out of `vi53xx_device_open`, one for each of its returns. -/
inductive OpenReturn where
  | noBoards
  | openFailed
  | alreadyOpen (devHandle : Int)
  | outOfMemory
  | stored (devHandle : Int)
  | fallThrough
  deriving DecidableEq, Repr

def OpenReturn.value : OpenReturn → Int
  | .noBoards => -ENODEV
  | .openFailed => -ENODEV
  | .alreadyOpen devHandle => devHandle
  | .outOfMemory => -ENOMEM
  | .stored devHandle => devHandle
  | .fallThrough => 0

def closeFile (fd : Int) (state : LibState) : LibState :=
  { state with descriptors := state.descriptors.filter (· ≠ fd) }

/-- `vi53xx_device_open` after `get_board_handle` has returned. -/
def openWith (env : OpenEnv) (state : LibState) (boardId : BitVec 32) (cnt devHandle : Int)
    (devName : List Char) : OpenReturn × LibState :=
  if cnt = 0 then (.noBoards, state)
  else if devHandle < 0 then (.openFailed, state)
  else
    match state.devHandleList.lookup cnt.toNat fun handle => handle.boardId == boardId with
    | some handle => (.alreadyOpen handle.devHandle, state)
    | none =>
        -- `n + 1`, with `n` as the search loop has left it
        let state := { state with onlineBoardCount := cnt.toNat + 1 }
        if env.mallocOk then
          match state.devHandleList.freeSlot cnt.toNat with
          | some slot => (.stored devHandle, { state with
              devHandleList := state.devHandleList.store slot ⟨devHandle, boardId, devName⟩ })
          -- No slot is free, and the function runs off its end.
          | none => (.fallThrough, state)
        else (.outOfMemory, closeFile devHandle state)

def vi53xxDeviceOpen (env : OpenEnv) (state : LibState) (boardId : BitVec 32) :
    Except Fault (OpenReturn × LibState) :=
  match searchedBoards state with
  | .error fault => .error fault
  | .ok boards =>
      let cnt := getAvailableBoardCount state
      match getBoardHandle env boards state boardId with
      | .error fault => .error fault
      | .ok (devHandle, state) =>
          -- `dev_name` is as long as `board_name`, which has held the same path
          .ok (openWith env state boardId cnt devHandle (devicePath boards boardId))

/-- The descriptors in the slots that `release_dev_handle` empties. -/
def releasedDescriptors (state : LibState) (boardId : BitVec 32) : List Int :=
  (List.finRange maxDevHandle).filterMap fun slot =>
    ((state.devHandleList slot).filter fun handle => handle.boardId == boardId).map
      DevHandle.devHandle

def releaseDevHandle (state : LibState) (boardId : BitVec 32) : LibState :=
  { state with
    devHandleList := state.devHandleList.release fun handle => handle.boardId == boardId
    descriptors :=
      state.descriptors.filter fun fd => !(releasedDescriptors state boardId).contains fd }

def vi53xxDeviceClose (state : LibState) (boardId : BitVec 32) : LibState :=
  let cnt := getAvailableBoardCount state
  let devOnline := getOnlineBoardCount state
  let state := releaseParvarMat state
  if cnt = 0 ∨ devOnline = 0 then releaseIdx (releaseBoardInfo state) boardId
  else
    let devOnline := devOnline - 1
    let state := if devOnline = 0 then releaseBoardInfo state else state
    let state := { state with onlineBoardCount := devOnline }
    releaseIdx (releaseDevHandle state boardId) boardId

def freeBoardInfo (state : LibState) (boardId : BitVec 32) : LibState :=
  let idx := getIdxOrZero state boardId
  -- The handles of all boards are forgotten, and no descriptor is closed.
  let state := freeMem state
  releaseParvarMat { state with
    idBitmap := destroyId idx state.idBitmap
    devHandleList := Slots.empty
    devBoardidToIdxList := Slots.empty
    initCheckOk := false }

end Vi53xx.Lib
