import Vi53xx.Foundation.Ledger
import Vi53xx.Lib.Process

/-! The memory behind the pointers of the library: what it has from `malloc`, where it
keeps the addresses, and what it hands to `free`. Addresses are numbered by allocation. -/

set_option autoImplicit false

namespace Vi53xx.Lib

open Foundation

/-- The pointers of the library, by the static variable that holds them. -/
structure Heap where
  boardInfo : Option Nat
  boardErrorInfo : Option Nat
  devHandleList : Slots maxDevHandle Nat
  devBoardidToIdxList : Slots maxDevHandle Nat
  mallocs : Nat
  ledger : Ledger Nat

namespace Heap

def loaded : Heap where
  boardInfo := none
  boardErrorInfo := none
  devHandleList := Slots.empty
  devBoardidToIdxList := Slots.empty
  mallocs := 0
  ledger := .empty

def malloc (heap : Heap) : Nat × Heap :=
  (heap.mallocs, { heap with
    mallocs := heap.mallocs + 1
    ledger := heap.ledger.take [heap.mallocs] })

def free (addresses : List Nat) (heap : Heap) : Heap :=
  { heap with ledger := heap.ledger.giveBack addresses }

/-! ## The board tables -/

def freeMem (heap : Heap) : Heap :=
  { heap.free (heap.boardInfo.toList ++ heap.boardErrorInfo.toList) with
    boardInfo := none
    boardErrorInfo := none }

/-- The lists are set to NULL, whatever they point to. -/
def initConfig (heap : Heap) : Heap :=
  { heap with
    devHandleList := Slots.empty
    devBoardidToIdxList := Slots.empty }

def requstMem (env : CheckEnv) (heap : Heap) : Heap :=
  if env.mallocInfo then
    let (info, heap) := heap.malloc
    let heap := { heap with boardInfo := some info }
    if env.mallocErrorInfo then
      let (errorInfo, heap) := heap.malloc
      { heap with boardErrorInfo := some errorInfo }
    else { heap with boardErrorInfo := none }
  else { heap with boardInfo := none }

def checkBoardsInfo (env : CheckEnv) (state : LibState) (heap : Heap) : Heap :=
  if state.initCheckOk then heap else requstMem env heap.initConfig

def freeBoardInfo (heap : Heap) : Heap := heap.freeMem.initConfig

/-! ## The lists of boards -/

def getIdx (mallocOk : Bool) (state : LibState) (boardId : BitVec 32) (heap : Heap) : Heap :=
  match findIdx state boardId with
  | some _ => heap
  | none =>
      if mallocOk then
        let (db, heap) := heap.malloc
        match state.devBoardidToIdxList.freeSlot maxDevHandle with
        | some slot => { heap with
            devBoardidToIdxList := heap.devBoardidToIdxList.store slot db }
        | none => heap
      else heap

/-- The slots of a list that a release empties. -/
def released {Entry : Type} (list : Slots maxDevHandle Entry) (wanted : Entry → Bool)
    (slot : Fin maxDevHandle) : Bool :=
  (list slot).any wanted

def releaseIdx (state : LibState) (boardId : BitVec 32) (heap : Heap) : Heap :=
  let gone := released state.devBoardidToIdxList fun entry => entry.boardId == boardId
  { heap.free (heap.devBoardidToIdxList.select gone).entries with
    devBoardidToIdxList := heap.devBoardidToIdxList.select fun slot => !gone slot }

def releaseDevHandle (state : LibState) (boardId : BitVec 32) (heap : Heap) : Heap :=
  let gone := released state.devHandleList fun handle => handle.boardId == boardId
  { heap.free (heap.devHandleList.select gone).entries with
    devHandleList := heap.devHandleList.select fun slot => !gone slot }

/-- `vi53xx_device_open` after `get_board_handle` has returned. -/
def openWith (env : OpenEnv) (state : LibState) (boardId : BitVec 32) (cnt devHandle : Int)
    (heap : Heap) : Heap :=
  if cnt = 0 then heap
  else if devHandle < 0 then heap
  else
    match state.devHandleList.lookup cnt.toNat fun handle => handle.boardId == boardId with
    | some _ => heap
    | none =>
        if env.mallocOk then
          let (dh, heap) := heap.malloc
          match state.devHandleList.freeSlot cnt.toNat with
          | some slot => { heap with devHandleList := heap.devHandleList.store slot dh }
          | none => heap
        else heap

def vi53xxDeviceOpen (env : OpenEnv) (state : LibState) (boardId : BitVec 32) (heap : Heap) : Heap :=
  match searchedBoards state with
  | .error _ => heap
  | .ok boards =>
      heap.openWith env state boardId (getAvailableBoardCount state)
        (env.openFile (devicePath boards boardId))

def vi53xxDeviceClose (state : LibState) (boardId : BitVec 32) (heap : Heap) : Heap :=
  let cnt := getAvailableBoardCount state
  let devOnline := getOnlineBoardCount state
  if cnt = 0 ∨ devOnline = 0 then heap.freeMem.releaseIdx state boardId
  else
    let heap := if devOnline - 1 = 0 then heap.freeMem else heap
    (heap.releaseDevHandle state boardId).releaseIdx state boardId

/-! ## Calls -/

def call (state : LibState) (heap : Heap) : Call → Heap
  | .checkBoards env => heap.checkBoardsInfo env state
  | .deviceOpen env boardId => heap.vi53xxDeviceOpen env state boardId
  | .deviceClose boardId => heap.vi53xxDeviceClose state boardId
  | .freeBoards _ => heap.freeBoardInfo

/-- The start of a module: a check, and then `free_board_info` or an open. -/
def cfgInit (env : InitEnv) (state : LibState) (boardId : BitVec 32) (heap : Heap) : Heap :=
  let heap := heap.checkBoardsInfo env.check state
  match Lib.checkBoardsInfo env.check state with
  | .error _ => heap
  | .ok (ret, checked) =>
      if ret ≠ 0 then heap.freeBoardInfo else heap.vi53xxDeviceOpen env.device checked boardId

def libCall (state : LibState) (heap : Heap) : LibCall → Heap
  | .call call => heap.call state call
  | .cfgInit _ env boardId => heap.cfgInit env state boardId
  | .getIdx mallocOk boardId => heap.getIdx mallocOk state boardId

end Heap

/-- A process with its memory. -/
structure Allocating where
  state : LibState
  heap : Heap

def allocatingStep (process : Allocating) (call : LibCall) : Option Allocating :=
  (libStep process.state call).map fun state => ⟨state, process.heap.libCall process.state call⟩

end Vi53xx.Lib
