import Vi53xx.Lib.Handles

/-! Starting and ending the digital-input and digital-output modules. Their
bodies agree but for the text logged when the device cannot be opened. -/

set_option autoImplicit false

namespace Vi53xx.Lib

open Foundation Foundation.CText

structure InitEnv where
  check : CheckEnv
  device : OpenEnv

/-- What `..._cfg_init` returns, the texts it logs and the process after it. -/
structure InitResult where
  ret : Int
  log : List (List Char)
  state : LibState

def errorBoardLog (index : Nat) (info : DeviceInfo) : List Char :=
  "info[".toList ++ decimal index ++ "].board_inst = ".toList ++ decimal info.boardInst.toInt ++
    ", info[".toList ++ decimal index ++ "].board_id = ".toList ++ decimal info.boardId.toInt ++
    ['\n']

def cfgInit (notFound : BitVec 32 → List Char) (env : InitEnv) (state : LibState)
    (boardId : BitVec 32) : Except Fault InitResult :=
  match checkBoardsInfo env.check state with
  | .error fault => .error fault
  | .ok (ret, state) =>
      if ret ≠ 0 then
        let log :=
          if 0 < ret then
            ((state.boardErrorInfo.getD []).take ret.toNat).mapIdx errorBoardLog
          else []
        .ok ⟨-1, log, freeBoardInfo state boardId⟩
      else
        match vi53xxDeviceOpen env.device state boardId with
        | .error fault => .error fault
        | .ok (answer, state) =>
            if answer.value < 0 then .ok ⟨-1, [notFound boardId], state⟩
            else .ok ⟨0, [], state⟩

def es5341DiCfgInit : InitEnv → LibState → BitVec 32 → Except Fault InitResult :=
  cfgInit fun boardId =>
    "16f2 board_id = ".toList ++ decimal boardId.toInt ++ " device not found\n".toList

def es5341DoCfgInit : InitEnv → LibState → BitVec 32 → Except Fault InitResult :=
  cfgInit fun boardId =>
    "board_id = ".toList ++ decimal boardId.toInt ++ " device not found\n".toList

def es5341DiCfgExit (state : LibState) (boardId : BitVec 32) : LibState :=
  vi53xxDeviceClose state boardId

def es5341DoCfgExit (state : LibState) (boardId : BitVec 32) : LibState :=
  vi53xxDeviceClose state boardId

end Vi53xx.Lib
