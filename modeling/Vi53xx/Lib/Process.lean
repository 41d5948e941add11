import Vi53xx.Lib.Calls
import Vi53xx.Lib.Es5341Properties

/-! A process that calls the library in any way that writes its static variables:
the calls of `Calls`, the starts of the two modules and the requests for an
index. -/

set_option autoImplicit false

namespace Vi53xx.Lib

open Foundation

inductive LibCall where
  | call (call : Call)
  | cfgInit (cfg : CfgModule) (env : InitEnv) (boardId : BitVec 32)
  | getIdx (mallocOk : Bool) (boardId : BitVec 32)

def libStep (state : LibState) : LibCall → Option LibState
  | .call call => callStep state call
  | .cfgInit cfg env boardId => (cfg.init env state boardId).toOption.map InitResult.state
  | .getIdx mallocOk boardId => some (getIdx mallocOk state boardId).2

variable {state next : LibState} {boardId : BitVec 32}

/-- The start of a module is a check, followed by `free_board_info` when the check
refuses and by an open when it does not. -/
inductive Started (env : InitEnv) (state : LibState) (boardId : BitVec 32) : LibState → Prop where
  | refused {ret : Int} {checked : LibState}
      (check : checkBoardsInfo env.check state = .ok (ret, checked)) (nonzero : ret ≠ 0) :
      Started env state boardId (freeBoardInfo checked boardId)
  | accepted {checked after : LibState}
      (check : checkBoardsInfo env.check state = .ok (0, checked))
      (opened : callStep checked (.deviceOpen env.device boardId) = some after) :
      Started env state boardId after

theorem cfgInit_started {notFound : BitVec 32 → List Char} {env : InitEnv} {result : InitResult}
    (started : cfgInit notFound env state boardId = .ok result) :
    Started env state boardId result.state := by
  unfold cfgInit at started
  cases check : checkBoardsInfo env.check state with
  | error fault => simp [check] at started
  | ok outcome =>
      obtain ⟨ret, checked⟩ := outcome
      simp only [check] at started
      split at started
      · next nonzero =>
          cases started
          exact .refused check nonzero
      · next zero =>
          have zero : ret = 0 := not_not.mp zero
          subst zero
          cases opened : vi53xxDeviceOpen env.device checked boardId with
          | error fault => simp [opened] at started
          | ok outcome =>
              obtain ⟨answer, after⟩ := outcome
              have stepped : callStep checked (.deviceOpen env.device boardId) = some after := by
                simp [callStep, opened, Except.toOption]
              simp only [opened] at started
              split at started <;>
              · cases started
                exact .accepted check stepped

theorem libStep_cfgInit {cfg : CfgModule} {env : InitEnv}
    (stepped : libStep state (.cfgInit cfg env boardId) = some next) :
    Started env state boardId next := by
  simp only [libStep, Option.map_eq_some_iff] at stepped
  obtain ⟨result, started, rfl⟩ := stepped
  have ran := ok_of_toOption started
  cases cfg with
  | input =>
      simp only [CfgModule.init, es5341DiCfgInit] at ran
      exact cfgInit_started ran
  | output =>
      simp only [CfgModule.init, es5341DoCfgInit] at ran
      exact cfgInit_started ran

theorem cfgInit_completes {cfg : CfgModule} {env : InitEnv} {ret : Int} {checked : LibState}
    (check : checkBoardsInfo env.check state = .ok (ret, checked)) (nonzero : ret ≠ 0) :
    ∃ after, libStep state (.cfgInit cfg env boardId) = some after := by
  cases cfg with
  | input | output =>
      simp [libStep, CfgModule.init, es5341DiCfgInit, es5341DoCfgInit, cfgInit, check, nonzero,
        Except.toOption]

theorem callStep_checked {env : CheckEnv}
    (stepped : callStep state (.checkBoards env) = some next) :
    ∃ ret, checkBoardsInfo env state = .ok (ret, next) := by
  obtain ⟨⟨ret, after⟩, checked, rfl⟩ := Option.map_eq_some_iff.mp stepped
  exact ⟨ret, ok_of_toOption checked⟩

end Vi53xx.Lib
