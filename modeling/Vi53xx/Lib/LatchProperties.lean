import Vi53xx.Lib.Process

/-! The flag that a check sets before it knows of its success. Until the flag is
cleared every later check passes, whatever the first one has answered. -/

set_option autoImplicit false

namespace Vi53xx.Lib

open Foundation

variable {state next : LibState} {ret : Int}

/-- The calls that clear the flag by their own name. -/
def Clears : LibCall → Prop
  | .call (.deviceClose _) => True
  | .call (.freeBoards _) => True
  | _ => False

theorem checkBoardsInfo_flagged {env : CheckEnv} (flagged : state.initCheckOk = true) :
    checkBoardsInfo env state = .ok (0, state) := by
  simp [checkBoardsInfo, flagged]

theorem Checked.flagged (checked : Checked state ret next) : next.initCheckOk = true := by
  cases checked with
  | alreadyOk flagged => exact flagged
  | outOfMemory | noBoards | boards => rfl

theorem Opened.initCheckOk {env : OpenEnv} {boardId : BitVec 32} {fd : Int} {devName : List Char}
    {answer : OpenReturn} (opened : Opened env state boardId fd devName answer next) :
    next.initCheckOk = state.initCheckOk := by
  cases opened with
  | noBoards =>
      unfold received
      split <;> rfl
  | openFailed | alreadyOpen | outOfMemory | stored | fallThrough => rfl

theorem getIdx_initCheckOk {mallocOk : Bool} {boardId : BitVec 32} :
    (getIdx mallocOk state boardId).2.initCheckOk = state.initCheckOk := by
  unfold getIdx
  split
  · rfl
  · split
    · dsimp only
      split <;> rfl
    · rfl

theorem flagged_step {call : LibCall} (flagged : state.initCheckOk = true) (kept : ¬ Clears call)
    (stepped : libStep state call = some next) : next.initCheckOk = true := by
  cases call with
  | getIdx mallocOk boardId =>
      cases stepped
      rw [getIdx_initCheckOk, flagged]
  | cfgInit cfg env boardId =>
      cases libStep_cfgInit stepped with
      | refused check nonzero =>
          -- A start never gets to its `free_board_info` while the flag is set.
          rw [checkBoardsInfo_flagged flagged] at check
          cases check
          exact absurd rfl nonzero
      | accepted check opened =>
          obtain ⟨_, _, _, _, outcome⟩ := callStep_open opened
          rw [outcome.initCheckOk]
          exact (checkBoardsInfo_checked check).flagged
  | call call =>
      cases call with
      | checkBoards env =>
          obtain ⟨_, checked⟩ := callStep_check stepped
          exact checked.flagged
      | deviceOpen env boardId =>
          obtain ⟨_, _, _, _, outcome⟩ := callStep_open stepped
          rw [outcome.initCheckOk, flagged]
      | deviceClose | freeBoards => exact absurd trivial kept

theorem flagged_run {calls : List LibCall} (flagged : state.initCheckOk = true)
    (kept : ∀ call ∈ calls, ¬ Clears call) (ran : runFrom libStep state calls = some next) :
    next.initCheckOk = true := by
  induction calls generalizing state with
  | nil =>
      cases ran
      exact flagged
  | cons call rest ih =>
      obtain ⟨middle, stepped, ran⟩ := Option.bind_eq_some_iff.mp ran
      have here := flagged_step flagged (kept call List.mem_cons_self) stepped
      exact ih here (fun other member => kept other (List.mem_cons_of_mem call member)) ran

/-- When the first check refuses, so does a check after the calls in between. -/
def StaysRejected (env again : CheckEnv) (before : LibState) (between : List LibCall) : Prop :=
  ∀ ret state later, checkBoardsInfo env before = .ok (ret, state) → ret ≠ 0 →
    runFrom libStep state between = some later →
      ∃ answer after, checkBoardsInfo again later = .ok (answer, after) ∧ answer ≠ 0

/-- No refusal lasts: as long as nothing has been closed or freed since, the next
check passes, with the same file or another. -/
theorem rejection_forgotten {between : List LibCall} {env again : CheckEnv} {before later : LibState}
    (rejected : checkBoardsInfo env before = .ok (ret, state)) (nonzero : ret ≠ 0)
    (kept : ∀ call ∈ between, ¬ Clears call) (ran : runFrom libStep state between = some later) :
    ¬ StaysRejected env again before between := by
  intro stays
  obtain ⟨answer, after, checked, refused⟩ := stays ret state later rejected nonzero ran
  have flagged := flagged_run (checkBoardsInfo_checked rejected).flagged kept ran
  rw [checkBoardsInfo_flagged flagged] at checked
  cases checked
  exact refused rfl

/-- Procfs with a mapping file that names the board 7 twice. -/
def sharedBoard : CheckEnv := { oneBoard with
  procfs := fun path =>
    if path = mapingPath then
      some "es5341     0:7:0xb100\nes5341     1:7:0xb100\n".toList
    else none }

theorem sharedBoard_refused :
    ∃ state, checkBoardsInfo sharedBoard LibState.loaded = .ok (2, state) := by
  have seen : (checkBoardsInfo sharedBoard LibState.loaded).toOption.map Prod.fst = some 2 := by
    decide +kernel
  cases checked : checkBoardsInfo sharedBoard LibState.loaded with
  | error fault => simp [checked, Except.toOption] at seen
  | ok outcome =>
      obtain ⟨ret, state⟩ := outcome
      simp only [checked, Except.toOption, Option.map_some, Option.some.injEq] at seen
      subst seen
      exact ⟨state, rfl⟩

/-- The second check of a process passes the file that the first one has refused. -/
theorem second_check_passes : ¬ StaysRejected sharedBoard sharedBoard LibState.loaded [] := by
  intro stays
  obtain ⟨state, checked⟩ := sharedBoard_refused
  obtain ⟨answer, after, again, refused⟩ := stays 2 state state checked (by decide) rfl
  have flagged := (checkBoardsInfo_checked checked).flagged
  simp only [checkBoardsInfo, flagged, if_true, Except.ok.injEq, Prod.mk.injEq] at again
  exact refused again.1.symm

theorem rejection_forgotten_getIdx :
    ∃ state, checkBoardsInfo sharedBoard LibState.loaded = .ok (2, state) ∧
      ¬ StaysRejected sharedBoard sharedBoard LibState.loaded [.getIdx true 7] := by
  obtain ⟨state, checked⟩ := sharedBoard_refused
  refine ⟨state, checked, rejection_forgotten checked (by decide) ?_ rfl⟩
  intro call member
  rw [List.mem_singleton.mp member]
  exact id

end Vi53xx.Lib
