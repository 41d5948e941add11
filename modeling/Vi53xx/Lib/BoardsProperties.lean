import Vi53xx.Lib.Boards

/-! The outcomes of loading the board table and what searches of it find. -/

set_option autoImplicit false

namespace Vi53xx.Lib

open Foundation Foundation.CText

variable {env : CheckEnv} {state next : LibState} {ret : Int} {boards records : List DeviceInfo}

/-! ## Loading the table -/

@[simp] theorem fillTable_length (fits : records.length ≤ boardNum) :
    (fillTable records).length = boardNum := by
  simp only [fillTable, List.length_append, List.length_replicate]
  omega

theorem extractValue_length {line : List Char} {file : Option (List Char)} {count : Int}
    (extracted : extractValue line file = .ok (count, records)) :
    count = records.length ∨ (count = -1 ∧ records = []) := by
  cases file with
  | none =>
      cases extracted
      exact .inr ⟨rfl, rfl⟩
  | some content =>
      simp only [extractValue] at extracted
      cases read : extractLines line (fgetsAll 256 content) [] with
      | error fault => simp [read] at extracted
      | ok info =>
          simp only [read, Except.ok.injEq, Prod.mk.injEq] at extracted
          obtain ⟨rfl, rfl⟩ := extracted
          exact .inl rfl

/-- The table has room for the records, and each has room for its name. -/
structure TableHolds (records : List DeviceInfo) : Prop where
  few : records.length ≤ boardNum
  named : ∀ board ∈ records, board.boardName.length < boardNameSize

theorem extractLine_named {line left : List Char} {record : DeviceInfo}
    (read : extractLine line = .ok (left, some record)) :
    record.boardName.length < boardNameSize := by
  unfold extractLine at read
  dsimp only at read
  repeat' split at read
  all_goals cases read
  next fits => exact fits

theorem extractLines_holds {line : List Char} {texts : List (List Char)}
    {stored all : List DeviceInfo} (holds : TableHolds stored)
    (read : extractLines line texts stored = .ok all) : TableHolds all := by
  induction texts generalizing line stored with
  | nil =>
      cases read
      exact holds
  | cons text rest ih =>
      simp only [extractLines] at read
      split at read
      · cases read
      · exact ih holds read
      · next left record one =>
          split at read
          · next room =>
              refine ih ⟨?_, ?_⟩ read
              · rw [List.length_append, List.length_singleton]
                omega
              · intro board member
                rcases List.mem_append.mp member with before | last
                · exact holds.named board before
                · rw [List.mem_singleton.mp last]
                  exact extractLine_named one
          · cases read

theorem extractValue_holds {line : List Char} {file : Option (List Char)} {count : Int}
    (extracted : extractValue line file = .ok (count, records)) : TableHolds records := by
  have empty : TableHolds [] := ⟨Nat.zero_le _, by simp⟩
  cases file with
  | none =>
      cases extracted
      exact empty
  | some content =>
      simp only [extractValue] at extracted
      cases read : extractLines line (fgetsAll 256 content) [] with
      | error fault => simp [read] at extracted
      | ok info =>
          simp only [read, Except.ok.injEq, Prod.mk.injEq] at extracted
          obtain ⟨_, rfl⟩ := extracted
          exact extractLines_holds empty read

/-- The library after a check that has found its flag clear: the flag is set, the
handle and index tables are empty, and only the board table differs by outcome. -/
def loaded (state : LibState) (available : Int) (info errorInfo : Option (List DeviceInfo)) :
    LibState :=
  { initConfig state with
    initCheckOk := true
    availableBoardCount := available
    boardInfo := info
    boardErrorInfo := errorInfo }

/-- The outcomes of `check_boards_info`. -/
inductive Checked (state : LibState) : Int → LibState → Prop where
  | alreadyOk (flagged : state.initCheckOk = true) : Checked state 0 state
  | outOfMemory {info errorInfo : Option (List DeviceInfo)} (clear : state.initCheckOk = false)
      (unfilled : ∀ table, info = some table → table = fillTable []) :
      Checked state (-1) (loaded state state.availableBoardCount info errorInfo)
  | noBoards {records errorInfo : List DeviceInfo} (clear : state.initCheckOk = false)
      (fits : records.length ≤ boardNum) :
      Checked state 0
        (loaded state state.availableBoardCount (some (fillTable records)) (some errorInfo))
  | boards {records errors : List DeviceInfo} (clear : state.initCheckOk = false)
      (found : records ≠ []) (fits : records.length ≤ boardNum) :
      Checked state errors.length
        (loaded state records.length (some (fillTable records)) (some (fillTable errors)))

theorem checkBoardsInfo_checked (checked : checkBoardsInfo env state = .ok (ret, next)) :
    Checked state ret next := by
  unfold checkBoardsInfo at checked
  cases flag : state.initCheckOk with
  | true =>
      simp only [flag, if_true, Except.ok.injEq, Prod.mk.injEq] at checked
      obtain ⟨rfl, rfl⟩ := checked
      exact .alreadyOk flag
  | false =>
      cases info : env.mallocInfo with
      | false =>
          simp [flag, requstMem, info] at checked
          obtain ⟨rfl, rfl⟩ := checked
          exact .outOfMemory flag (by simp)
      | true =>
          cases errorInfo : env.mallocErrorInfo with
          | false =>
              simp [flag, requstMem, info, errorInfo] at checked
              obtain ⟨rfl, rfl⟩ := checked
              exact .outOfMemory flag (by simp)
          | true =>
              simp only [flag, requstMem, info, errorInfo, if_true, Bool.false_eq_true, if_false,
                Int.lt_irrefl] at checked
              cases extracted : extractValue env.line (env.procfs mapingPath) with
              | error fault => simp [extracted] at checked
              | ok result =>
                  obtain ⟨count, records⟩ := result
                  have bounded := (extractValue_holds extracted).few
                  simp only [extracted] at checked
                  split at checked
                  · simp only [Except.ok.injEq, Prod.mk.injEq] at checked
                    obtain ⟨rfl, rfl⟩ := checked
                    exact .noBoards flag bounded
                  · next positive =>
                      split at checked
                      · cases checked
                      · simp only [Except.ok.injEq, Prod.mk.injEq] at checked
                        obtain ⟨rfl, rfl⟩ := checked
                        rcases extractValue_length extracted with counted | ⟨missing, _⟩
                        · subst counted
                          refine .boards flag ?_ bounded
                          intro none_found
                          simp [none_found] at positive
                        · omega

theorem Checked.reset (checked : Checked state ret next) (clear : state.initCheckOk = false) :
    next.devHandleList = Slots.empty ∧ next.onlineBoardCount = state.onlineBoardCount := by
  cases checked with
  | alreadyOk flagged => simp [clear] at flagged
  | outOfMemory | noBoards | boards => exact ⟨rfl, rfl⟩

theorem Checked.sized (checked : Checked state ret next)
    (before : ∀ info, state.boardInfo = some info → info.length = boardNum) :
    ∀ info, next.boardInfo = some info → info.length = boardNum := by
  intro info held
  cases checked with
  | alreadyOk => exact before info held
  | outOfMemory clear unfilled =>
      rw [unfilled info held]
      exact fillTable_length (Nat.zero_le _)
  | noBoards clear fits =>
      cases held
      exact fillTable_length fits
  | boards clear found fits =>
      cases held
      exact fillTable_length fits

/-! ## Searching the table -/

theorem searchedBoards_ok (searched : searchedBoards state = .ok boards)
    (some_board : boards ≠ []) :
    ∃ info, state.boardInfo = some info ∧ state.availableBoardCount = boards.length ∧
      boards = info.take boards.length := by
  unfold searchedBoards at searched
  split at searched
  · cases searched
    exact absurd rfl some_board
  · next positive =>
      cases held : state.boardInfo with
      | none => simp [held] at searched
      | some info =>
          simp only [held] at searched
          split at searched
          · next inside =>
              cases searched
              refine ⟨info, rfl, ?_, ?_⟩
              · simp only [List.length_take]
                omega
              · simp only [List.length_take]
                congr 1
                omega
          · cases searched

end Vi53xx.Lib
