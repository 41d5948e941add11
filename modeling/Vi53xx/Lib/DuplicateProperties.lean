import Vi53xx.Lib.CheckProperties

/-! The verdict of `_check_boards_info` on the table that `check_boards_info` leaves.
Its inner loop runs one entry past the last board, to an entry that is still zero. -/

set_option autoImplicit false

namespace Vi53xx.Lib

variable {records : List DeviceInfo} {past : DeviceInfo}

/-- `_check_boards_info`, with what the memory after the table reads as. -/
def checkTable (past : DeviceInfo) (info : List DeviceInfo) (count : Nat) : Except Fault Int :=
  let errors := conflicts (fun i => info.getD i past) count
  if boardNum < errors.length then .error .outOfBounds else .ok errors.length

/-- The check that `check_boards_info` ends in. -/
theorem checkBoardsInfo_checkTable {env : CheckEnv} {state : LibState}
    (clear : state.initCheckOk = false) (loads : Loads env records) (found : records ≠ []) :
    (checkBoardsInfo env state).map Prod.fst =
      checkTable env.pastEnd (fillTable records) records.length := by
  rw [checkBoardsInfo_boards clear loads found, checkTable]
  dsimp only
  split
  · rfl
  · rfl

theorem fillTable_unused (room : records.length < boardNum) :
    (fillTable records).getD records.length past = DeviceInfo.cleared := by
  have unused : 0 < boardNum - records.length := by omega
  simp [fillTable, List.getD, unused]

/-- With several boards the loops compare the ids and the zero after them. -/
theorem conflicts_fillTable (room : records.length < boardNum) (several : records.length ≠ 1) :
    (conflicts (fun i => (fillTable records).getD i past) records.length).length =
      2 * repeats (records.map DeviceInfo.boardId ++ [0]) := by
  have zero : DeviceInfo.cleared.boardId = 0 := rfl
  rw [conflicts_length several, compared_map, fillTable_unused room, zero]

theorem repeats_zero_iff {ids : List (BitVec 32)} :
    repeats (ids ++ [0]) = 0 ↔ ids.Nodup ∧ 0 ∉ ids := by
  rw [repeats_eq_zero_iff, List.nodup_append_comm, List.singleton_append, List.nodup_cons]
  exact and_comm

theorem checkTable_eq_zero_iff {info : List DeviceInfo} {count : Nat} :
    checkTable past info count = .ok 0 ↔
      (conflicts (fun i => info.getD i past) count).length = 0 := by
  unfold checkTable
  by_cases overflow : boardNum < (conflicts (fun i => info.getD i past) count).length
  · simp only [overflow, if_true, reduceCtorEq, false_iff]
    omega
  · simp only [overflow, if_false, Except.ok.injEq]
    exact Int.natCast_eq_zero

/-- What the check accepts. -/
theorem checkTable_accepts_iff (room : records.length < boardNum) :
    checkTable past (fillTable records) records.length = .ok 0 ↔
      records.length = 1 ∨ DistinctBoards records ∧ 0 ∉ records.map DeviceInfo.boardId := by
  rw [checkTable_eq_zero_iff]
  by_cases one : records.length = 1
  · simp [conflicts, one]
  · rw [conflicts_fillTable room one, Nat.mul_eq_zero, repeats_zero_iff]
    simp [one, DistinctBoards]

theorem distinct_of_one (one : records.length = 1) : DistinctBoards records := by
  obtain ⟨record, rfl⟩ := List.length_eq_one_iff.mp one
  simp [DistinctBoards]

/-- The check finds the boards distinct exactly when they are, except where one of
several distinct boards has the id 0, which the unused entries have as well. -/
theorem distinct_verdict_iff (room : records.length < boardNum) :
    (checkTable past (fillTable records) records.length = .ok 0 ↔ DistinctBoards records) ↔
      records.length = 1 ∨ 0 ∉ records.map DeviceInfo.boardId ∨ ¬ DistinctBoards records := by
  rw [checkTable_accepts_iff room]
  by_cases one : records.length = 1
  · simp [one, distinct_of_one one]
  · by_cases distinct : DistinctBoards records
    · simp [one, distinct]
    · simp [one, distinct]

def boardsZeroOne : List DeviceInfo :=
  [{ DeviceInfo.cleared with boardId := 0 }, { DeviceInfo.cleared with boardId := 1 }]

/-- Boards 0 and 1 are reported as a conflict. -/
theorem board_zero_conflicts :
    ¬ (checkTable .cleared (fillTable boardsZeroOne) boardsZeroOne.length = .ok 0 ↔
      DistinctBoards boardsZeroOne) := by
  have distinct : DistinctBoards boardsZeroOne := by
    unfold DistinctBoards
    decide
  have answer : checkTable .cleared (fillTable boardsZeroOne) boardsZeroOne.length = .ok 2 := rfl
  intro verdict
  have accepted := verdict.mpr distinct
  rw [answer] at accepted
  cases accepted

theorem distinct_verdict_iff_zeroOne :
    (checkTable .cleared (fillTable boardsZeroOne) boardsZeroOne.length = .ok 0 ↔
        DistinctBoards boardsZeroOne) ↔
      boardsZeroOne.length = 1 ∨ 0 ∉ boardsZeroOne.map DeviceInfo.boardId ∨
        ¬ DistinctBoards boardsZeroOne :=
  distinct_verdict_iff (by decide)

end Vi53xx.Lib
