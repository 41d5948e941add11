import Vi53xx.Lib.Process

/-! What `check_boards_info` answers, against the comment above it: negative without
memory or boards, 0 on success, positive when boards share an id. A failed load
leaves the answer of the allocation, which is 0. -/

set_option autoImplicit false

namespace Vi53xx.Lib

open Foundation Foundation.CText

variable {env : CheckEnv} {state next : LibState} {records : List DeviceInfo} {ret : Int}

/-! ## Conflicts -/

local instance lawfulIds : LawfulBEq (BitVec 32) := inferInstance

/-- How many members of the list occur again after their place. -/
def repeats : List (BitVec 32) → Nat
  | [] => 0
  | id :: rest => (if id ∈ rest then 1 else 0) + repeats rest

theorem repeats_eq_zero_iff {ids : List (BitVec 32)} : repeats ids = 0 ↔ ids.Nodup := by
  induction ids with
  | nil => simp [repeats]
  | cons id rest ih =>
      by_cases again : id ∈ rest
      · simp [repeats, again]
      · simp [repeats, again, ih]

theorem conflictOf_isSome {info : Nat → DeviceInfo} {count i : Nat} :
    (conflictOf info count i).isSome = true ↔
      ∃ j, i < j ∧ j ≤ count ∧ (info i).boardId = (info j).boardId := by
  simp only [conflictOf, List.find?_isSome, List.mem_range'_1, beq_iff_eq]
  constructor
  · rintro ⟨j, ⟨above, below⟩, same⟩
    exact ⟨j, by omega, by omega, same⟩
  · rintro ⟨j, above, below, same⟩
    exact ⟨j, ⟨by omega, by omega⟩, same⟩

theorem countP_conflictOf {info : Nat → DeviceInfo} {count : Nat} :
    (List.range count).countP (fun i => (conflictOf info count i).isSome) =
      repeats ((List.range (count + 1)).map fun i => (info i).boardId) := by
  induction count generalizing info with
  | zero => simp [repeats]
  | succ count ih =>
      have shifted : ∀ i, (conflictOf info (count + 1) (i + 1)).isSome =
          (conflictOf (fun j => info (j + 1)) count i).isSome := by
        intro i
        rw [Bool.eq_iff_iff, conflictOf_isSome, conflictOf_isSome]
        constructor
        · rintro ⟨j, above, below, same⟩
          obtain ⟨j, rfl⟩ := Nat.exists_eq_add_of_le' (Nat.lt_of_le_of_lt (Nat.zero_le _) above)
          exact ⟨j, by omega, by omega, same⟩
        · rintro ⟨j, above, below, same⟩
          exact ⟨j + 1, by omega, by omega, same⟩
      have first : (conflictOf info (count + 1) 0).isSome = true ↔
          (info 0).boardId ∈ (List.range (count + 1)).map fun i => (info (i + 1)).boardId := by
        rw [conflictOf_isSome, List.mem_map]
        constructor
        · rintro ⟨j, above, below, same⟩
          obtain ⟨j, rfl⟩ := Nat.exists_eq_add_of_le' above
          exact ⟨j, List.mem_range.mpr (by omega), same.symm⟩
        · rintro ⟨j, below, same⟩
          have bounded := List.mem_range.mp below
          exact ⟨j + 1, by omega, by omega, same.symm⟩
      have counted : (List.range (count + 1)).countP
          (fun i => (conflictOf info (count + 1) i).isSome) =
          repeats ((List.range (count + 1)).map fun i => (info (i + 1)).boardId) +
            if (conflictOf info (count + 1) 0).isSome = true then 1 else 0 := by
        rw [← ih, List.range_succ_eq_map, List.countP_cons, List.countP_map]
        simp only [Function.comp_def, Nat.succ_eq_add_one, shifted]
      have ids : (List.range (count + 1 + 1)).map (fun i => (info i).boardId) =
          (info 0).boardId :: (List.range (count + 1)).map fun i => (info (i + 1)).boardId := by
        rw [List.range_succ_eq_map, List.map_cons, List.map_map]
        rfl
      rw [counted, ids, repeats, Nat.add_comm]
      simp only [first]

theorem conflicts_length {info : Nat → DeviceInfo} {count : Nat} (several : count ≠ 1) :
    (conflicts info count).length =
      2 * repeats ((List.range (count + 1)).map fun i => (info i).boardId) := by
  rw [← countP_conflictOf, conflicts, if_neg several]
  have doubled : ∀ entries : Nat → List DeviceInfo,
      (∀ i, (entries i).length = if (conflictOf info count i).isSome then 2 else 0) →
      ∀ places : List Nat, (places.flatMap entries).length =
        2 * places.countP fun i => (conflictOf info count i).isSome := by
    intro entries two places
    induction places with
    | nil => rfl
    | cons i rest ih =>
        rw [List.flatMap_cons, List.length_append, ih, List.countP_cons, two]
        split
        · omega
        · omega
  refine doubled _ ?_ _
  intro i
  cases conflictOf info count i with
  | none | some j => rfl

/-! ## One call -/

def CheckEnv.memory (env : CheckEnv) : Bool := env.mallocInfo && env.mallocErrorInfo

/-- The call gets its memory, and these are the records it stores. -/
def Loads (env : CheckEnv) (records : List DeviceInfo) : Prop :=
  env.memory = true ∧ ∃ count, extractValue env.line (env.procfs mapingPath) = .ok (count, records)

def DistinctBoards (records : List DeviceInfo) : Prop :=
  (records.map DeviceInfo.boardId).Nodup

/-- The cell after the last record, which the inner loop of `_check_boards_info`
compares with the records. -/
def cellAfter (env : CheckEnv) (records : List DeviceInfo) : DeviceInfo :=
  (fillTable records).getD records.length env.pastEnd

def comparedIds (env : CheckEnv) (records : List DeviceInfo) : List (BitVec 32) :=
  records.map DeviceInfo.boardId ++ [(cellAfter env records).boardId]

theorem compared_map {past : DeviceInfo} :
    (List.range (records.length + 1)).map (fun i => ((fillTable records).getD i past).boardId) =
      records.map DeviceInfo.boardId ++ [((fillTable records).getD records.length past).boardId] := by
  rw [List.range_succ, List.map_append, List.map_singleton]
  congr 1
  refine List.ext_getElem (by simp) ?_
  intro i low _
  have inside : i < records.length := by simpa using low
  simp [fillTable, List.getD, List.getElem?_append_left inside, inside]

theorem Loads.unique {others : List DeviceInfo} (loads : Loads env records)
    (again : Loads env others) : records = others := by
  obtain ⟨_, count, extracted⟩ := loads
  obtain ⟨_, number, same⟩ := again
  rw [extracted] at same
  cases same
  rfl

theorem Loads.holds (loads : Loads env records) : TableHolds records := by
  obtain ⟨_, count, extracted⟩ := loads
  exact extractValue_holds extracted

theorem checkBoardsInfo_noMemory (clear : state.initCheckOk = false) (memory : env.memory = false) :
    ∃ after, checkBoardsInfo env state = .ok (-1, after) ∧
      after.availableBoardCount = state.availableBoardCount := by
  unfold CheckEnv.memory at memory
  cases info : env.mallocInfo with
  | false => simp [checkBoardsInfo, requstMem, clear, info, initConfig]
  | true =>
      rw [info, Bool.true_and] at memory
      simp [checkBoardsInfo, requstMem, clear, info, memory, initConfig]

/-- With memory, the call is what the parse of the file makes of it. -/
theorem checkBoardsInfo_memory (clear : state.initCheckOk = false) (memory : env.memory = true) :
    checkBoardsInfo env state =
      match extractValue env.line (env.procfs mapingPath) with
      | .error fault => .error fault
      | .ok (boardNumber, records) =>
          if boardNumber ≤ 0 then
            .ok (0, loaded state state.availableBoardCount (some (fillTable records))
              (some (fillTable [])))
          else
            let errors := conflicts (fun i => (fillTable records).getD i env.pastEnd)
              boardNumber.toNat
            if boardNum < errors.length then .error .outOfBounds
            else .ok (errors.length, loaded state boardNumber (some (fillTable records))
              (some (fillTable errors))) := by
  obtain ⟨info, errorInfo⟩ := (Bool.and_eq_true _ _).mp memory
  unfold checkBoardsInfo
  simp only [clear, requstMem, info, errorInfo, if_true, Bool.false_eq_true, if_false,
    Int.lt_irrefl]
  rfl

theorem checkBoardsInfo_noBoards (clear : state.initCheckOk = false) (loads : Loads env []) :
    checkBoardsInfo env state = .ok (0, loaded state state.availableBoardCount
      (some (fillTable [])) (some (fillTable []))) := by
  obtain ⟨memory, count, extracted⟩ := loads
  rw [checkBoardsInfo_memory clear memory, extracted]
  rcases extractValue_length extracted with rfl | ⟨rfl, _⟩
  · simp
  · simp

theorem checkBoardsInfo_boards (clear : state.initCheckOk = false) (loads : Loads env records)
    (found : records ≠ []) :
    checkBoardsInfo env state =
      let errors := conflicts (fun i => (fillTable records).getD i env.pastEnd) records.length
      if boardNum < errors.length then .error .outOfBounds
      else .ok (errors.length, loaded state records.length (some (fillTable records))
        (some (fillTable errors))) := by
  obtain ⟨memory, count, extracted⟩ := loads
  have positive := List.length_pos_iff.mpr found
  rcases extractValue_length extracted with rfl | ⟨_, none⟩
  · have several : ¬ (records.length : Int) ≤ 0 := by omega
    rw [checkBoardsInfo_memory clear memory, extracted]
    simp only [if_neg several, Int.toNat_natCast]
  · exact absurd none found

/-- The number of entries that `_check_boards_info` writes. -/
theorem errors_length :
    (conflicts (fun i => (fillTable records).getD i env.pastEnd) records.length).length =
      if records.length = 1 then 0 else 2 * repeats (comparedIds env records) := by
  split
  · next one => simp [conflicts, one]
  · next several => rw [conflicts_length several, compared_map, comparedIds, cellAfter]

/-- The outcomes of a call that finds the flag clear, by what it has loaded. -/
inductive Load (env : CheckEnv) (state : LibState) : Int → LibState → Prop where
  | noMemory {next : LibState} (memory : env.memory = false)
      (count : next.availableBoardCount = state.availableBoardCount) : Load env state (-1) next
  | noBoards (loads : Loads env []) :
      Load env state 0 (loaded state state.availableBoardCount (some (fillTable []))
        (some (fillTable [])))
  | boards {records errors : List DeviceInfo} (loads : Loads env records) (found : records ≠ [])
      (fits : records.length ≤ boardNum) (room : errors.length ≤ boardNum)
      (length : errors.length =
        if records.length = 1 then 0 else 2 * repeats (comparedIds env records)) :
      Load env state errors.length (loaded state records.length (some (fillTable records))
        (some (fillTable errors)))

theorem checkBoardsInfo_load (clear : state.initCheckOk = false)
    (checked : checkBoardsInfo env state = .ok (ret, next)) : Load env state ret next := by
  cases memory : env.memory with
  | false =>
      obtain ⟨after, answer, count⟩ := checkBoardsInfo_noMemory clear memory
      rw [answer] at checked
      cases checked
      exact .noMemory memory count
  | true =>
      cases extracted : extractValue env.line (env.procfs mapingPath) with
      | error fault =>
          rw [checkBoardsInfo_memory clear memory, extracted] at checked
          cases checked
      | ok outcome =>
          obtain ⟨count, records⟩ := outcome
          have loads : Loads env records := ⟨memory, count, extracted⟩
          by_cases found : records = []
          · subst found
            rw [checkBoardsInfo_noBoards clear loads] at checked
            cases checked
            exact .noBoards loads
          · rw [checkBoardsInfo_boards clear loads found] at checked
            dsimp only at checked
            split at checked
            · cases checked
            · next room =>
                cases checked
                exact .boards loads found loads.holds.few (Nat.not_lt.mp room) errors_length

/-! ## The documented answers -/

structure Documented (env : CheckEnv) (ret : Int) (next : LibState) : Prop where
  noMemory : env.memory = false → ret < 0
  noFile : env.procfs mapingPath = none → ret < 0
  noLine : Loads env [] → ret < 0
  zero : ret = 0 → ∃ records, Loads env records ∧ records ≠ [] ∧ DistinctBoards records ∧
    next.availableBoardCount = records.length ∧
    ∃ info, next.boardInfo = some info ∧ info.take records.length = records
  positive : ∀ records, Loads env records → ¬ DistinctBoards records → 0 < ret

/-- Boards that do not conflict are a success. -/
def Accepts (env : CheckEnv) (ret : Int) : Prop :=
  ∀ records, Loads env records → records ≠ [] → DistinctBoards records → ret = 0

/-- There is no memory, or the file gives records that the table holds, of which at
most 64 have an id that occurs again, the cell after them included. -/
def Checkable (env : CheckEnv) : Prop :=
  env.memory = false ∨ ∃ records, Loads env records ∧ records ≠ [] ∧
    TableHolds records ∧ repeats (comparedIds env records) ≤ 64

/-- Of several distinct boards none has the id in the cell after them. -/
def Unconfused (env : CheckEnv) : Prop :=
  ∀ records, Loads env records → records.length ≠ 1 → DistinctBoards records →
    (cellAfter env records).boardId ∉ records.map DeviceInfo.boardId

theorem DistinctBoards.compared_iff (distinct : DistinctBoards records) :
    repeats (comparedIds env records) = 0 ↔
      (cellAfter env records).boardId ∉ records.map DeviceInfo.boardId := by
  rw [repeats_eq_zero_iff, comparedIds, List.nodup_append_comm]
  simp only [List.singleton_append, List.nodup_cons]
  exact ⟨fun nodup => nodup.1, fun absent => ⟨absent, distinct⟩⟩

theorem distinct_of_repeats (none : repeats (comparedIds env records) = 0) :
    DistinctBoards records :=
  (List.nodup_append.mp (repeats_eq_zero_iff.mp none)).1

theorem documented_noMemory (memory : env.memory = false) : Documented env (-1) next := by
  have unloaded : ∀ records, ¬ Loads env records := by
    rintro records ⟨there, _⟩
    rw [memory] at there
    cases there
  refine ⟨fun _ => by decide, fun _ => by decide, fun _ => by decide, nofun, ?_⟩
  intro records loads
  exact absurd loads (unloaded records)

theorem documented_boards {errors : List DeviceInfo} (loads : Loads env records)
    (found : records ≠ [])
    (length : errors.length =
      if records.length = 1 then 0 else 2 * repeats (comparedIds env records)) :
    Documented env errors.length
      (loaded state records.length (some (fillTable records)) (some (fillTable errors))) := by
  have only : ∀ others, Loads env others → others = records := by
    intro others again
    exact again.unique loads
  refine ⟨?_, ?_, ?_, ?_, ?_⟩
  · intro memory
    have there := loads.1
    rw [memory] at there
    cases there
  · intro missing
    obtain ⟨_, count, extracted⟩ := loads
    rw [missing] at extracted
    cases extracted
    exact absurd rfl found
  · intro empty
    exact absurd (only [] empty).symm found
  · intro zero
    refine ⟨records, loads, found, ?_, rfl, _, rfl, by simp [fillTable]⟩
    by_cases one : records.length = 1
    · obtain ⟨record, rfl⟩ := List.length_eq_one_iff.mp one
      simp [DistinctBoards]
    · rw [if_neg one] at length
      have none : repeats (comparedIds env records) = 0 := by omega
      exact distinct_of_repeats none
  · intro others again shared
    rw [only others again] at shared
    have several : records.length ≠ 1 := by
      intro one
      obtain ⟨record, rfl⟩ := List.length_eq_one_iff.mp one
      simp [DistinctBoards] at shared
    rw [if_neg several] at length
    have some : repeats (comparedIds env records) ≠ 0 := fun none => shared (distinct_of_repeats none)
    omega

/-- Entries that fit their array are those of at most 64 repeated ids. -/
theorem few_repeats {errors : List DeviceInfo} (room : errors.length ≤ boardNum)
    (length : errors.length =
      if records.length = 1 then 0 else 2 * repeats (comparedIds env records)) :
    repeats (comparedIds env records) ≤ 64 := by
  have size : boardNum = 128 := rfl
  split at length
  · next one =>
      obtain ⟨record, rfl⟩ := List.length_eq_one_iff.mp one
      simp only [comparedIds, repeats, List.map_cons, List.map_nil, List.singleton_append]
      split <;> simp
  · omega

theorem Documented.checkable (clear : state.initCheckOk = false)
    (checked : checkBoardsInfo env state = .ok (ret, next)) (documented : Documented env ret next) :
    Checkable env := by
  cases checkBoardsInfo_load clear checked with
  | noMemory memory => exact .inl memory
  | noBoards loads => exact absurd (documented.noLine loads) (by decide)
  | boards loads found _ room length =>
      exact .inr ⟨_, loads, found, loads.holds, few_repeats room length⟩

/-- A call that loads boards within the bounds of both tables completes. -/
theorem checkBoardsInfo_answer (clear : state.initCheckOk = false) (loads : Loads env records)
    (found : records ≠ []) (few : repeats (comparedIds env records) ≤ 64) :
    ∃ errors, checkBoardsInfo env state =
        .ok ((List.length errors : Int), loaded state records.length (some (fillTable records))
          (some (fillTable errors))) ∧
      errors.length = if records.length = 1 then 0 else 2 * repeats (comparedIds env records) := by
  have size : boardNum = 128 := rfl
  have room : ¬ boardNum <
      (conflicts (fun i => (fillTable records).getD i env.pastEnd) records.length).length := by
    rw [errors_length]
    split <;> omega
  refine ⟨_, ?_, errors_length⟩
  rw [checkBoardsInfo_boards clear loads found]
  exact if_neg room

theorem accepts_iff {errors : List DeviceInfo} (loads : Loads env records) (found : records ≠ [])
    (length : errors.length =
      if records.length = 1 then 0 else 2 * repeats (comparedIds env records)) :
    Accepts env errors.length ↔ Unconfused env := by
  constructor
  · intro accepts others again several distinct
    obtain rfl := loads.unique again
    rw [if_neg several] at length
    have zero := accepts _ loads found distinct
    have none : repeats (comparedIds env records) = 0 := by omega
    exact distinct.compared_iff.mp none
  · intro unconfused others again _ distinct
    obtain rfl := loads.unique again
    by_cases one : records.length = 1
    · rw [if_pos one] at length
      omega
    · rw [if_neg one, distinct.compared_iff.mpr (unconfused _ loads one distinct)] at length
      omega

/-- With the flag clear the call answers as documented exactly when memory is
missing or the file gives boards that the two tables hold; that it accepts boards
without conflicts needs, beyond that, none with the id of the cell after them. -/
theorem check_documented_iff (clear : state.initCheckOk = false) :
    ((∃ ret next, checkBoardsInfo env state = .ok (ret, next) ∧ Documented env ret next) ↔
        Checkable env) ∧
      ((∃ ret next, checkBoardsInfo env state = .ok (ret, next) ∧ Documented env ret next ∧
          Accepts env ret) ↔ Checkable env ∧ Unconfused env) := by
  refine ⟨⟨?_, ?_⟩, ?_, ?_⟩
  · rintro ⟨ret, next, checked, documented⟩
    exact documented.checkable clear checked
  · rintro (memory | ⟨records, loads, found, _, few⟩)
    · obtain ⟨after, checked, _⟩ := checkBoardsInfo_noMemory clear memory
      exact ⟨-1, after, checked, documented_noMemory memory⟩
    · obtain ⟨errors, checked, length⟩ := checkBoardsInfo_answer clear loads found few
      exact ⟨_, _, checked, documented_boards loads found length⟩
  · rintro ⟨ret, next, checked, documented, accepts⟩
    have checkable := documented.checkable clear checked
    refine ⟨checkable, ?_⟩
    rcases checkable with memory | ⟨records, loads, found, _, few⟩
    · intro records loads
      rw [loads.1] at memory
      cases memory
    · obtain ⟨errors, answer, length⟩ := checkBoardsInfo_answer clear loads found few
      rw [answer] at checked
      cases checked
      exact (accepts_iff loads found length).mp accepts
  · rintro ⟨memory | ⟨records, loads, found, _, few⟩, unconfused⟩
    · obtain ⟨after, checked, _⟩ := checkBoardsInfo_noMemory clear memory
      refine ⟨-1, after, checked, documented_noMemory memory, ?_⟩
      intro records loads
      rw [loads.1] at memory
      cases memory
    · obtain ⟨errors, checked, length⟩ := checkBoardsInfo_answer clear loads found few
      exact ⟨_, _, checked, documented_boards loads found length,
        (accepts_iff loads found length).mpr unconfused⟩

def noFile : CheckEnv := { oneBoard with procfs := fun _ => none }

/-- Without the mapping file the first check of a process reports success. -/
theorem missing_file_accepted :
    LibState.loaded.initCheckOk = false ∧
      ¬ ∃ ret next, checkBoardsInfo noFile LibState.loaded = .ok (ret, next) ∧
        Documented noFile ret next := by
  refine ⟨rfl, ?_⟩
  rintro ⟨ret, next, checked, documented⟩
  have empty : Loads noFile [] := ⟨rfl, -1, rfl⟩
  rw [checkBoardsInfo_noBoards rfl empty] at checked
  cases checked
  exact absurd (documented.noFile rfl) (by decide)

theorem check_documented_iff_oneBoard :
    ((∃ ret next, checkBoardsInfo oneBoard LibState.loaded = .ok (ret, next) ∧
        Documented oneBoard ret next) ↔ Checkable oneBoard) ∧
      ((∃ ret next, checkBoardsInfo oneBoard LibState.loaded = .ok (ret, next) ∧
        Documented oneBoard ret next ∧ Accepts oneBoard ret) ↔
          Checkable oneBoard ∧ Unconfused oneBoard) :=
  check_documented_iff rfl

end Vi53xx.Lib
