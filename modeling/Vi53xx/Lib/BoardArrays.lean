import Vi53xx.Lib.DuplicateProperties
import Vi53xx.Foundation.Occurrences

/-! `_check_boards_info` on the two arrays it is called with, each access checked
against the end of its array. Within the bounds it writes the `conflicts`. -/

set_option autoImplicit false

namespace Vi53xx.Lib

open Foundation

def readEntry (info : List DeviceInfo) (index : Nat) : Except Fault DeviceInfo :=
  match info[index]? with
  | some entry => .ok entry
  | none => .error .outOfBounds

def writeEntry (info : List DeviceInfo) (index : Nat) (entry : DeviceInfo) :
    Except Fault (List DeviceInfo) :=
  if index < info.length then .ok (info.set index entry) else .error .outOfBounds

/-- The inner loop, with the places `j` that are left. -/
def innerLoop (info : List DeviceInfo) (i : Nat) : List Nat → Except Fault (Option Nat)
  | [] => .ok none
  | j :: rest => do
      let first ← readEntry info i
      let second ← readEntry info j
      if first.boardId = second.boardId then .ok (some j) else innerLoop info i rest

/-- The outer loop, with the places `i` that are left and `Index` so far. -/
def outerLoop (info : List DeviceInfo) (count : Nat) :
    List Nat → Nat → List DeviceInfo → Except Fault (Nat × List DeviceInfo)
  | [], index, errInfo => .ok (index, errInfo)
  | i :: rest, index, errInfo => do
      let found ← innerLoop info i (List.range' (i + 1) (count - i))
      match found with
      | none => outerLoop info count rest index errInfo
      | some j =>
          let first ← readEntry info i
          let errInfo ← writeEntry errInfo index first
          let second ← readEntry info j
          let errInfo ← writeEntry errInfo (index + 1) second
          outerLoop info count rest (index + 2) errInfo

/-- `_check_boards_info`, with the array `err_info` as it leaves it. -/
def checkBoardsInfoArrays (info errInfo : List DeviceInfo) (count : Nat) :
    Except Fault (Nat × List DeviceInfo) :=
  if count = 1 then .ok (0, errInfo) else outerLoop info count (List.range count) 0 errInfo

variable {info errInfo written room : List DeviceInfo} {past : DeviceInfo} {count i j : Nat}
  {places : List Nat}

theorem readEntry_inside (past : DeviceInfo) (inside : i < info.length) :
    readEntry info i = .ok (info.getD i past) := by
  simp [readEntry, inside]

theorem readEntry_outside (outside : info.length ≤ i) :
    readEntry info i = .error .outOfBounds := by
  simp [readEntry, outside]

/-! ## Pairs -/

/-- The places of the boards that are found to conflict, in the order of their reports. -/
def pairsFrom (info : Nat → DeviceInfo) (count : Nat) (places : List Nat) : List (Nat × Nat) :=
  places.filterMap fun i => (conflictOf info count i).map fun j => (i, j)

def entriesAt (info : Nat → DeviceInfo) (pairs : List (Nat × Nat)) : List DeviceInfo :=
  pairs.flatMap fun pair => [info pair.1, info pair.2]

def conflictPairs (info : Nat → DeviceInfo) (count : Nat) : List (Nat × Nat) :=
  pairsFrom info count (List.range count)

variable {table : Nat → DeviceInfo}

theorem conflicts_eq_entriesAt (several : count ≠ 1) :
    conflicts table count = entriesAt table (conflictPairs table count) := by
  rw [conflicts, if_neg several, entriesAt, conflictPairs, pairsFrom]
  induction List.range count with
  | nil => rfl
  | cons i rest ih =>
      rw [List.flatMap_cons, ih]
      cases found : conflictOf table count i with
      | none => simp [found]
      | some j => simp [found]

@[simp] theorem entriesAt_nil : entriesAt table [] = [] := rfl

@[simp] theorem entriesAt_cons {pair : Nat × Nat} {rest : List (Nat × Nat)} :
    entriesAt table (pair :: rest) = table pair.1 :: table pair.2 :: entriesAt table rest := rfl

theorem entriesAt_length (pairs : List (Nat × Nat)) :
    (entriesAt table pairs).length = 2 * pairs.length := by
  induction pairs with
  | nil => rfl
  | cons pair rest ih =>
      simp only [entriesAt_cons, List.length_cons, ih]
      omega

/-! ## Within the bounds -/

theorem innerLoop_inside (past : DeviceInfo) (first : i < info.length)
    (inside : ∀ j ∈ places, j < info.length) :
    innerLoop info i places = .ok (places.find? fun j =>
      (info.getD i past).boardId == (info.getD j past).boardId) := by
  induction places with
  | nil => rfl
  | cons j rest ih =>
      have here := readEntry_inside past (inside j List.mem_cons_self)
      have later := ih fun other member => inside other (List.mem_cons_of_mem j member)
      simp only [innerLoop, bind, Except.bind, readEntry_inside past first, here, later,
        List.find?_cons]
      by_cases same : (info.getD i past).boardId = (info.getD j past).boardId
      · simp only [same, if_true, beq_self_eq_true]
      · simp only [same, if_false, beq_eq_false_iff_ne.mpr same]

theorem innerLoop_conflictOf (past : DeviceInfo) (room : count < info.length) (inside : i < count) :
    innerLoop info i (List.range' (i + 1) (count - i)) =
      .ok (conflictOf (fun place => info.getD place past) count i) := by
  apply innerLoop_inside past (by omega)
  intro j member
  have bounded := List.mem_range'_1.mp member
  omega

theorem conflictOf_bounded (found : conflictOf table count i = some j) : j ≤ count := by
  have bounded := List.mem_range'_1.mp (List.mem_of_find?_eq_some found)
  omega

theorem writeEntry_end (entry : DeviceInfo) :
    writeEntry (written ++ room) written.length entry =
      match room with
      | [] => .error .outOfBounds
      | _ :: rest => .ok (written ++ [entry] ++ rest) := by
  cases room with
  | nil => simp [writeEntry]
  | cons old rest => simp [writeEntry]

theorem outerLoop_none {index : Nat} (scanned : innerLoop info i
    (List.range' (i + 1) (count - i)) = .ok none) :
    outerLoop info count (i :: places) index errInfo =
      outerLoop info count places index errInfo := by
  simp only [outerLoop, bind, Except.bind, scanned]

/-- With `err_info` filled up to `Index`, a pair takes the next two entries. -/
theorem outerLoop_some (past : DeviceInfo) (first : i < info.length) (second : j < info.length)
    (scanned : innerLoop info i (List.range' (i + 1) (count - i)) = .ok (some j)) :
    outerLoop info count (i :: places) written.length (written ++ room) =
      match room with
      | _ :: _ :: room =>
          let reported := written ++ [info.getD i past, info.getD j past]
          outerLoop info count places reported.length (reported ++ room)
      | _ => .error .outOfBounds := by
  simp only [outerLoop, bind, Except.bind, scanned, readEntry_inside past first,
    readEntry_inside past second, writeEntry_end]
  match room with
  | [] => rfl
  | [_] =>
      have full : writeEntry (written ++ [info.getD i past] ++ []) (written.length + 1)
          (info.getD j past) = .error .outOfBounds := by simp [writeEntry]
      simp only [full]
  | _ :: last :: room =>
      have both : writeEntry (written ++ [info.getD i past] ++ last :: room)
          (written.length + 1) (info.getD j past) =
          .ok (written ++ [info.getD i past, info.getD j past] ++ room) := by
        simp [writeEntry]
      simp only [both, List.length_append, List.length_cons, List.length_nil]

/-- With `err_info` filled up to `Index`, the loop writes the entries of the pairs that
are left, if they fit. -/
theorem outerLoop_eq (past : DeviceInfo) (fits : count < info.length)
    (inside : ∀ i ∈ places, i < count) :
    outerLoop info count places written.length (written ++ room) =
      let table := fun place => info.getD place past
      let entries := entriesAt table (pairsFrom table count places)
      if entries.length ≤ room.length then
        .ok (written.length + entries.length, written ++ entries ++ room.drop entries.length)
      else .error .outOfBounds := by
  induction places generalizing written room with
  | nil => simp [outerLoop, pairsFrom]
  | cons i rest ih =>
      have within := inside i List.mem_cons_self
      have others : ∀ other ∈ rest, other < count := fun other member =>
        inside other (List.mem_cons_of_mem i member)
      have scanned := innerLoop_conflictOf past fits within
      cases found : conflictOf (fun place => info.getD place past) count i with
      | none =>
          have same : pairsFrom (fun place => info.getD place past) count (i :: rest) =
              pairsFrom (fun place => info.getD place past) count rest := by
            simp only [pairsFrom, List.filterMap_cons, found, Option.map_none]
          rw [outerLoop_none (scanned.trans (congrArg Except.ok found))]
          simp only [same]
          exact ih others
      | some j =>
          have bounded := conflictOf_bounded found
          have more : pairsFrom (fun place => info.getD place past) count (i :: rest) =
              (i, j) :: pairsFrom (fun place => info.getD place past) count rest := by
            simp only [pairsFrom, List.filterMap_cons, found, Option.map_some]
          rw [outerLoop_some past (by omega) (by omega) (scanned.trans (congrArg Except.ok found))]
          simp only [more]
          match room with
          | [] => simp
          | [_] => simp
          | _ :: _ :: room =>
              refine (ih others).trans ?_
              by_cases enough : (entriesAt (fun place => info.getD place past)
                  (pairsFrom (fun place => info.getD place past) count rest)).length ≤ room.length
              · rw [if_pos enough, if_pos (by simpa using enough)]
                refine congrArg Except.ok (Prod.ext ?_ ?_)
                · simp only [entriesAt_cons, List.length_append, List.length_cons, List.length_nil]
                  omega
                · simp
              · rw [if_neg enough, if_neg (by simpa using enough)]

/-- With room for the read after the last board, `_check_boards_info` completes exactly
when the entries fit, and they are the conflicts. -/
theorem checkBoardsInfoArrays_eq (past : DeviceInfo) (fits : count < info.length) :
    checkBoardsInfoArrays info errInfo count =
      let entries := conflicts (fun place => info.getD place past) count
      if entries.length ≤ errInfo.length then
        .ok (entries.length, entries ++ errInfo.drop entries.length)
      else .error .outOfBounds := by
  unfold checkBoardsInfoArrays
  split
  · next one => simp [conflicts, one]
  · next several =>
      have inside : ∀ i ∈ List.range count, i < count := fun i => List.mem_range.mp
      have ran := @outerLoop_eq info [] errInfo count _ past fits inside
      rw [conflicts_eq_entriesAt several]
      simpa [conflictPairs] using ran

/-- The scan for the last board of a full array reads past its end. -/
theorem innerLoop_full (full : info.length = count + 1) :
    innerLoop info count (List.range' (count + 1) (count + 1 - count)) = .error .outOfBounds := by
  have last : count < info.length := by omega
  have outside : info.length ≤ count + 1 := by omega
  have one : count + 1 - count = 1 := by omega
  simp only [one, List.range'_one, innerLoop, bind, Except.bind,
    readEntry_inside DeviceInfo.cleared last, readEntry_outside outside]

theorem ok_of_bind {Value Result : Type} {first : Except Fault Value}
    {next : Value → Except Fault Result} {result : Result} (ran : first >>= next = .ok result) :
    ∃ value, first = .ok value ∧ next value = .ok result := by
  cases first with
  | error fault => cases ran
  | ok value => exact ⟨value, rfl, ran⟩

theorem outerLoop_ok {index : Nat} {outcome : Nat × List DeviceInfo}
    (ran : outerLoop info count places index errInfo = .ok outcome) :
    ∀ i ∈ places, ∃ found, innerLoop info i (List.range' (i + 1) (count - i)) = .ok found := by
  induction places generalizing index errInfo with
  | nil => simp
  | cons i rest ih =>
      obtain ⟨found, scanned, ran⟩ := ok_of_bind ran
      have others : ∀ other ∈ rest, ∃ found,
          innerLoop info other (List.range' (other + 1) (count - other)) = .ok found := by
        cases found with
        | none => exact ih ran
        | some j =>
            obtain ⟨_, _, ran⟩ := ok_of_bind ran
            obtain ⟨_, _, ran⟩ := ok_of_bind ran
            obtain ⟨_, _, ran⟩ := ok_of_bind ran
            obtain ⟨_, _, ran⟩ := ok_of_bind ran
            exact ih ran
      intro other member
      rcases List.mem_cons.mp member with rfl | member
      · exact ⟨found, scanned⟩
      · exact others other member

theorem checkBoardsInfoArrays_full (full : info.length = count) (several : 1 < count)
    (outcome : Nat × List DeviceInfo) : checkBoardsInfoArrays info errInfo count ≠ .ok outcome := by
  intro ran
  obtain ⟨count, rfl⟩ := Nat.exists_eq_add_one_of_ne_zero (Nat.ne_of_gt (Nat.zero_lt_of_lt several))
  rw [checkBoardsInfoArrays, if_neg (by omega)] at ran
  obtain ⟨found, scanned⟩ := outerLoop_ok ran count (List.mem_range.mpr (Nat.lt_succ_self count))
  rw [innerLoop_full full] at scanned
  cases scanned

end Vi53xx.Lib
