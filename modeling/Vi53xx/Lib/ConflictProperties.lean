import Vi53xx.Lib.BoardArrays

/-! What `_check_boards_info` reports: for each board the next one with its id, so a
board between two others of its id is reported twice, and a table can have more
entries to report than the array for them has room for. -/

set_option autoImplicit false

namespace Vi53xx.Lib

open Foundation

variable {records errInfo : List DeviceInfo} {table : Nat → DeviceInfo} {count i j ret : Nat}
  {places : List Nat} {pairs : List (Nat × Nat)}

def boardIds (records : List DeviceInfo) : List (BitVec 32) := records.map DeviceInfo.boardId

/-- The board table as the loops index it. -/
def tableAt (records : List DeviceInfo) (place : Nat) : DeviceInfo :=
  (fillTable records).getD place .cleared

def idAt (table : Nat → DeviceInfo) (place : Nat) : BitVec 32 := (table place).boardId

/-- `_check_boards_info` as `check_boards_info` calls it, on two arrays of `BOARD_NUM`
entries of which the second one is cleared. -/
def reportBoards (records : List DeviceInfo) : Except Fault (Nat × List DeviceInfo) :=
  checkBoardsInfoArrays (fillTable records) (fillTable []) records.length

/-! ## The table -/

theorem tableAt_record (inside : i < records.length) : records[i]? = some (tableAt records i) := by
  simp [tableAt, fillTable, List.getElem?_append_left inside, inside]

theorem tableAt_unused (room : records.length < boardNum) :
    idAt (tableAt records) records.length = 0 := by
  rw [idAt, tableAt, fillTable_unused room]
  rfl

theorem idAt_mem (inside : i < records.length) : idAt (tableAt records) i ∈ boardIds records := by
  refine List.mem_map.mpr ⟨tableAt records i, ?_, rfl⟩
  exact List.mem_of_getElem? (tableAt_record inside)

theorem records_eq_map : records = (List.range records.length).map (tableAt records) := by
  refine List.ext_getElem (by simp) ?_
  intro place inside _
  have here := tableAt_record inside
  rw [List.getElem?_eq_getElem inside] at here
  simpa using Option.some.inj here

/-! ## The pairs -/

theorem repeats_add_card (ids : List (BitVec 32)) :
    repeats ids + ids.toFinset.card = ids.length := by
  induction ids with
  | nil => rfl
  | cons id rest ih =>
      by_cases again : id ∈ rest
      · simp only [repeats, again, if_true, List.toFinset_cons, List.length_cons,
          Finset.insert_eq_of_mem (List.mem_toFinset.mpr again)]
        omega
      · have fresh : id ∉ rest.toFinset := fun member => again (List.mem_toFinset.mp member)
        simp only [repeats, again, if_false, List.toFinset_cons, List.length_cons,
          Finset.card_insert_of_notMem fresh]
        omega

/-- The inner loop finds the next board with the same id, the entry after the last
board included. -/
theorem conflictOf_eq_some_iff :
    conflictOf table count i = some j ↔ j ≤ count ∧ Successive (idAt table) i j := by
  have sound : ∀ {found}, conflictOf table count i = some found →
      found ≤ count ∧ Successive (idAt table) i found := by
    intro found scanned
    obtain ⟨same, before, after, split, passed⟩ := List.find?_eq_some_iff_append.mp scanned
    have bounded := List.mem_range'_1.mp (List.mem_of_find?_eq_some scanned)
    have sorted : List.Pairwise (· < ·) (before ++ found :: after) := by
      rw [← split]
      exact List.pairwise_lt_range'
    refine ⟨by omega, by omega, by simpa [idAt] using same, ?_⟩
    intro between above below equal
    have member : between ∈ before ++ found :: after := by
      rw [← split, List.mem_range'_1]
      omega
    rcases List.mem_append.mp member with early | late
    · have other := passed between early
      simp [idAt] at equal other
      exact other equal.symm
    · rcases List.mem_cons.mp late with same | late
      · omega
      · have above := List.rel_of_pairwise_cons (List.pairwise_append.mp sorted).2.1 late
        omega
  constructor
  · exact sound
  · rintro ⟨bounded, successive⟩
    have some : (conflictOf table count i).isSome = true :=
      conflictOf_isSome.mpr ⟨j, successive.before, bounded, successive.same⟩
    obtain ⟨found, scanned⟩ := Option.isSome_iff_exists.mp some
    rw [scanned, (sound scanned).2.right_unique successive]

theorem mem_conflictPairs :
    (i, j) ∈ conflictPairs table count ↔ i < count ∧ j ≤ count ∧ Successive (idAt table) i j := by
  simp only [conflictPairs, pairsFrom, List.mem_filterMap, List.mem_range, Option.map_eq_some_iff,
    conflictOf_eq_some_iff, Prod.mk.injEq]
  constructor
  · rintro ⟨place, inside, later, found, rfl, rfl⟩
    exact ⟨inside, found⟩
  · rintro ⟨inside, found⟩
    exact ⟨i, inside, j, found, rfl, rfl⟩

theorem pairsFrom_firsts :
    (pairsFrom table count places).map Prod.fst =
      places.filter fun i => (conflictOf table count i).isSome := by
  induction places with
  | nil => rfl
  | cons i rest ih =>
      rw [pairsFrom] at ih ⊢
      cases found : conflictOf table count i with
      | none => simp [found, ih]
      | some j => simp [found, ih]

theorem conflictPairs_nodup : ((conflictPairs table count).map Prod.fst).Nodup := by
  rw [conflictPairs, pairsFrom_firsts]
  exact List.nodup_range.filter _

theorem conflictPairs_length (room : records.length < boardNum) (several : records.length ≠ 1) :
    (conflictPairs (tableAt records) records.length).length =
      repeats (boardIds records ++ [0]) := by
  have entries : (conflicts (tableAt records) records.length).length =
      2 * repeats (boardIds records ++ [0]) := conflicts_fillTable room several
  rw [conflicts_eq_entriesAt several, entriesAt_length] at entries
  omega

/-- The pairs, by the number of different ids. -/
theorem conflictPairs_length_distinct (room : records.length < boardNum)
    (several : records.length ≠ 1) (nonzero : 0 ∉ boardIds records) :
    (conflictPairs (tableAt records) records.length).length =
      records.length - (boardIds records).toFinset.card := by
  have counted := repeats_add_card (boardIds records ++ [0])
  have absent : 0 ∉ (boardIds records).toFinset := fun member =>
    nonzero (List.mem_toFinset.mp member)
  have distinct : (boardIds records ++ [0]).toFinset = insert 0 (boardIds records).toFinset := by
    ext id
    simp
  rw [distinct, Finset.card_insert_of_notMem absent] at counted
  simp only [List.length_append, List.length_singleton, boardIds, List.length_map] at counted
  rw [conflictPairs_length room several, boardIds]
  omega

/-! ## What is reported -/

/-- The entry after the last board is in the array, so what follows the array is not read. -/
theorem reportBoards_past (past : DeviceInfo) (room : records.length < boardNum) :
    reportBoards records =
      let entries := conflicts (fun place => (fillTable records).getD place past) records.length
      if entries.length ≤ boardNum then .ok (entries.length, fillTable entries)
      else .error .outOfBounds := by
  have fits : records.length < (fillTable records).length := by
    rw [fillTable_length room.le]
    exact room
  rw [reportBoards, checkBoardsInfoArrays_eq past fits]
  have size : (fillTable []).length = boardNum := rfl
  have rest : ∀ used, (fillTable []).drop used = List.replicate (boardNum - used) .cleared := by
    intro used
    simp [fillTable]
  rw [size]
  simp only [rest]
  rfl

theorem reportBoards_eq (room : records.length < boardNum) :
    reportBoards records =
      let entries := conflicts (tableAt records) records.length
      if entries.length ≤ boardNum then .ok (entries.length, fillTable entries)
      else .error .outOfBounds :=
  reportBoards_past .cleared room

/-- `check_boards_info` returns what the check of its arrays returns, and keeps the
array of the entries. -/
theorem checkBoardsInfo_reportBoards {env : CheckEnv} {state : LibState}
    (clear : state.initCheckOk = false) (loads : Loads env records) (found : records ≠ [])
    (room : records.length < boardNum) :
    checkBoardsInfo env state = (reportBoards records).map fun (ret, errInfo) =>
      ((ret : Int), loaded state records.length (some (fillTable records)) (some errInfo)) := by
  rw [checkBoardsInfo_boards clear loads found, reportBoards_past env.pastEnd room]
  dsimp only
  split
  · next full =>
      rw [if_neg (Nat.not_le.mpr full)]
      rfl
  · next enough =>
      rw [if_pos (Nat.not_lt.mp enough)]
      rfl

theorem reportBoards_one (one : records.length = 1) :
    reportBoards records = .ok (0, fillTable []) := by
  rw [reportBoards, checkBoardsInfoArrays, if_pos one]

/-- With several boards of ids other than 0 there are two entries for each pair. -/
theorem reportBoards_pairs (room : records.length < boardNum) (several : records.length ≠ 1)
    (nonzero : 0 ∉ boardIds records)
    (fits : 2 * (records.length - (boardIds records).toFinset.card) ≤ boardNum) :
    reportBoards records = .ok (2 * (records.length - (boardIds records).toFinset.card),
      fillTable (entriesAt (tableAt records) (conflictPairs (tableAt records) records.length))) := by
  have number := conflictPairs_length_distinct room several nonzero
  rw [reportBoards_eq room, conflicts_eq_entriesAt several]
  simp only [entriesAt_length, number]
  exact if_pos fits

theorem entriesAt_getElem? {k : Nat} (pair : pairs[k]? = some (i, j)) :
    (entriesAt table pairs)[2 * k]? = some (table i) ∧
      (entriesAt table pairs)[2 * k + 1]? = some (table j) := by
  induction pairs generalizing k with
  | nil => cases pair
  | cons first rest ih =>
      cases k with
      | zero =>
          cases pair
          exact ⟨rfl, rfl⟩
      | succ k => exact ih pair

/-- With ids other than 0 both boards of a pair are boards of the table. -/
theorem conflictPairs_inside (room : records.length < boardNum) (nonzero : 0 ∉ boardIds records)
    (member : (i, j) ∈ conflictPairs (tableAt records) records.length) :
    i < records.length ∧ j < records.length ∧ Successive (idAt (tableAt records)) i j := by
  obtain ⟨inside, bounded, successive⟩ := mem_conflictPairs.mp member
  refine ⟨inside, Nat.lt_of_le_of_ne bounded ?_, successive⟩
  intro last
  have zero := successive.same
  rw [last, tableAt_unused room] at zero
  exact nonzero (zero ▸ idAt_mem inside)

/-- The entries come in pairs of a board and the next one with its id. -/
structure PairReport (records errInfo : List DeviceInfo) (pairs : List (Nat × Nat)) : Prop where
  number : pairs.length = records.length - (boardIds records).toFinset.card
  copies : ∀ k i j, pairs[k]? = some (i, j) →
    errInfo[2 * k]? = records[i]? ∧ errInfo[2 * k + 1]? = records[j]?
  boards : ∀ i j, (i, j) ∈ pairs →
    i < records.length ∧ j < records.length ∧ Successive (idAt (tableAt records)) i j
  firsts : (pairs.map Prod.fst).Nodup

theorem conflict_report (several : 2 ≤ records.length) (few : records.length ≤ 64)
    (nonzero : 0 ∉ boardIds records) :
    ∃ errInfo pairs,
      reportBoards records =
          .ok (2 * (records.length - (boardIds records).toFinset.card), errInfo) ∧
        PairReport records errInfo pairs := by
  have room : records.length < boardNum := by
    have size : boardNum = 128 := rfl
    omega
  have fits : 2 * (records.length - (boardIds records).toFinset.card) ≤ boardNum := by
    have size : boardNum = 128 := rfl
    omega
  refine ⟨_, conflictPairs (tableAt records) records.length,
    reportBoards_pairs room (by omega) nonzero fits, ?_⟩
  refine ⟨conflictPairs_length_distinct room (by omega) nonzero, ?_,
    fun i j => conflictPairs_inside room nonzero, conflictPairs_nodup⟩
  intro k i j pair
  obtain ⟨inside, later, _⟩ := conflictPairs_inside room nonzero (List.mem_of_getElem? pair)
  obtain ⟨first, second⟩ := @entriesAt_getElem? (tableAt records) _ _ _ _ pair
  have here := (List.getElem?_eq_some_iff.mp first).1
  have there := (List.getElem?_eq_some_iff.mp second).1
  rw [tableAt_record inside, tableAt_record later, fillTable, List.getElem?_append_left here,
    List.getElem?_append_left there]
  exact ⟨first, second⟩

def sharingBoards (count : Nat) : List DeviceInfo :=
  List.replicate count { DeviceInfo.cleared with boardId := 7 }

theorem conflict_report_two :
    ∃ errInfo pairs,
      reportBoards (sharingBoards 2) = .ok (2 * ((sharingBoards 2).length -
          (boardIds (sharingBoards 2)).toFinset.card), errInfo) ∧
        PairReport (sharingBoards 2) errInfo pairs :=
  conflict_report (by decide) (by decide) (by decide)

/-! ## Boards that are reported once -/

/-- The boards that share their id with another board of the table. -/
def conflicting (records : List DeviceInfo) : List DeviceInfo :=
  records.filter fun board => 1 < (boardIds records).count board.boardId

/-- The entries are the boards in conflict, each one once, and their number is returned. -/
structure ReportedOnce (records : List DeviceInfo) (ret : Nat) (errInfo : List DeviceInfo) :
    Prop where
  once : (errInfo.take ret).Perm (conflicting records)
  number : 0 < ret → ret = (conflicting records).length

theorem conflicting_length : (conflicting records).length = (shared (boardIds records)).length := by
  have ids : (conflicting records).map DeviceInfo.boardId = shared (boardIds records) := by
    rw [shared, boardIds, List.filter_map]
    rfl
  rw [← ids, List.length_map]

/-- The places of the boards in conflict. -/
def conflictingPlaces (records : List DeviceInfo) : List Nat :=
  (List.range records.length).filter fun place =>
    1 < (boardIds records).count (idAt (tableAt records) place)

theorem conflicting_eq_map :
    conflicting records = (conflictingPlaces records).map (tableAt records) := by
  have places : conflicting records = ((List.range records.length).map (tableAt records)).filter
      fun board => 1 < (boardIds records).count board.boardId := by
    rw [← records_eq_map]
    rfl
  rw [places, List.filter_map]
  rfl

/-- A key that is counted twice stands in another place as well. -/
theorem exists_other_place {ids : List (BitVec 32)} {id : BitVec 32} (here : ids[i]? = some id)
    (several : 1 < ids.count id) : ∃ other, other ≠ i ∧ ids[other]? = some id := by
  obtain ⟨inside, same⟩ := List.getElem?_eq_some_iff.mp here
  have split : ids = ids.take i ++ id :: ids.drop (i + 1) := by
    rw [← same, List.getElem_cons_drop, List.take_append_drop]
  have counted : ids.count id = (ids.take i).count id + ((ids.drop (i + 1)).count id + 1) := by
    conv_lhs => rw [split]
    rw [List.count_append, List.count_cons_self]
  by_cases before : id ∈ ids.take i
  · obtain ⟨other, low, found⟩ := List.mem_take_iff_getElem.mp before
    exact ⟨other, by omega, List.getElem?_eq_some_iff.mpr ⟨by omega, found⟩⟩
  · rw [List.count_eq_zero_of_not_mem before] at counted
    have after : id ∈ ids.drop (i + 1) := List.count_pos_iff.mp (by omega)
    obtain ⟨other, low, found⟩ := List.mem_drop_iff_getElem.mp after
    refine ⟨other + (i + 1), by omega, List.getElem?_eq_some_iff.mpr ⟨by omega, ?_⟩⟩
    simpa [Nat.add_comm] using found

theorem boardIds_getElem? (inside : i < records.length) :
    (boardIds records)[i]? = some (idAt (tableAt records) i) := by
  rw [boardIds, List.getElem?_map, tableAt_record inside]
  rfl

def reportedPlaces (records : List DeviceInfo) : List Nat :=
  (conflictPairs (tableAt records) records.length).flatMap fun pair => [pair.1, pair.2]

theorem entriesAt_eq_map : entriesAt table pairs =
    (pairs.flatMap fun pair => [pair.1, pair.2]).map table := by
  induction pairs with
  | nil => rfl
  | cons pair rest ih => simp [ih]

/-- A board in conflict has a next or a previous one of its id. -/
theorem conflictingPlaces_reported : conflictingPlaces records ⊆ reportedPlaces records := by
  intro place member
  obtain ⟨ranged, several⟩ := List.mem_filter.mp member
  have inside := List.mem_range.mp ranged
  obtain ⟨other, apart, found⟩ :=
    exists_other_place (boardIds_getElem? inside) (by simpa using several)
  have within : other < records.length := by
    have bounded := (List.getElem?_eq_some_iff.mp found).1
    simpa [boardIds] using bounded
  rw [boardIds_getElem? within] at found
  have same : idAt (tableAt records) other = idAt (tableAt records) place := Option.some.inj found
  rcases Nat.lt_or_gt_of_ne apart with below | above
  · obtain ⟨last, _, successive⟩ := exists_successive_before below same
    have reported : (last, place) ∈ conflictPairs (tableAt records) records.length :=
      mem_conflictPairs.mpr ⟨successive.before.trans inside, inside.le, successive⟩
    exact List.mem_flatMap.mpr ⟨_, reported, by simp⟩
  · obtain ⟨next, bounded, successive⟩ := exists_successive_after above same.symm
    have reported : (place, next) ∈ conflictPairs (tableAt records) records.length :=
      mem_conflictPairs.mpr ⟨inside, bounded.trans within.le, successive⟩
    exact List.mem_flatMap.mpr ⟨_, reported, by simp⟩

theorem ids_length : (boardIds records).length = records.length := by simp [boardIds]

/-- When no id stands three times, the entries are the boards in conflict. -/
theorem entries_perm_conflicting (room : records.length < boardNum) (several : records.length ≠ 1)
    (nonzero : 0 ∉ boardIds records) (few : ∀ id, (boardIds records).count id ≤ 2) :
    (entriesAt (tableAt records) (conflictPairs (tableAt records) records.length)).Perm
      (conflicting records) := by
  have enough : (reportedPlaces records).length ≤ (conflictingPlaces records).length := by
    have pairs := conflictPairs_length_distinct room several nonzero
    have boards := length_shared_eq_iff.mpr few
    have places : (conflictingPlaces records).length = (conflicting records).length := by
      rw [conflicting_eq_map, List.length_map]
    have entries := @entriesAt_length (tableAt records)
      (conflictPairs (tableAt records) records.length)
    rw [entriesAt_eq_map, List.length_map] at entries
    rw [ids_length] at boards
    rw [reportedPlaces, entries, pairs, places, conflicting_length, boards]
  have distinct : (conflictingPlaces records).Nodup := List.nodup_range.filter _
  have same := (List.subperm_of_subset distinct conflictingPlaces_reported).perm_of_length_le enough
  rw [entriesAt_eq_map, conflicting_eq_map]
  exact (same.map (tableAt records)).symm

theorem ReportedOnce.number_eq (fits : ret ≤ errInfo.length)
    (reported : ReportedOnce records ret errInfo) : ret = (conflicting records).length := by
  have length := reported.once.length_eq
  rw [List.length_take, Nat.min_eq_left fits] at length
  exact length

/-- For boards of ids other than 0 the report has each board in conflict once exactly
when no id is that of three boards. -/
theorem reported_once_iff (found : records ≠ []) (room : records.length < boardNum)
    (nonzero : 0 ∉ boardIds records) :
    (∃ ret errInfo, reportBoards records = .ok (ret, errInfo) ∧
        ReportedOnce records ret errInfo) ↔
      ∀ id, (boardIds records).count id ≤ 2 := by
  have size : boardNum = 128 := rfl
  by_cases one : records.length = 1
  · obtain ⟨record, rfl⟩ := List.length_eq_one_iff.mp one
    refine iff_of_true ⟨0, _, reportBoards_one one, ?_, nofun⟩ ?_
    · simp [conflicting, boardIds]
    · intro id
      exact List.count_le_length.trans (by simp [boardIds])
  · have halved : (conflicting records).length ≤ records.length := List.length_filter_le _ _
    constructor
    · rintro ⟨ret, errInfo, ran, reported⟩
      rw [reportBoards_eq room, conflicts_eq_entriesAt one] at ran
      dsimp only at ran
      split at ran
      · next fits =>
          cases ran
          have number := reported.number_eq (by rw [fillTable_length fits]; exact fits)
          rw [entriesAt_length, conflictPairs_length_distinct room one nonzero,
            conflicting_length, ← ids_length] at number
          exact length_shared_eq_iff.mp number.symm
      · cases ran
    · intro few
      have boards := length_shared_eq_iff.mpr few
      rw [← conflicting_length, ids_length] at boards
      refine ⟨_, _, reportBoards_pairs room one nonzero (by omega), ?_, ?_⟩
      · have entries := @entriesAt_length (tableAt records)
          (conflictPairs (tableAt records) records.length)
        rw [conflictPairs_length_distinct room one nonzero] at entries
        rw [fillTable, ← entries, List.take_left]
        exact entries_perm_conflicting room one nonzero few
      · intro _
        exact boards.symm

/-- Three boards of one id make four entries. -/
theorem three_boards_reported_twice :
    ¬ ∃ ret errInfo, reportBoards (sharingBoards 3) = .ok (ret, errInfo) ∧
      ReportedOnce (sharingBoards 3) ret errInfo := by
  rintro ⟨ret, errInfo, ran, reported⟩
  have four : (reportBoards (sharingBoards 3)).map Prod.fst = .ok 4 := by decide +kernel
  have three : (conflicting (sharingBoards 3)).length = 3 := by decide +kernel
  rw [ran] at four
  cases four
  exact absurd (reported.number (by decide)) (by rw [three]; decide)

theorem reported_once_iff_three :
    (∃ ret errInfo, reportBoards (sharingBoards 3) = .ok (ret, errInfo) ∧
        ReportedOnce (sharingBoards 3) ret errInfo) ↔
      ∀ id, (boardIds (sharingBoards 3)).count id ≤ 2 :=
  reported_once_iff (by decide) (by decide) (by decide)

/-! ## The bounds of the arrays -/

/-- All accesses of the check, and of a caller that prints the entries, are within the
`BOARD_NUM` entries of the arrays. -/
def StaysInside (records : List DeviceInfo) : Prop :=
  ∃ ret errInfo, reportBoards records = .ok (ret, errInfo) ∧ ∀ index, index < ret → index < boardNum

/-- The accesses stay inside the arrays exactly when there is one board, or the table is
not full and at most 64 boards have an id that is 0 or that of a later board. -/
theorem stays_inside_iff (found : records ≠ []) (fits : records.length ≤ boardNum) :
    StaysInside records ↔
      records.length = 1 ∨ records.length < boardNum ∧
        records.length + 1 ≤ 64 + (insert 0 (boardIds records).toFinset).card := by
  have size : boardNum = 128 := rfl
  have counted := repeats_add_card (boardIds records ++ [0])
  have distinct : (boardIds records ++ [0]).toFinset = insert 0 (boardIds records).toFinset := by
    ext id
    simp
  rw [distinct, List.length_append, List.length_singleton, ids_length] at counted
  by_cases one : records.length = 1
  · exact iff_of_true ⟨0, _, reportBoards_one one, nofun⟩ (.inl one)
  · have positive := List.length_pos_iff.mpr found
    rcases Nat.lt_or_eq_of_le fits with room | full
    · have entries : (conflicts (tableAt records) records.length).length =
          2 * repeats (boardIds records ++ [0]) := conflicts_fillTable room one
      constructor
      · rintro ⟨ret, errInfo, ran, _⟩
        rw [reportBoards_eq room] at ran
        dsimp only at ran
        split at ran
        · exact .inr ⟨room, by omega⟩
        · cases ran
      · rintro (single | ⟨_, few⟩)
        · exact absurd single one
        · have enough : (conflicts (tableAt records) records.length).length ≤ boardNum := by omega
          refine ⟨_, _, (reportBoards_eq room).trans (if_pos enough), ?_⟩
          omega
    · refine iff_of_false ?_ ?_
      · rintro ⟨ret, errInfo, ran, _⟩
        refine checkBoardsInfoArrays_full ?_ (by omega) _ ran
        rw [fillTable_length fits, full]
      · omega

def numberedBoards (count : Nat) : List DeviceInfo :=
  (List.range count).map fun place =>
    { DeviceInfo.cleared with boardId := BitVec.ofNat 32 (place + 1) }

/-- The scan for the last board of a full table reads entry 128. -/
theorem full_table_overrun : ¬ StaysInside (numberedBoards 128) := by
  rintro ⟨ret, errInfo, ran, _⟩
  have full : (numberedBoards 128).length = 128 := by simp [numberedBoards]
  refine checkBoardsInfoArrays_full ?_ (by rw [full]; decide) _ ran
  rw [fillTable_length full.le, full]

theorem stays_inside_iff_two :
    StaysInside (numberedBoards 2) ↔
      (numberedBoards 2).length = 1 ∨ (numberedBoards 2).length < boardNum ∧
        (numberedBoards 2).length + 1 ≤
          64 + (insert 0 (boardIds (numberedBoards 2)).toFinset).card :=
  stays_inside_iff (by decide) (by decide)

end Vi53xx.Lib
