import Vi53xx.Lib.OnlineCountProperties
import Vi53xx.Foundation.HandleMap

/-! In balanced use the handle table is a map from open boards to descriptors, as long as
the paths of the boards fit the buffers they are written to. A slot is always found
because the table has a slot for each board, and the board table is never released
because each open sets the counter past all of them. -/

set_option autoImplicit false

namespace Vi53xx.Lib

open Foundation

/-! ## The purpose of the table -/

/-- What a call means for the map, when `boards` is the board table. -/
def tableEvent (boards : List DeviceInfo) : Call → Option (HandleEvent (BitVec 32) Int)
  | .deviceOpen env boardId => some (.opens boardId (env.openFile (devicePath boards boardId)))
  | .deviceClose boardId => some (.closes boardId)
  | _ => none

def tableStep (boards : List DeviceInfo) (map : HandleMap (BitVec 32) Int) (call : Call) :
    HandleMap (BitVec 32) Int :=
  match tableEvent boards call with
  | some event => map.apply event
  | none => map

/-- Opens of boards of the table that succeed, and closes of boards that are open. -/
def Balanced (boards : List DeviceInfo) (map : HandleMap (BitVec 32) Int) : Call → Prop
  | .deviceOpen env boardId => (∃ board ∈ boards, board.boardId = boardId) ∧
      0 ≤ env.openFile (devicePath boards boardId) ∧ env.mallocOk = true
  | .deviceClose boardId => map boardId ≠ none
  | _ => False

/-- The path of a board that is opened fits its buffer. -/
def OpenFits (boards : List DeviceInfo) : Call → Prop
  | .deviceOpen _ boardId => PathFits boards boardId
  | _ => True

/-- The library answers as the map does, and still has its board table. -/
structure Represents (boards : List DeviceInfo) (map : HandleMap (BitVec 32) Int)
    (state : LibState) : Prop where
  handles : ∀ board ∈ boards,
    (getDevHandle state board.boardId).map DevHandle.devHandle = map board.boardId
  oneSlot : Slots.Keyed DevHandle.boardId state.devHandleList
  below : Slots.Below boards.length state.devHandleList
  available : state.availableBoardCount = boards.length
  info : state.boardInfo.isSome = true
  flagged : state.initCheckOk = true

def NeverFallsThrough (state : LibState) : Call → Prop
  | .deviceOpen env boardId => ∀ answer next,
      vi53xxDeviceOpen env state boardId = .ok (answer, next) → answer ≠ .fallThrough
  | _ => True

/-- The calls complete; after each of them the library answers as the map of the calls so
far does, and no open falls through. -/
structure TableIsMap (boards : List DeviceInfo) (state : LibState) (calls : List Call) : Prop where
  represents : ∀ done rest, calls = done ++ rest →
    ∃ reached, runFrom callStep state done = some reached ∧
      Represents boards (HandleMap.replay (done.filterMap (tableEvent boards))) reached
  neverFalls : EachStep callStep NeverFallsThrough state calls

theorem foldl_tableStep {boards : List DeviceInfo} {calls : List Call}
    {map : HandleMap (BitVec 32) Int} :
    calls.foldl (tableStep boards) map =
      (calls.filterMap (tableEvent boards)).foldl HandleMap.apply map := by
  induction calls generalizing map with
  | nil => rfl
  | cons call rest ih =>
      rw [List.foldl_cons, ih]
      cases event : tableEvent boards call <;> simp [tableStep, event]

/-! ## The simulation -/

/-- What balanced calls keep: besides the answers, that only boards of the table
are open, and that the counter stays ahead of the open boards. -/
structure Simulates (boards : List DeviceInfo) (map : HandleMap (BitVec 32) Int)
    (state : LibState) : Prop where
  tabled : Tabled boards.length state
  searched : searchedBoards state = .ok boards
  flagged : state.initCheckOk = true
  handles : ∀ boardId, (openHandle state boardId).map DevHandle.devHandle = map boardId
  known : ∀ slot handle, state.devHandleList slot = some handle →
    handle.boardId ∈ boards.map DeviceInfo.boardId
  ahead : state.devHandleList.occupied = 0 ∨
    (state.devHandleList.occupied : Int) < state.onlineBoardCount

variable {boards : List DeviceInfo} {map : HandleMap (BitVec 32) Int} {state next : LibState}
  {boardId : BitVec 32}

theorem searchedBoards_congr (available : next.availableBoardCount = state.availableBoardCount)
    (info : next.boardInfo = state.boardInfo) : searchedBoards next = searchedBoards state := by
  simp only [searchedBoards, available, info]

theorem Simulates.represents (simulates : Simulates boards map state) (known : boards ≠ []) :
    Represents boards map state := by
  obtain ⟨info, held, available, _⟩ := searchedBoards_ok simulates.searched known
  obtain ⟨counted, _⟩ := simulates.tabled.searched simulates.searched known
  refine ⟨?_, simulates.tabled.keyed, simulates.tabled.below, available, by simp [held],
    simulates.flagged⟩
  intro board member
  rw [simulates.tabled.getDevHandle_eq counted]
  exact simulates.handles board.boardId

theorem Simulates.absent_iff (simulates : Simulates boards map state) :
    openHandle state boardId = none ↔ map boardId = none := by
  rw [← simulates.handles boardId, Option.map_eq_none_iff]

/-- A listed board that has no handle finds a free slot. -/
theorem Simulates.free (simulates : Simulates boards map state)
    (listed : ∃ board ∈ boards, board.boardId = boardId)
    (fresh : ∀ slot handle, state.devHandleList slot = some handle → handle.boardId ≠ boardId) :
    ∃ slot, state.devHandleList.freeSlot boards.length = some slot := by
  obtain ⟨board, member, named⟩ := listed
  obtain ⟨info, held, _, taken⟩ := searchedBoards_ok simulates.searched (List.ne_nil_of_mem member)
  have fits : boards.length ≤ maxDevHandle := by
    have few : boards.length ≤ info.length := by
      rw [taken]
      exact List.length_take_le' _ _
    rw [simulates.tabled.sized info held] at few
    exact few
  refine Slots.freeSlot_isSome simulates.tabled.keyed fits ?_ simulates.known ?_ fresh
  · exact Nat.le_of_eq (List.length_map _)
  · rw [← named]
    exact List.mem_map_of_mem member

theorem Simulates.stored {env : OpenEnv} {fd : Int} {devName : List Char} {answer : OpenReturn}
    (simulates : Simulates boards map state) (listed : ∃ board ∈ boards, board.boardId = boardId)
    (nonnegative : 0 ≤ fd) (memory : env.mallocOk = true) (closed : map boardId = none)
    (opened : Opened env state boardId fd devName answer next) :
    answer ≠ .fallThrough ∧ Simulates boards (map.apply (.opens boardId fd)) next := by
  have absent := simulates.absent_iff.mpr closed
  have unused := Slots.lookup_eq_none_iff.mp absent
  have fresh : ∀ slot handle, state.devHandleList slot = some handle → handle.boardId ≠ boardId := by
    intro slot handle held
    simpa using unused slot handle slot.isLt held
  obtain ⟨slot, free⟩ := simulates.free listed fresh
  obtain ⟨board, member, named⟩ := listed
  obtain ⟨counted, _⟩ := simulates.tabled.searched simulates.searched (List.ne_nil_of_mem member)
  have positive := List.length_pos_of_mem member
  have tabled := simulates.tabled.opened opened
  cases opened with
  | noBoards uncounted => omega
  | openFailed _ failed => omega
  | alreadyOpen _ _ found =>
      rw [simulates.tabled.getDevHandle_eq counted, absent] at found
      cases found
  | outOfMemory _ _ _ exhausted => simp [memory] at exhausted
  | fallThrough _ _ _ _ full =>
      rw [counted, Int.toNat_natCast, free] at full
      cases full
  | stored _ _ _ _ given =>
      rw [counted, Int.toNat_natCast, free] at given
      cases given
      obtain ⟨_, empty⟩ := Slots.freeSlot_some free
      refine ⟨by simp, tabled, simulates.searched, simulates.flagged, ?_, ?_, ?_⟩
      · intro other
        unfold openHandle
        rw [Slots.lookup_store_key simulates.tabled.keyed empty slot.isLt fresh]
        split
        · next same =>
            rw [← same, HandleMap.apply_opens_self closed]
            rfl
        · next different =>
            rw [HandleMap.apply_opens_other (Ne.symm different)]
            exact simulates.handles other
      · intro place handle held
        rcases Slots.store_eq_some_iff.mp held with ⟨_, rfl⟩ | ⟨_, before⟩
        · rw [← named]
          exact List.mem_map_of_mem member
        · exact simulates.known place handle before
      · right
        have few : (state.devHandleList.store slot ⟨fd, boardId, devName⟩).occupied ≤
            boards.length := Slots.occupied_le tabled.below
        dsimp only
        omega

theorem Simulates.opened_again {env : OpenEnv} {fd : Int} {devName : List Char}
    {answer : OpenReturn} (simulates : Simulates boards map state)
    (listed : ∃ board ∈ boards, board.boardId = boardId) (isOpen : map boardId ≠ none)
    (opened : Opened env state boardId fd devName answer next) :
    answer ≠ .fallThrough ∧ Simulates boards (map.apply (.opens boardId fd)) next := by
  obtain ⟨board, member, named⟩ := listed
  obtain ⟨counted, _⟩ := simulates.tabled.searched simulates.searched (List.ne_nil_of_mem member)
  have tabled := simulates.tabled.opened opened
  have held : openHandle state boardId ≠ none := mt simulates.absent_iff.mp isOpen
  rw [← simulates.tabled.getDevHandle_eq counted] at held
  rw [HandleMap.apply_opens_open isOpen]
  cases opened with
  | noBoards uncounted =>
      have positive := List.length_pos_of_mem member
      omega
  | outOfMemory _ _ absent | stored _ _ absent | fallThrough _ _ absent => exact absurd absent held
  | openFailed => exact ⟨by simp, simulates⟩
  | alreadyOpen =>
      exact ⟨by simp, tabled, simulates.searched, simulates.flagged, simulates.handles,
        simulates.known, simulates.ahead⟩

theorem Simulates.closed (simulates : Simulates boards map state) (isOpen : map boardId ≠ none)
    (closed : Closed state boardId next) :
    Simulates boards (map.apply (.closes boardId)) next := by
  have tabled := simulates.tabled.closed closed
  obtain ⟨handle, held⟩ := Option.ne_none_iff_exists'.mp (mt simulates.absent_iff.mp isOpen)
  obtain ⟨slot, _, here, matched⟩ := Slots.lookup_some held
  have freed := Slots.occupied_release_key simulates.tabled.keyed here (by simpa using matched)
  have ahead := simulates.ahead
  obtain ⟨_, nonzero⟩ := simulates.tabled.counts (by omega) held
  -- the counter exceeds the one board that is at least open, so it stays positive
  have kept : ¬ Drops state := by
    unfold Drops getOnlineBoardCount
    split <;> omega
  have online : getOnlineBoardCount state = state.onlineBoardCount := by
    unfold getOnlineBoardCount
    split <;> omega
  obtain ⟨available, info, flagged, counter⟩ := closed.keeps kept
  have released := closed.devHandleList_of_kept kept
  refine ⟨tabled, ?_, ?_, ?_, ?_, ?_⟩
  · rw [searchedBoards_congr available info]
    exact simulates.searched
  · rw [flagged]
    exact simulates.flagged
  · intro other
    unfold openHandle
    rw [released, Slots.lookup_release_key]
    split
    · next same =>
        rw [same, HandleMap.apply_closes_self]
        rfl
    · next different =>
        rw [HandleMap.apply_closes_other different]
        exact simulates.handles other
  · intro place other there
    rw [released] at there
    exact simulates.known place other (Slots.release_eq_some_iff.mp there).1
  · rw [released, counter]
    omega

theorem Simulates.step {call : Call} (simulates : Simulates boards map state)
    (balanced : Balanced boards map call) (fits : OpenFits boards call) :
    NeverFallsThrough state call ∧
      ∃ next, callStep state call = some next ∧
        Simulates boards (tableStep boards map call) next := by
  cases call with
  | checkBoards | freeBoards => cases balanced
  | deviceClose boardId =>
      exact ⟨trivial, _, rfl, simulates.closed balanced vi53xxDeviceClose_closed⟩
  | deviceOpen env boardId =>
      obtain ⟨listed, nonnegative, memory⟩ := balanced
      have step : ∀ answer next, vi53xxDeviceOpen env state boardId = .ok (answer, next) →
          answer ≠ .fallThrough ∧
            Simulates boards (tableStep boards map (.deviceOpen env boardId)) next := by
        intro answer next result
        obtain ⟨others, again, _, opened⟩ := vi53xxDeviceOpen_opened result
        rw [simulates.searched] at again
        cases again
        by_cases closed : map boardId = none
        · exact simulates.stored listed nonnegative memory closed opened
        · exact simulates.opened_again listed closed opened
      obtain ⟨⟨answer, next⟩, result⟩ := vi53xxDeviceOpen_completes env simulates.searched fits
      refine ⟨fun answer next result => (step answer next result).1, next, ?_,
        (step answer next result).2⟩
      simp [callStep, result, Except.toOption]

theorem Simulates.stuck {call : Call} (simulates : Simulates boards map state)
    (long : ¬ OpenFits boards call) : callStep state call = none := by
  cases call with
  | checkBoards | deviceClose | freeBoards => exact absurd trivial long
  | deviceOpen env boardId =>
      cases stepped : callStep state (.deviceOpen env boardId) with
      | none => rfl
      | some next => exact absurd ⟨boards, simulates.searched, long⟩ (callStep_open_fits stepped)

theorem Simulates.start {before : LibState} {ret : Int} (checked : Checked before ret state)
    (clear : before.initCheckOk = false) (searched : searchedBoards state = .ok boards)
    (known : boards ≠ []) : Simulates boards HandleMap.allClosed state := by
  obtain ⟨empty, _⟩ := checked.reset clear
  have ready : state.initCheckOk = true ∧
      ∀ info, state.boardInfo = some info → info.length = boardNum := by
    cases checked with
    | alreadyOk flagged => simp [clear] at flagged
    | outOfMemory _ unfilled =>
        refine ⟨rfl, ?_⟩
        intro info held
        rw [unfilled info held]
        exact fillTable_length (Nat.zero_le _)
    | noBoards _ fits | boards _ _ fits =>
        refine ⟨rfl, ?_⟩
        intro info held
        cases held
        exact fillTable_length fits
  have tabled := tabled_of_empty empty ready.2
  obtain ⟨_, counted⟩ := tabled.searched searched known
  rw [counted] at tabled
  refine ⟨tabled, searched, ready.1, ?_, ?_, ?_⟩
  · intro boardId
    simp [openHandle, empty, HandleMap.allClosed]
  · intro slot handle held
    simp [empty] at held
  · simp [empty]

/-- After a check that loads the board table, a balanced run treats the handle table as a
map exactly when the paths of the boards that it opens fit their buffers. -/
theorem handle_table_is_map_iff {env : CheckEnv} {before state : LibState} {calls : List Call}
    (clear : before.initCheckOk = false) (checked : checkBoardsInfo env before = .ok (0, state))
    (searched : searchedBoards state = .ok boards) (known : boards ≠ [])
    (balanced : EachStep (fun map call => some (tableStep boards map call)) (Balanced boards)
      HandleMap.allClosed calls) :
    TableIsMap boards state calls ↔ ∀ call ∈ calls, OpenFits boards call := by
  have start := Simulates.start (checkBoardsInfo_checked checked) clear searched known
  constructor
  · intro isMap
    have moves : ∀ map state call, Simulates boards map state → Balanced boards map call →
        OpenFits boards call → ∃ next, callStep state call = some next ∧
          Simulates boards (tableStep boards map call) next :=
      fun _ _ _ simulates balanced fits => (simulates.step balanced fits).2
    have stuck : ∀ map state call, Simulates boards map state → Balanced boards map call →
        ¬ OpenFits boards call → callStep state call = none :=
      fun _ _ _ simulates _ long => simulates.stuck long
    obtain ⟨final, ran, _⟩ := isMap.represents calls [] (List.append_nil calls).symm
    exact (simulation_completes_iff moves stuck start balanced).mp ⟨final, ran⟩
  · intro fit
    have progress : ∀ map state call, Simulates boards map state →
        Balanced boards map call ∧ OpenFits boards call →
          ∃ next, callStep state call = some next ∧
            Simulates boards (tableStep boards map call) next :=
      fun _ _ _ simulates allowed => (simulates.step allowed.1 allowed.2).2
    have allowed := balanced.and (eachStep_of_forall fit)
    constructor
    · intro done rest split
      obtain ⟨reached, ran, simulates⟩ := simulation progress start allowed done rest split
      rw [foldl_tableStep] at simulates
      exact ⟨reached, ran, simulates.represents known⟩
    · refine simulation_eachStep progress ?_ start allowed
      intro map state call simulates allowed
      exact (simulates.step allowed.1 allowed.2).1

/-- Both boards of a table are opened, one is closed and opened again, the other one is
opened twice and closed. -/
def twoBoardsCalls : List Call :=
  [.deviceOpen (opensAs 3) 7, .deviceOpen (opensAs 4) 8, .deviceClose 7,
    .deviceOpen (opensAs 5) 7, .deviceOpen (opensAs 6) 8, .deviceClose 8]

theorem twoBoards_loaded : ∃ state boards,
    checkBoardsInfo twoBoards LibState.loaded = .ok (0, state) ∧ searchedBoards state = .ok boards ∧
      boards.map DeviceInfo.boardId = [7, 8] ∧ PathFits boards 7 ∧ PathFits boards 8 := by
  have seen : ((checkBoardsInfo twoBoards LibState.loaded).toOption.bind fun checked =>
      (searchedBoards checked.2).toOption.map fun boards => (checked.1, boards.map DeviceInfo.boardId,
        decide (PathFits boards 7), decide (PathFits boards 8))) =
      some (0, [7, 8], true, true) := by
    decide +kernel
  obtain ⟨⟨ret, state⟩, checked, seen⟩ := Option.bind_eq_some_iff.mp seen
  obtain ⟨boards, searched, observed⟩ := Option.map_eq_some_iff.mp seen
  simp only [Prod.mk.injEq, decide_eq_true_eq] at observed
  obtain ⟨rfl, ids, first, second⟩ := observed
  exact ⟨state, boards, ok_of_toOption checked, ok_of_toOption searched, ids, first, second⟩

theorem twoBoardsCalls_balanced (ids : boards.map DeviceInfo.boardId = [7, 8]) :
    EachStep (fun map call => some (tableStep boards map call)) (Balanced boards)
      HandleMap.allClosed twoBoardsCalls := by
  have listed : ∀ boardId : BitVec 32, boardId ∈ ([7, 8] : List (BitVec 32)) →
      ∃ board ∈ boards, board.boardId = boardId := by
    intro boardId known
    rw [← ids] at known
    exact List.mem_map.mp known
  have first := listed 7 (by decide)
  have second := listed 8 (by decide)
  refine ⟨⟨first, Int.natCast_nonneg 3, rfl⟩, fun _ one => ?_⟩
  cases one
  refine ⟨⟨second, Int.natCast_nonneg 4, rfl⟩, fun _ two => ?_⟩
  cases two
  refine ⟨?_, fun _ three => ?_⟩
  · simp [Balanced, tableStep, tableEvent, HandleMap.apply, HandleMap.allClosed]
  cases three
  refine ⟨⟨first, Int.natCast_nonneg 5, rfl⟩, fun _ four => ?_⟩
  cases four
  refine ⟨⟨second, Int.natCast_nonneg 6, rfl⟩, fun _ five => ?_⟩
  cases five
  refine ⟨?_, fun _ _ => trivial⟩
  simp [Balanced, tableStep, tableEvent, HandleMap.apply, HandleMap.allClosed]

theorem handle_table_is_map_iff_reopened : ∃ state boards,
    checkBoardsInfo twoBoards LibState.loaded = .ok (0, state) ∧
      boards.map DeviceInfo.boardId = [7, 8] ∧ TableIsMap boards state twoBoardsCalls := by
  obtain ⟨state, boards, checked, searched, ids, first, second⟩ := twoBoards_loaded
  have known : boards ≠ [] := by
    rintro rfl
    cases ids
  refine ⟨state, boards, checked, ids,
    (handle_table_is_map_iff rfl checked searched known (twoBoardsCalls_balanced ids)).mpr ?_⟩
  simp only [twoBoardsCalls, List.forall_mem_cons, OpenFits, List.not_mem_nil, IsEmpty.forall_iff,
    implies_true, and_true, true_and]
  exact ⟨first, second, first, second⟩

/-- Procfs with a mapping file of the one board 7, whose first word has 28 characters. -/
def longName : CheckEnv := { oneBoard with
  procfs := fun path =>
    if path = mapingPath then some "es5341_long0:7:b100_revision\n".toList else none }

/-- The name fits the table, and the path `/dev/es5341_long0:7:b100_revision_0` is too
long for the buffer of the first open. -/
theorem open_overruns_path :
    ∃ state boards, LibState.loaded.initCheckOk = false ∧
      checkBoardsInfo longName LibState.loaded = .ok (0, state) ∧
      searchedBoards state = .ok boards ∧ boards ≠ [] ∧
      EachStep (fun map call => some (tableStep boards map call)) (Balanced boards)
        HandleMap.allClosed [.deviceOpen (opensAs 3) 7] ∧
      ¬ TableIsMap boards state [.deviceOpen (opensAs 3) 7] := by
  have seen : ((checkBoardsInfo longName LibState.loaded).toOption.bind fun checked =>
      (searchedBoards checked.2).toOption.map fun boards => (checked.1, boards.map DeviceInfo.boardId,
        (callStep checked.2 (.deviceOpen (opensAs 3) 7)).isSome)) = some (0, [7], false) := by
    decide +kernel
  obtain ⟨⟨ret, state⟩, checked, seen⟩ := Option.bind_eq_some_iff.mp seen
  obtain ⟨boards, searched, observed⟩ := Option.map_eq_some_iff.mp seen
  simp only [Prod.mk.injEq, Option.isSome_eq_false_iff, Option.isNone_iff_eq_none] at observed
  obtain ⟨rfl, ids, stuck⟩ := observed
  have listed : (7 : BitVec 32) ∈ boards.map DeviceInfo.boardId := by simp [ids]
  obtain ⟨board, member, named⟩ := List.mem_map.mp listed
  refine ⟨state, boards, rfl, ok_of_toOption checked, ok_of_toOption searched,
    List.ne_nil_of_mem member,
    ⟨⟨⟨board, member, named⟩, Int.natCast_nonneg 3, rfl⟩, fun _ _ => trivial⟩, ?_⟩
  intro isMap
  obtain ⟨reached, ran, _⟩ := isMap.represents _ [] (List.append_nil _).symm
  simp only [runFrom, stuck, Option.bind_none, reduceCtorEq] at ran

end Vi53xx.Lib
