import Vi53xx.Lib.BoardsProperties
import Vi53xx.Lib.HandlesProperties
import Vi53xx.Foundation.Program
import Vi53xx.Foundation.Runs

/-! A process calling the library, one call after the other, and what every
sequence of opens and closes keeps of the handle table. -/

set_option autoImplicit false

namespace Vi53xx.Lib

open Foundation

inductive Call where
  | checkBoards (env : CheckEnv)
  | deviceOpen (env : OpenEnv) (boardId : BitVec 32)
  | deviceClose (boardId : BitVec 32)
  | freeBoards (boardId : BitVec 32)

/-- A call that runs into undefined behaviour has no next state. -/
def callStep (state : LibState) : Call → Option LibState
  | .checkBoards env => (checkBoardsInfo env state).toOption.map Prod.snd
  | .deviceOpen env boardId => (vi53xxDeviceOpen env state boardId).toOption.map Prod.snd
  | .deviceClose boardId => some (vi53xxDeviceClose state boardId)
  | .freeBoards boardId => some (freeBoardInfo state boardId)

/-- The call opens a board of the table and the system does its part. -/
structure OpensBoard (state : LibState) (env : OpenEnv) (boardId : BitVec 32) : Prop where
  board : ∃ boards, searchedBoards state = .ok boards ∧ (∃ board ∈ boards, board.boardId = boardId) ∧
    0 ≤ env.openFile (devicePath boards boardId)
  memory : env.mallocOk = true

/-- The path of the board does not fit the buffer that an open writes it to, and the open
does not come back. -/
def Overruns (state : LibState) (boardId : BitVec 32) : Prop :=
  ∃ boards, searchedBoards state = .ok boards ∧ ¬ PathFits boards boardId

/-- A check and the calls that follow it, with the answer of the check. -/
def checkedRun (env : CheckEnv) (before : LibState) (calls : List Call) : Option (Int × LibState) :=
  (checkBoardsInfo env before).toOption.bind fun (ret, state) =>
    (runFrom callStep state calls).map fun final => (ret, final)

variable {state next : LibState} {env : OpenEnv} {boardId : BitVec 32}

theorem checkedRun_eq_some {env : CheckEnv} {before final : LibState} {calls : List Call} {ret : Int}
    (ran : checkedRun env before calls = some (ret, final)) :
    ∃ state, checkBoardsInfo env before = .ok (ret, state) ∧
      runFrom callStep state calls = some final := by
  obtain ⟨⟨answer, state⟩, checked, later⟩ := Option.bind_eq_some_iff.mp ran
  obtain ⟨reached, completed, same⟩ := Option.map_eq_some_iff.mp later
  obtain ⟨rfl, rfl⟩ := Prod.mk.inj same
  exact ⟨state, ok_of_toOption checked, completed⟩

theorem callStep_check {env : CheckEnv} (stepped : callStep state (.checkBoards env) = some next) :
    ∃ ret, Checked state ret next := by
  simp only [callStep, Option.map_eq_some_iff] at stepped
  obtain ⟨⟨ret, after⟩, checked, rfl⟩ := stepped
  exact ⟨ret, checkBoardsInfo_checked (ok_of_toOption checked)⟩

theorem OpensBoard.completes_or (opens : OpensBoard state env boardId) :
    (∃ next, callStep state (.deviceOpen env boardId) = some next) ∨ Overruns state boardId := by
  obtain ⟨boards, searched, _⟩ := opens.board
  by_cases fits : PathFits boards boardId
  · obtain ⟨outcome, opened⟩ := vi53xxDeviceOpen_completes env searched fits
    exact .inl ⟨outcome.2, by simp [callStep, opened, Except.toOption]⟩
  · exact .inr ⟨boards, searched, fits⟩

theorem callStep_open_fits (stepped : callStep state (.deviceOpen env boardId) = some next) :
    ¬ Overruns state boardId := by
  rintro ⟨boards, searched, long⟩
  simp [callStep, vi53xxDeviceOpen, searched, getBoardHandle_overruns long, Except.toOption] at stepped

theorem callStep_open (stepped : callStep state (.deviceOpen env boardId) = some next) :
    ∃ answer boards, vi53xxDeviceOpen env state boardId = .ok (answer, next) ∧
      searchedBoards state = .ok boards ∧
      Opened env state boardId (env.openFile (devicePath boards boardId))
        (devicePath boards boardId) answer next := by
  simp only [callStep, Option.map_eq_some_iff] at stepped
  obtain ⟨⟨answer, after⟩, opened, rfl⟩ := stepped
  have result := ok_of_toOption opened
  obtain ⟨boards, searched, _, outcome⟩ := vi53xxDeviceOpen_opened result
  exact ⟨answer, boards, result, searched, outcome⟩

theorem callStep_close (stepped : callStep state (.deviceClose boardId) = some next) :
    next = vi53xxDeviceClose state boardId ∧ Closed state boardId next := by
  simp only [callStep, Option.some.injEq] at stepped
  subst stepped
  exact ⟨rfl, vi53xxDeviceClose_closed⟩

/-! ## The handle table of a process -/

/-- What holds in every state a process can reach: a board has one slot, the
slots in use lie below `count`, and `count` is what the library searches unless
it has dropped the board table since. -/
structure Tabled (count : Int) (state : LibState) : Prop where
  keyed : Slots.Keyed DevHandle.boardId state.devHandleList
  below : Slots.Below count.toNat state.devHandleList
  counted : getAvailableBoardCount state = count ∨
    (getAvailableBoardCount state = 0 ∧ state.onlineBoardCount = 0)
  sized : ∀ info, state.boardInfo = some info → info.length = boardNum

theorem tabled_of_empty (empty : state.devHandleList = Slots.empty)
    (sized : ∀ info, state.boardInfo = some info → info.length = boardNum) :
    Tabled (getAvailableBoardCount state) state := by
  refine ⟨?_, ?_, .inl rfl, sized⟩
  · rw [empty]
    exact Slots.keyed_empty
  · rw [empty]
    exact Slots.below_empty

theorem Tabled.absent {count : Int} (tabled : Tabled count state)
    (counted : getAvailableBoardCount state = count)
    (missing : getDevHandle state boardId = none) :
    ∀ slot handle, state.devHandleList slot = some handle → handle.boardId ≠ boardId := by
  intro slot handle held same
  have low := tabled.below slot handle held
  rw [← counted] at low
  have unwanted := Slots.lookup_eq_none_iff.mp missing slot handle low held
  simp [same] at unwanted

theorem Tabled.opened {count : Int} {fd : Int} {devName : List Char} {answer : OpenReturn}
    (tabled : Tabled count state) (opened : Opened env state boardId fd devName answer next) :
    Tabled count next := by
  cases opened with
  | noBoards uncounted =>
      unfold received
      split
      · exact tabled
      · exact ⟨tabled.keyed, tabled.below, tabled.counted, tabled.sized⟩
  | openFailed => exact tabled
  | alreadyOpen => exact ⟨tabled.keyed, tabled.below, tabled.counted, tabled.sized⟩
  | outOfMemory counted | fallThrough counted =>
      rcases tabled.counted with same | ⟨zero, _⟩
      · exact ⟨tabled.keyed, tabled.below, .inl same, tabled.sized⟩
      · exact absurd zero counted
  | stored counted nonnegative absent allocated free =>
      rcases tabled.counted with same | ⟨zero, _⟩
      · obtain ⟨low, _⟩ := Slots.freeSlot_some free
        rw [same] at low
        exact ⟨tabled.keyed.store (tabled.absent same absent), tabled.below.store low, .inl same,
          tabled.sized⟩
      · exact absurd zero counted

theorem Tabled.closed {count : Int} (tabled : Tabled count state)
    (closed : Closed state boardId next) : Tabled count next := by
  have table : Slots.Keyed DevHandle.boardId next.devHandleList ∧
      Slots.Below count.toNat next.devHandleList := by
    rcases closed.devHandleList with ⟨same, _⟩ | released
    · rw [same]
      exact ⟨tabled.keyed, tabled.below⟩
    · rw [released]
      exact ⟨tabled.keyed.release, tabled.below.release⟩
  by_cases drops : Drops state
  · obtain ⟨available, info, _, online⟩ := closed.drops drops
    refine ⟨table.1, table.2, .inr ⟨?_, online⟩, by simp [info]⟩
    simp [getAvailableBoardCount, available]
  · obtain ⟨available, info, _, _⟩ := closed.keeps drops
    rcases tabled.counted with same | ⟨zero, _⟩
    · refine ⟨table.1, table.2, .inl ?_, by simpa [info] using tabled.sized⟩
      simpa [getAvailableBoardCount, available] using same
    · exact absurd (.inl zero) drops

def InOrder (state : LibState) : Prop := ∃ count, Tabled count state

theorem InOrder.step {call : Call} (ordered : InOrder state)
    (stepped : callStep state call = some next) : InOrder next := by
  obtain ⟨count, tabled⟩ := ordered
  cases call with
  | checkBoards env =>
      obtain ⟨ret, checked⟩ := callStep_check stepped
      cases flag : state.initCheckOk with
      | false =>
          exact ⟨_, tabled_of_empty (checked.reset flag).1 (checked.sized tabled.sized)⟩
      | true =>
          cases checked with
          | alreadyOk => exact ⟨count, tabled⟩
          | outOfMemory clear | noBoards clear | boards clear => simp [flag] at clear
  | deviceOpen env boardId =>
      obtain ⟨answer, boards, _, _, outcome⟩ := callStep_open stepped
      exact ⟨count, tabled.opened outcome⟩
  | deviceClose boardId => exact ⟨count, tabled.closed (callStep_close stepped).2⟩
  | freeBoards boardId =>
      cases stepped
      exact ⟨_, tabled_of_empty rfl (by simp [freeBoardInfo, freeMem])⟩

theorem inOrder_of_reached {calls : List Call}
    (reached : runFrom callStep LibState.loaded calls = some state) : InOrder state := by
  refine runFrom_preserves InOrder ?_ ?_ reached
  · intro state call next ordered stepped
    exact ordered.step stepped
  · exact ⟨_, tabled_of_empty rfl (by simp [LibState.loaded])⟩

theorem inOrder_of_checked {env : CheckEnv} {earlier : List Call} {before : LibState} {ret : Int}
    (reached : runFrom callStep LibState.loaded earlier = some before)
    (checked : checkBoardsInfo env before = .ok (ret, state)) : InOrder state := by
  have ran : runFrom callStep LibState.loaded (earlier ++ [.checkBoards env]) = some state := by
    simp [runFrom_append, reached, runFrom, callStep, checked, Except.toOption]
  exact inOrder_of_reached ran

theorem InOrder.throughout {calls : List Call} (ordered : InOrder state) :
    Throughout callStep InOrder state calls := by
  have unguarded : EachStep callStep (fun _ _ => True) state calls :=
    eachStep_of_forall fun _ _ => trivial
  refine throughout_of_preserved ?_ ordered unguarded
  intro state call next ordered _ stepped
  exact ordered.step stepped

theorem Tabled.getDevHandle_eq {count : Int} (tabled : Tabled count state)
    (counted : getAvailableBoardCount state = count) :
    getDevHandle state boardId = openHandle state boardId := by
  cases found : openHandle state boardId with
  | none =>
      refine Slots.lookup_eq_none_iff.mpr ?_
      intro slot handle _ held
      exact Slots.lookup_eq_none_iff.mp found slot handle slot.isLt held
  | some handle =>
      obtain ⟨slot, _, held, matched⟩ := (Slots.lookup_key_eq_some_iff tabled.keyed).mp found
      refine (Slots.lookup_key_eq_some_iff tabled.keyed).mpr ⟨slot, ?_, held, matched⟩
      rw [counted]
      exact tabled.below slot handle held

/-! ## A process with one board, and one with two -/

/-- Procfs with a mapping file that names the board 7. -/
def oneBoard : CheckEnv where
  procfs path :=
    if path = mapingPath then some "es5341     0:7:0xb100\n".toList else none
  mallocInfo := true
  mallocErrorInfo := true
  line := List.replicate 256 CText.nul
  pastEnd := DeviceInfo.cleared

/-- Procfs with a mapping file of the boards 7 and 8. -/
def twoBoards : CheckEnv := { oneBoard with
  procfs := fun path =>
    if path = mapingPath then some "es5341     0:7:0xb100\nes5341     1:8:0xb100\n".toList
    else none }

def opensAs (fd : Int) : OpenEnv := ⟨fun _ => fd, true⟩

theorem oneBoard_checked :
    ∃ state, checkBoardsInfo oneBoard LibState.loaded = .ok (0, state) := by
  have seen : (checkedRun oneBoard LibState.loaded []).map Prod.fst = some 0 := by decide +kernel
  obtain ⟨⟨ret, reached⟩, ran, rfl⟩ := Option.map_eq_some_iff.mp seen
  obtain ⟨state, checked, _⟩ := checkedRun_eq_some ran
  exact ⟨state, checked⟩

theorem oneBoard_opens (checked : checkBoardsInfo oneBoard LibState.loaded = .ok (0, state)) :
    OpensBoard state (opensAs 3) 7 := by
  have seen : ((checkBoardsInfo oneBoard LibState.loaded).toOption.bind fun (_, state) =>
      (searchedBoards state).toOption).map (fun boards => boards.map DeviceInfo.boardId) =
      some [7] := by decide +kernel
  rw [checked] at seen
  obtain ⟨boards, searched, ids⟩ := Option.map_eq_some_iff.mp seen
  have known : (7 : BitVec 32) ∈ boards.map DeviceInfo.boardId := by simp [ids]
  obtain ⟨board, member, named⟩ := List.mem_map.mp known
  exact ⟨⟨boards, ok_of_toOption searched, ⟨board, member, named⟩, Int.natCast_nonneg 3⟩, rfl⟩

theorem oneBoard_opened (checked : checkBoardsInfo oneBoard LibState.loaded = .ok (0, state))
    (stepped : callStep state (.deviceOpen (opensAs 3) 7) = some next) :
    openHandle next 7 ≠ none := by
  have seen : (checkedRun oneBoard LibState.loaded [.deviceOpen (opensAs 3) 7]).map
      (fun (_, reached) => (openHandle reached 7).isSome) = some true := by decide +kernel
  simp only [checkedRun, checked, Except.toOption, Option.bind_some, runFrom, stepped,
    Option.map_some, Option.some.injEq] at seen
  exact Option.isSome_iff_ne_none.mp seen

end Vi53xx.Lib
