import Vi53xx.Lib.CloseProperties

/-! The counter of open boards against the number of boards that are open. An
open sets the counter past the size of the board table, so the two part with the
first board that is opened. -/

set_option autoImplicit false

namespace Vi53xx.Lib

open Foundation

variable {state next : LibState} {count : Int} {boardId : BitVec 32}

def CountsOpen (state : LibState) : Prop :=
  state.onlineBoardCount = state.devHandleList.occupied

def Released (state : LibState) : Prop :=
  state.boardInfo = none ∧ state.availableBoardCount = 0 ∧ state.initCheckOk = false

/-- A close of an open board releases the board table when it is the last one. -/
def ReleasesLast (state : LibState) : Call → Prop
  | .deviceClose boardId =>
      Released (vi53xxDeviceClose state boardId) ↔ state.devHandleList.occupied = 1
  | _ => True

/-- Opens are of boards of the table and succeed, closes are of open boards. -/
def Regular (state : LibState) : Call → Prop
  | .deviceOpen env boardId => OpensBoard state env boardId
  | .deviceClose boardId => openHandle state boardId ≠ none
  | _ => False

/-- An open is of a board that is open, or ends the run. -/
def OpensNothingNew (state : LibState) : Call → Prop
  | .deviceOpen _ boardId => openHandle state boardId ≠ none ∨ Overruns state boardId
  | _ => True

theorem Tabled.searched {boards : List DeviceInfo} (tabled : Tabled count state)
    (searched : searchedBoards state = .ok boards) (known : boards ≠ []) :
    getAvailableBoardCount state = boards.length ∧ count = boards.length := by
  obtain ⟨info, held, available, prefix_⟩ := searchedBoards_ok searched known
  have positive : 0 < boards.length := List.length_pos_iff.mpr known
  have few : boards.length ≤ info.length := by
    rw [prefix_]
    exact List.length_take_le' _ _
  have bounded : boards.length ≤ maxDevHandle := by
    rw [tabled.sized info held] at few
    exact few
  have counted : getAvailableBoardCount state = boards.length := by
    unfold getAvailableBoardCount
    rw [available]
    split <;> omega
  refine ⟨counted, ?_⟩
  rcases tabled.counted with same | ⟨zero, _⟩ <;> omega

theorem Tabled.opened_new {env : OpenEnv} {fd : Int} {devName : List Char} {answer : OpenReturn}
    (tabled : Tabled count state) (counted : getAvailableBoardCount state = count)
    (positive : 0 < count) (nonnegative : 0 ≤ fd) (memory : env.mallocOk = true)
    (absent : openHandle state boardId = none)
    (opened : Opened env state boardId fd devName answer next) : ¬ CountsOpen next := by
  have few : next.devHandleList.occupied ≤ count.toNat := Slots.occupied_le (tabled.opened opened).below
  rw [← tabled.getDevHandle_eq counted] at absent
  have online : next.onlineBoardCount = (getAvailableBoardCount state).toNat + 1 := by
    cases opened with
    | noBoards uncounted => omega
    | openFailed _ failed => omega
    | alreadyOpen _ _ found => simp [absent] at found
    | outOfMemory _ _ _ exhausted => simp [memory] at exhausted
    | stored | fallThrough => rfl
  unfold CountsOpen
  rw [online, counted]
  omega

theorem Opened.already {env : OpenEnv} {fd : Int} {devName : List Char} {answer : OpenReturn}
    {handle : DevHandle} (opened : Opened env state boardId fd devName answer next)
    (found : getDevHandle state boardId = some handle) :
    next.devHandleList = state.devHandleList ∧ next.onlineBoardCount = state.onlineBoardCount := by
  cases opened with
  | noBoards =>
      unfold received
      split <;> exact ⟨rfl, rfl⟩
  | openFailed | alreadyOpen => exact ⟨rfl, rfl⟩
  | outOfMemory _ _ absent | stored _ _ absent | fallThrough _ _ absent =>
      simp [absent] at found

theorem CountsOpen.positive {handle : DevHandle} (counts : CountsOpen state)
    (held : openHandle state boardId = some handle) : 0 < state.onlineBoardCount := by
  obtain ⟨slot, _, here, _⟩ := Slots.lookup_some held
  have used : state.devHandleList.occupied ≠ 0 := by
    intro unused
    simp [Slots.occupied_eq_zero_iff.mp unused slot] at here
  rw [counts]
  omega

theorem Tabled.close_counts {handle : DevHandle} (tabled : Tabled count state)
    (counts : CountsOpen state) (held : openHandle state boardId = some handle)
    (closed : Closed state boardId next) : CountsOpen next := by
  have positive := counts.positive held
  obtain ⟨_, nonzero⟩ := tabled.counts (Int.ne_of_gt positive) held
  have online : getOnlineBoardCount state = state.onlineBoardCount := by
    unfold getOnlineBoardCount
    split <;> omega
  obtain ⟨slot, _, here, matched⟩ := Slots.lookup_some held
  have freed := Slots.occupied_release_key tabled.keyed here (by simpa using matched)
  have released : next.devHandleList =
      state.devHandleList.release fun handle => handle.boardId == boardId := by
    rcases closed.devHandleList with ⟨_, zero | zero⟩ | released
    · exact absurd zero nonzero
    · omega
    · exact released
  unfold CountsOpen at counts ⊢
  rw [released]
  by_cases drops : Drops state
  · obtain ⟨_, _, _, zero⟩ := closed.drops drops
    rcases drops with uncounted | one
    · exact absurd uncounted nonzero
    · omega
  · obtain ⟨_, _, _, fewer⟩ := closed.keeps drops
    omega

theorem Tabled.close_releases {handle : DevHandle} (tabled : Tabled count state)
    (counts : CountsOpen state) (held : openHandle state boardId = some handle)
    (closed : Closed state boardId next) :
    Released next ↔ state.devHandleList.occupied = 1 := by
  have positive := counts.positive held
  obtain ⟨_, nonzero⟩ := tabled.counts (Int.ne_of_gt positive) held
  have exactly : Drops state ↔ state.devHandleList.occupied = 1 := by
    unfold CountsOpen at counts
    unfold Drops getOnlineBoardCount
    split <;> omega
  rw [← exactly]
  constructor
  · intro released
    by_cases drops : Drops state
    · exact drops
    · obtain ⟨available, _, _, _⟩ := closed.keeps drops
      obtain ⟨_, zero, _⟩ := released
      rw [available] at zero
      simp [getAvailableBoardCount, zero] at nonzero
  · intro drops
    obtain ⟨available, info, clear, _⟩ := closed.drops drops
    exact ⟨info, available, clear⟩

theorem Regular.opensNothingNew_of_stuck {call : Call} (regular : Regular state call)
    (stuck : callStep state call = none) : OpensNothingNew state call := by
  cases call with
  | checkBoards | freeBoards => cases regular
  | deviceClose boardId => cases stuck
  | deviceOpen env boardId =>
      rcases regular.completes_or with ⟨next, stepped⟩ | overruns
      · rw [stepped] at stuck
        cases stuck
      · exact .inr overruns

theorem InOrder.counts_iff {call : Call} (ordered : InOrder state) (counts : CountsOpen state)
    (regular : Regular state call) (stepped : callStep state call = some next) :
    CountsOpen next ↔ OpensNothingNew state call := by
  obtain ⟨count, tabled⟩ := ordered
  cases call with
  | checkBoards | freeBoards => cases regular
  | deviceClose boardId =>
      obtain ⟨handle, held⟩ := Option.ne_none_iff_exists'.mp regular
      have kept := tabled.close_counts counts held (callStep_close stepped).2
      exact ⟨fun _ => trivial, fun _ => kept⟩
  | deviceOpen env boardId =>
      obtain ⟨answer, boards, _, searched, outcome⟩ := callStep_open stepped
      obtain ⟨others, again, ⟨board, member, _⟩, nonnegative⟩ := regular.board
      rw [searched] at again
      cases again
      obtain ⟨counted, length⟩ := tabled.searched searched (List.ne_nil_of_mem member)
      have positive := List.length_pos_of_mem member
      have fits := callStep_open_fits stepped
      cases held : openHandle state boardId with
      | none =>
          have wrong := tabled.opened_new (by omega) (by omega) nonnegative regular.memory held outcome
          simp [OpensNothingNew, held, wrong, fits]
      | some handle =>
          have found : getDevHandle state boardId = some handle := by
            rw [tabled.getDevHandle_eq (by omega), held]
          obtain ⟨table, online⟩ := outcome.already found
          have kept : CountsOpen next := by
            rw [CountsOpen, table, online]
            exact counts
          simp [OpensNothingNew, held, kept]

/-- In a run of regular calls after a successful check the counter stays right,
and the last close alone releases, exactly when the counter is right to begin
with and no board that is closed is ever opened. -/
theorem counts_open_iff {earlier calls : List Call} {env : CheckEnv} {before state : LibState}
    (reached : runFrom callStep LibState.loaded earlier = some before)
    (checked : checkBoardsInfo env before = .ok (0, state))
    (regular : EachStep callStep Regular state calls) :
    (Throughout callStep CountsOpen state calls ∧ EachStep callStep ReleasesLast state calls) ↔
      (CountsOpen state ∧ EachStep callStep OpensNothingNew state calls) := by
  have ordered := inOrder_of_checked reached checked
  have stays : CountsOpen state → (Throughout callStep CountsOpen state calls ↔
      EachStep callStep OpensNothingNew state calls) := by
    intro counts
    refine throughout_iff_eachStep ?_ ?_ ordered counts regular
    · intro state call next ordered counts regular stepped
      exact ⟨ordered.counts_iff counts regular stepped, fun _ => ordered.step stepped⟩
    · intro state call _ _ regular stuck
      exact regular.opensNothingNew_of_stuck stuck
  constructor
  · intro claim
    have counts := claim.1.start
    exact ⟨counts, (stays counts).mp claim.1⟩
  · intro condition
    have throughout := (stays condition.1).mpr condition.2
    refine ⟨throughout, ?_⟩
    refine eachStep_of_invariant ?_ (ordered.throughout.and throughout) regular
    intro state call holds regular
    cases call with
    | checkBoards | deviceOpen | freeBoards => trivial
    | deviceClose boardId =>
        obtain ⟨⟨count, tabled⟩, counts⟩ := holds
        obtain ⟨handle, held⟩ := Option.ne_none_iff_exists'.mp regular
        exact tabled.close_releases counts held vi53xxDeviceClose_closed

/-- One open of the only board leaves a counter of 2 beside one handle. -/
theorem open_miscounts :
    ∃ state, checkBoardsInfo oneBoard LibState.loaded = .ok (0, state) ∧
      EachStep callStep Regular state [.deviceOpen (opensAs 3) 7] ∧
      ¬ Throughout callStep CountsOpen state [.deviceOpen (opensAs 3) 7] := by
  have seen : (checkedRun oneBoard LibState.loaded [.deviceOpen (opensAs 3) 7]).map
      (fun run => (run.1, run.2.onlineBoardCount, run.2.devHandleList.occupied)) =
      some (0, 2, 1) := by decide +kernel
  obtain ⟨⟨ret, reached⟩, ran, observed⟩ := Option.map_eq_some_iff.mp seen
  simp only [Prod.mk.injEq] at observed
  obtain ⟨rfl, online, occupied⟩ := observed
  obtain ⟨state, checked, ran⟩ := checkedRun_eq_some ran
  refine ⟨state, checked, ⟨oneBoard_opens checked, fun _ _ => trivial⟩, ?_⟩
  intro counts
  have last := throughout_iff_prefixes.mp counts _ [] reached (List.append_nil _).symm ran
  rw [CountsOpen, online, occupied] at last
  cases last

theorem counts_open_iff_one :
    ∃ state, checkBoardsInfo oneBoard LibState.loaded = .ok (0, state) ∧
      ((Throughout callStep CountsOpen state [.deviceOpen (opensAs 3) 7, .deviceClose 7] ∧
          EachStep callStep ReleasesLast state [.deviceOpen (opensAs 3) 7, .deviceClose 7]) ↔
        (CountsOpen state ∧
          EachStep callStep OpensNothingNew state
            [.deviceOpen (opensAs 3) 7, .deviceClose 7])) := by
  obtain ⟨state, checked⟩ := oneBoard_checked
  refine ⟨state, checked, counts_open_iff
    (rfl : runFrom callStep LibState.loaded [] = some LibState.loaded) checked ?_⟩
  refine ⟨oneBoard_opens checked, fun next stepped => ⟨?_, fun _ _ => trivial⟩⟩
  exact oneBoard_opened checked stepped

end Vi53xx.Lib
