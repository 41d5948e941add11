import Vi53xx.Lib.Calls

/-! When closing one board leaves the others connected. The counter of open
boards decides it, not the boards that are open. -/

set_option autoImplicit false

namespace Vi53xx.Lib

open Foundation

variable {state : LibState} {boardId : BitVec 32}

/-- A close leaves the handle of every other open board where it is found. -/
def KeepsOthers (state : LibState) : Call → Prop
  | .deviceClose boardId => ∀ other handle, other ≠ boardId →
      openHandle state other = some handle →
        getDevHandle (vi53xxDeviceClose state boardId) other = some handle
  | _ => True

/-- A close meets a counter that it does not bring to zero, or no other open board. -/
def Undisturbing (state : LibState) : Call → Prop
  | .deviceClose boardId => 2 ≤ state.onlineBoardCount ∨
      ∀ other, other ≠ boardId → openHandle state other = none
  | _ => True

theorem Closed.drops_all {next : LibState} (closed : Closed state boardId next)
    (drops : Drops state) (other : BitVec 32) : getDevHandle next other = none := by
  obtain ⟨available, _, _, _⟩ := closed.drops drops
  simp [getDevHandle, getAvailableBoardCount, available]

theorem Closed.getDevHandle_other {next : LibState} {other : BitVec 32}
    (closed : Closed state boardId next) (kept : ¬ Drops state) (different : other ≠ boardId) :
    getDevHandle next other = getDevHandle state other := by
  obtain ⟨available, _, _, _⟩ := closed.keeps kept
  unfold getDevHandle
  rw [closed.devHandleList_of_kept kept, getAvailableBoardCount, available]
  apply Slots.lookup_release
  intro handle wanted
  have named : handle.boardId = other := by simpa using wanted
  simp [named, different]

theorem Closed.getDevHandle_self {next : LibState} (closed : Closed state boardId next) :
    getDevHandle next boardId = none := by
  by_cases drops : Drops state
  · exact closed.drops_all drops boardId
  · unfold getDevHandle
    rw [closed.devHandleList_of_kept drops]
    exact Slots.lookup_release_self

theorem Tabled.counts {count : Int} {handle : DevHandle} (tabled : Tabled count state)
    (online : state.onlineBoardCount ≠ 0) (held : openHandle state boardId = some handle) :
    getAvailableBoardCount state = count ∧ getAvailableBoardCount state ≠ 0 := by
  rcases tabled.counted with same | ⟨_, zero⟩
  · refine ⟨same, ?_⟩
    intro uncounted
    obtain ⟨slot, _, here, _⟩ := Slots.lookup_some held
    have low := tabled.below slot handle here
    rw [← same, uncounted] at low
    exact absurd low (Nat.not_lt_zero _)
  · exact absurd zero online

theorem Tabled.keepsOthers_iff {count : Int} {call : Call} (tabled : Tabled count state) :
    KeepsOthers state call ↔ Undisturbing state call := by
  cases call with
  | checkBoards | deviceOpen | freeBoards => exact Iff.rfl
  | deviceClose boardId =>
      have closed : Closed state boardId (vi53xxDeviceClose state boardId) :=
        vi53xxDeviceClose_closed
      constructor
      · intro keeps
        by_cases several : 2 ≤ state.onlineBoardCount
        · exact .inl several
        · right
          intro other different
          cases held : openHandle state other with
          | none => rfl
          | some handle =>
              have drops : Drops state := by
                right
                unfold getOnlineBoardCount
                split <;> omega
              have lost := closed.drops_all drops other
              simp [keeps other handle different held] at lost
      · intro undisturbing other handle different held
        rcases undisturbing with several | alone
        · obtain ⟨counted, nonzero⟩ := tabled.counts (by omega) held
          have kept : ¬ Drops state := by
            unfold Drops getOnlineBoardCount
            split <;> omega
          rw [closed.getDevHandle_other kept different, tabled.getDevHandle_eq counted, held]
        · simp [alone other different] at held

/-- After a successful check, the closes of a run leave all other open boards
connected exactly when each of them is undisturbing. -/
theorem closes_keep_others_iff {earlier calls : List Call} {env : CheckEnv}
    {before state : LibState} (reached : runFrom callStep LibState.loaded earlier = some before)
    (checked : checkBoardsInfo env before = .ok (0, state)) :
    EachStep callStep KeepsOthers state calls ↔ EachStep callStep Undisturbing state calls := by
  have throughout : Throughout callStep InOrder state calls :=
    (inOrder_of_checked reached checked).throughout
  constructor
  · intro keeps
    refine eachStep_of_invariant ?_ throughout keeps
    intro state call ordered keeps
    obtain ⟨count, tabled⟩ := ordered
    exact tabled.keepsOthers_iff.mp keeps
  · intro undisturbing
    refine eachStep_of_invariant ?_ throughout undisturbing
    intro state call ordered undisturbing
    obtain ⟨count, tabled⟩ := ordered
    exact tabled.keepsOthers_iff.mpr undisturbing

/-- Two closes of a board that was never open disconnect the only open board. -/
theorem close_disconnects_other :
    ∃ state, checkBoardsInfo oneBoard LibState.loaded = .ok (0, state) ∧
      ¬ EachStep callStep KeepsOthers state
        [.deviceOpen (opensAs 3) 7, .deviceClose 8, .deviceClose 8] := by
  have seen : (checkedRun oneBoard LibState.loaded
      [.deviceOpen (opensAs 3) 7, .deviceClose 8]).map (fun run =>
        (run.1, (openHandle run.2 7).isSome, getDevHandle (vi53xxDeviceClose run.2 8) 7)) =
      some (0, true, none) := by decide +kernel
  obtain ⟨⟨ret, reached⟩, ran, observed⟩ := Option.map_eq_some_iff.mp seen
  simp only [Prod.mk.injEq] at observed
  obtain ⟨rfl, held, lost⟩ := observed
  obtain ⟨state, checked, ran⟩ := checkedRun_eq_some ran
  refine ⟨state, checked, ?_⟩
  intro keeps
  have last := eachStep_iff_prefixes.mp keeps _ (.deviceClose 8) [] reached rfl ran
  obtain ⟨handle, held⟩ := Option.isSome_iff_exists.mp held
  have found := last 7 handle (by decide) held
  rw [lost] at found
  cases found

theorem closes_keep_others_iff_two :
    ∃ state, checkBoardsInfo twoBoards LibState.loaded = .ok (0, state) ∧
      (EachStep callStep KeepsOthers state
          [.deviceOpen (opensAs 3) 7, .deviceOpen (opensAs 4) 8, .deviceClose 8, .deviceClose 9] ↔
        EachStep callStep Undisturbing state
          [.deviceOpen (opensAs 3) 7, .deviceOpen (opensAs 4) 8, .deviceClose 8,
            .deviceClose 9]) := by
  have seen : (checkBoardsInfo twoBoards LibState.loaded).toOption.map Prod.fst = some 0 := by
    decide +kernel
  obtain ⟨⟨ret, state⟩, checked, rfl⟩ := Option.map_eq_some_iff.mp seen
  exact ⟨state, ok_of_toOption checked, closes_keep_others_iff
    (rfl : runFrom callStep LibState.loaded [] = some LibState.loaded) (ok_of_toOption checked)⟩

end Vi53xx.Lib
