import Vi53xx.Lib.CloseProperties
import Vi53xx.Lib.Es5341

/-! The digital-input and digital-output modules on one board. Both use its one
handle, which the exit of either removes. -/

set_option autoImplicit false

namespace Vi53xx.Lib

open Foundation

inductive CfgModule where
  | input
  | output
  deriving DecidableEq, Repr

def CfgModule.other : CfgModule → CfgModule
  | .input => .output
  | .output => .input

def CfgModule.init : CfgModule → InitEnv → LibState → BitVec 32 → Except Fault InitResult
  | .input => es5341DiCfgInit
  | .output => es5341DoCfgInit

def CfgModule.exit : CfgModule → LibState → BitVec 32 → LibState
  | .input => es5341DiCfgExit
  | .output => es5341DoCfgExit

inductive ModuleCall where
  | cfgInit (cfg : CfgModule) (env : InitEnv)
  | cfgExit (cfg : CfgModule)

/-- The library with the modules that are between their init and their exit. -/
structure Sharing where
  lib : LibState
  active : CfgModule → Bool

def Sharing.loaded : Sharing := ⟨LibState.loaded, fun _ => false⟩

/-- A module alternates init and exit, and an init that fails ends the run. -/
def moduleStep (boardId : BitVec 32) (state : Sharing) : ModuleCall → Option Sharing
  | .cfgInit cfg env =>
      if state.active cfg then none
      else
        match cfg.init env state.lib boardId with
        | .error _ => none
        | .ok result =>
            if result.ret = 0 then
              some ⟨result.state, fun one => if one = cfg then true else state.active one⟩
            else none
  | .cfgExit cfg =>
      if state.active cfg then
        some ⟨cfg.exit state.lib boardId, fun one => if one = cfg then false else state.active one⟩
      else none

def Reaches (boardId : BitVec 32) (state : Sharing) : Prop :=
  ∀ cfg, state.active cfg = true → getDevHandle state.lib boardId ≠ none

/-- No module exits while the other one is active. -/
def ExitsAlone (state : Sharing) : ModuleCall → Prop
  | .cfgInit _ _ => True
  | .cfgExit cfg => state.active cfg.other = false

variable {state next : LibState} {boardId : BitVec 32}

/-! ## One init -/

theorem cfgInit_ok {notFound : BitVec 32 → List Char} {env : InitEnv} {result : InitResult}
    (started : cfgInit notFound env state boardId = .ok result) (success : result.ret = 0) :
    ∃ checked answer, checkBoardsInfo env.check state = .ok (0, checked) ∧
      vi53xxDeviceOpen env.device checked boardId = .ok (answer, result.state) ∧
      0 ≤ answer.value := by
  unfold cfgInit at started
  cases check : checkBoardsInfo env.check state with
  | error fault => simp [check] at started
  | ok outcome =>
      obtain ⟨ret, checked⟩ := outcome
      simp only [check] at started
      split at started
      · cases started
        cases success
      · next zero =>
          have zero : ret = 0 := not_not.mp zero
          subst zero
          cases opened : vi53xxDeviceOpen env.device checked boardId with
          | error fault => simp [opened] at started
          | ok outcome =>
              obtain ⟨answer, after⟩ := outcome
              simp only [opened] at started
              split at started
              · cases started
                cases success
              · next nonnegative =>
                  cases started
                  exact ⟨checked, answer, rfl, opened, Int.not_lt.mp nonnegative⟩

theorem CfgModule.init_ok {cfg : CfgModule} {env : InitEnv} {result : InitResult}
    (started : cfg.init env state boardId = .ok result) (success : result.ret = 0) :
    ∃ checked answer, checkBoardsInfo env.check state = .ok (0, checked) ∧
      vi53xxDeviceOpen env.device checked boardId = .ok (answer, result.state) ∧
      0 ≤ answer.value := by
  cases cfg with
  | input =>
      simp only [CfgModule.init, es5341DiCfgInit] at started
      exact cfgInit_ok started success
  | output =>
      simp only [CfgModule.init, es5341DoCfgInit] at started
      exact cfgInit_ok started success

theorem CfgModule.exit_closed {cfg : CfgModule} :
    Closed state boardId (cfg.exit state boardId) := by
  cases cfg with
  | input | output => exact vi53xxDeviceClose_closed

/-! ## The phases of a library that serves one board -/

structure Unloaded (state : LibState) : Prop where
  clear : state.initCheckOk = false
  uncounted : getAvailableBoardCount state = 0
  closed : ∀ slot, state.devHandleList slot = none

structure Idle (state : LibState) : Prop where
  flagged : state.initCheckOk = true
  counted : 0 < getAvailableBoardCount state
  closed : ∀ slot, state.devHandleList slot = none

/-- The board is open and no other one is, and the counter is past one. -/
structure Busy (boardId : BitVec 32) (state : LibState) : Prop where
  flagged : state.initCheckOk = true
  counted : 0 < getAvailableBoardCount state
  ahead : 2 ≤ state.onlineBoardCount
  only : ∀ slot handle, state.devHandleList slot = some handle → handle.boardId = boardId
  isOpen : getDevHandle state boardId ≠ none

theorem Opened.busy_of_idle {env : OpenEnv} {fd : Int} {devName : List Char} {answer : OpenReturn}
    (opened : Opened env state boardId fd devName answer next) (success : 0 ≤ answer.value)
    (idle : Idle state) : Busy boardId next := by
  have empty : state.devHandleList = Slots.empty := funext idle.closed
  have counted := idle.counted
  cases opened with
  | noBoards uncounted => omega
  | openFailed | outOfMemory => exact absurd success (by decide)
  | alreadyOpen _ _ found =>
      rw [getDevHandle, empty, Slots.lookup_empty] at found
      cases found
  | fallThrough _ _ _ _ full =>
      have used := Slots.freeSlot_eq_none_iff.mp full 0 (by simpa using counted)
      exact absurd (idle.closed 0) used
  | stored _ _ _ _ free =>
      obtain ⟨low, _⟩ := Slots.freeSlot_some free
      refine ⟨idle.flagged, counted, ?_, ?_, ?_⟩
      · dsimp only
        omega
      · intro place handle held
        rcases Slots.store_eq_some_iff.mp held with ⟨_, rfl⟩ | ⟨_, before⟩
        · rfl
        · simp [idle.closed place] at before
      · intro absent
        have missed := Slots.lookup_eq_none_iff.mp absent _ _ low Slots.store_same
        simp at missed

theorem Opened.busy_of_busy {env : OpenEnv} {fd : Int} {devName : List Char} {answer : OpenReturn}
    (opened : Opened env state boardId fd devName answer next) (success : 0 ≤ answer.value)
    (busy : Busy boardId state) : Busy boardId next := by
  cases opened with
  | noBoards | openFailed | outOfMemory => exact absurd success (by decide)
  | stored _ _ absent | fallThrough _ _ absent => exact absurd absent busy.isOpen
  | alreadyOpen => exact ⟨busy.flagged, busy.counted, busy.ahead, busy.only, busy.isOpen⟩

theorem Opened.counted {env : OpenEnv} {fd : Int} {devName : List Char} {answer : OpenReturn}
    (opened : Opened env state boardId fd devName answer next) (success : 0 ≤ answer.value) :
    getAvailableBoardCount state ≠ 0 := by
  cases opened with
  | noBoards => exact absurd success (by decide)
  | openFailed counted | alreadyOpen counted | outOfMemory counted | stored counted
  | fallThrough counted => exact counted

theorem Checked.loads {ret : Int} (checked : Checked state ret next) (success : ret = 0)
    (unloaded : Unloaded state) : getAvailableBoardCount next = 0 ∨ Idle next := by
  cases checked with
  | alreadyOk flagged => simp [unloaded.clear] at flagged
  | outOfMemory => cases success
  | noBoards => exact .inl unloaded.uncounted
  | boards clear found fits =>
      right
      refine ⟨rfl, ?_, fun _ => rfl⟩
      have positive := List.length_pos_iff.mpr found
      have bounded : ¬ (maxDevHandle : Int) < List.length _ :=
        Int.not_lt.mpr (Int.ofNat_le.mpr fits)
      simp only [getAvailableBoardCount, loaded, gt_iff_lt, if_neg bounded]
      exact Int.natCast_pos.mpr positive

theorem CfgModule.init_busy {cfg : CfgModule} {env : InitEnv} {result : InitResult}
    (started : cfg.init env state boardId = .ok result) (success : result.ret = 0)
    (phase : Unloaded state ∨ Idle state ∨ Busy boardId state) : Busy boardId result.state := by
  obtain ⟨checked, answer, check, open_, nonnegative⟩ := CfgModule.init_ok started success
  obtain ⟨boards, _, _, opened⟩ := vi53xxDeviceOpen_opened open_
  have flagged_same : state.initCheckOk = true → checked = state := by
    intro flagged
    simp only [checkBoardsInfo, flagged, if_true, Except.ok.injEq, Prod.mk.injEq] at check
    exact check.2.symm
  rcases phase with unloaded | idle | busy
  · rcases (checkBoardsInfo_checked check).loads rfl unloaded with uncounted | idle
    · exact absurd uncounted (opened.counted nonnegative)
    · exact opened.busy_of_idle nonnegative idle
  · rw [flagged_same idle.flagged] at opened
    exact opened.busy_of_idle nonnegative idle
  · rw [flagged_same busy.flagged] at opened
    exact opened.busy_of_busy nonnegative busy

theorem Closed.idle_of_busy (closed : Closed state boardId next) (busy : Busy boardId state) :
    Idle next := by
  have counted := busy.counted
  have ahead := busy.ahead
  have kept : ¬ Drops state := by
    unfold Drops getOnlineBoardCount
    split <;> omega
  obtain ⟨available, _, flagged, _⟩ := closed.keeps kept
  refine ⟨by rw [flagged, busy.flagged], ?_, ?_⟩
  · simpa [getAvailableBoardCount, available] using counted
  · intro slot
    rw [closed.devHandleList_of_kept kept]
    cases held : state.devHandleList slot with
    | none => simp [Slots.release, held]
    | some handle => simp [Slots.release, held, Option.filter, busy.only slot handle held]

/-! ## Runs -/

/-- The phase of the library fits the modules that are active. -/
def Fits (boardId : BitVec 32) (state : Sharing) : Prop :=
  ((∃ cfg, state.active cfg = true) ∧ Busy boardId state.lib) ∨
    ((∀ cfg, state.active cfg = false) ∧ (Unloaded state.lib ∨ Idle state.lib))

variable {before after : Sharing} {cfg : CfgModule} {env : InitEnv}

theorem moduleStep_cfgInit (stepped : moduleStep boardId before (.cfgInit cfg env) = some after) :
    ∃ result, cfg.init env before.lib boardId = .ok result ∧ result.ret = 0 ∧
      after = ⟨result.state, fun one => if one = cfg then true else before.active one⟩ := by
  simp only [moduleStep] at stepped
  split at stepped
  · cases stepped
  · cases started : cfg.init env before.lib boardId with
    | error fault => simp [started] at stepped
    | ok result =>
        simp only [started] at stepped
        split at stepped
        · next success => exact ⟨result, rfl, success, (Option.some.inj stepped).symm⟩
        · cases stepped

theorem moduleStep_cfgExit (stepped : moduleStep boardId before (.cfgExit cfg) = some after) :
    before.active cfg = true ∧ after = ⟨cfg.exit before.lib boardId,
      fun one => if one = cfg then false else before.active one⟩ := by
  simp only [moduleStep] at stepped
  split at stepped
  · next active => exact ⟨active, (Option.some.inj stepped).symm⟩
  · cases stepped

theorem Fits.cfgInit (fits : Fits boardId before)
    (stepped : moduleStep boardId before (.cfgInit cfg env) = some after) :
    Reaches boardId after ∧ Fits boardId after := by
  obtain ⟨result, started, success, rfl⟩ := moduleStep_cfgInit stepped
  have busy : Busy boardId result.state := by
    apply CfgModule.init_busy started success
    rcases fits with ⟨_, busy⟩ | ⟨_, unloaded | idle⟩
    · exact .inr (.inr busy)
    · exact .inl unloaded
    · exact .inr (.inl idle)
  exact ⟨fun _ _ => busy.isOpen, .inl ⟨⟨cfg, by simp⟩, busy⟩⟩

/-- The exit of the only active module closes the last handle. -/
theorem Fits.exits_alone (fits : Fits boardId before) (alone : before.active cfg.other = false)
    (stepped : moduleStep boardId before (.cfgExit cfg) = some after) :
    Reaches boardId after ∧ Fits boardId after := by
  obtain ⟨active, rfl⟩ := moduleStep_cfgExit stepped
  have busy : Busy boardId before.lib := by
    rcases fits with ⟨_, busy⟩ | ⟨inactive, _⟩
    · exact busy
    · simp [inactive cfg] at active
  have closed : Closed before.lib boardId (cfg.exit before.lib boardId) := CfgModule.exit_closed
  have inactive : ∀ one, (if one = cfg then false else before.active one) = false := by
    intro one
    split
    · rfl
    · next different =>
        have named : one = cfg.other := by
          cases one <;> cases cfg <;> simp_all [CfgModule.other]
        rw [named, alone]
  refine ⟨?_, .inr ⟨inactive, .inr (closed.idle_of_busy busy)⟩⟩
  intro one running
  simp [inactive one] at running

/-- An exit takes the board from the other module. -/
theorem not_reaches_cfgExit (shared : before.active cfg.other = true)
    (stepped : moduleStep boardId before (.cfgExit cfg) = some after) :
    ¬ Reaches boardId after := by
  obtain ⟨_, rfl⟩ := moduleStep_cfgExit stepped
  have closed : Closed before.lib boardId (cfg.exit before.lib boardId) := CfgModule.exit_closed
  have different : cfg.other ≠ cfg := by cases cfg <;> decide
  intro reaches
  exact reaches cfg.other (by simp [different, shared]) closed.getDevHandle_self

theorem Fits.step {call : ModuleCall} (fits : Fits boardId before)
    (stepped : moduleStep boardId before call = some after) :
    (Reaches boardId after ↔ ExitsAlone before call) ∧
      (Reaches boardId after → Fits boardId after) := by
  cases call with
  | cfgInit cfg env =>
      obtain ⟨reaches, fits⟩ := fits.cfgInit stepped
      exact ⟨iff_of_true reaches trivial, fun _ => fits⟩
  | cfgExit cfg =>
      cases other : before.active cfg.other with
      | true =>
          have lost := not_reaches_cfgExit other stepped
          exact ⟨iff_of_false lost (by simp [ExitsAlone, other]), fun reaches => absurd reaches lost⟩
      | false =>
          obtain ⟨reaches, fits⟩ := fits.exits_alone other stepped
          exact ⟨iff_of_true reaches other, fun _ => fits⟩

/-- From the loading of the library on, a board stays within reach of the active
modules exactly when no module exits while the other one is active. -/
theorem modules_share_iff {calls : List ModuleCall} {final : Sharing}
    (ran : runFrom (moduleStep boardId) Sharing.loaded calls = some final) :
    Throughout (moduleStep boardId) (Reaches boardId) Sharing.loaded calls ↔
      EachStep (moduleStep boardId) ExitsAlone Sharing.loaded calls := by
  have start : Fits boardId Sharing.loaded :=
    .inr ⟨fun _ => rfl, .inl ⟨rfl, rfl, fun _ => rfl⟩⟩
  refine throughout_iff_eachStep ?_ ?_ start ?_ (eachStep_completed ran)
  · intro state call next fits _ _ stepped
    exact Fits.step fits stepped
  · intro state call _ _ completes stuck
    obtain ⟨next, stepped⟩ := completes
    rw [stepped] at stuck
    cases stuck
  · intro cfg active
    cases active

/-- The output module exits while the input module still uses the board. -/
theorem exit_disconnects_other_module :
    ∃ final, runFrom (moduleStep 7) Sharing.loaded
        [.cfgInit .input ⟨oneBoard, opensAs 3⟩, .cfgInit .output ⟨oneBoard, opensAs 4⟩,
          .cfgExit .output] = some final ∧ ¬ Reaches 7 final := by
  have seen : (runFrom (moduleStep 7) Sharing.loaded
      [.cfgInit .input ⟨oneBoard, opensAs 3⟩, .cfgInit .output ⟨oneBoard, opensAs 4⟩,
        .cfgExit .output]).map (fun final =>
          (final.active .input, getDevHandle final.lib 7)) = some (true, none) := by
    decide +kernel
  obtain ⟨final, ran, observed⟩ := Option.map_eq_some_iff.mp seen
  obtain ⟨active, lost⟩ := Prod.mk.inj observed
  exact ⟨final, ran, fun reaches => reaches .input active lost⟩

/-- One module starts and exits while the other one is active. -/
def nestedCalls : List ModuleCall :=
  [.cfgInit .input ⟨oneBoard, opensAs 3⟩, .cfgInit .output ⟨oneBoard, opensAs 4⟩,
    .cfgExit .output, .cfgExit .input]

theorem modules_share_iff_nested :
    ∃ final, runFrom (moduleStep 7) Sharing.loaded nestedCalls = some final ∧
      (Throughout (moduleStep 7) (Reaches 7) Sharing.loaded nestedCalls ↔
        EachStep (moduleStep 7) ExitsAlone Sharing.loaded nestedCalls) := by
  have seen : (runFrom (moduleStep 7) Sharing.loaded nestedCalls).isSome = true := by
    decide +kernel
  obtain ⟨final, ran⟩ := Option.isSome_iff_exists.mp seen
  exact ⟨final, ran, modules_share_iff ran⟩

end Vi53xx.Lib
