import Mathlib.Data.List.Basic

/-! Runs of a step function. An action for which the step function answers
`none` cannot complete, and a run ends there. -/

set_option autoImplicit false

namespace Vi53xx.Foundation

variable {State Action : Type}

/-- The state in which a run leaves the system, if all its actions complete. -/
def runFrom (step : State → Action → Option State) : State → List Action → Option State
  | state, [] => some state
  | state, action :: rest => (step state action).bind fun next => runFrom step next rest

/-- The invariant holds in the first state of the run and in every state it reaches. -/
def Throughout (step : State → Action → Option State) (invariant : State → Prop) :
    State → List Action → Prop
  | state, [] => invariant state
  | state, action :: rest =>
      invariant state ∧ ∀ next, step state action = some next → Throughout step invariant next rest

/-- The guard holds of every action of the run in the state the action meets. -/
def EachStep (step : State → Action → Option State) (guard : State → Action → Prop) :
    State → List Action → Prop
  | _, [] => True
  | state, action :: rest =>
      guard state action ∧ ∀ next, step state action = some next → EachStep step guard next rest

variable {step : State → Action → Option State} {invariant property : State → Prop}
  {guard claim : State → Action → Prop}

theorem runFrom_append {state : State} {before after : List Action} :
    runFrom step state (before ++ after) =
      (runFrom step state before).bind fun middle => runFrom step middle after := by
  induction before generalizing state with
  | nil => rfl
  | cons action rest ih =>
      simp only [List.cons_append, runFrom]
      cases stepped : step state action with
      | none => rfl
      | some next => simpa using ih

theorem throughout_iff_prefixes {state : State} {actions : List Action} :
    Throughout step invariant state actions ↔
      ∀ before after reached, actions = before ++ after →
        runFrom step state before = some reached → invariant reached := by
  induction actions generalizing state with
  | nil =>
      constructor
      · intro holds before after reached split ran
        obtain ⟨rfl, rfl⟩ := List.append_eq_nil_iff.mp split.symm
        cases ran
        exact holds
      · intro holds
        exact holds [] [] state rfl rfl
  | cons action rest ih =>
      constructor
      · rintro ⟨now, later⟩ before after reached split ran
        cases before with
        | nil =>
            cases ran
            exact now
        | cons first before =>
            obtain ⟨rfl, tails⟩ := List.cons.inj split
            obtain ⟨next, stepped, ran⟩ := Option.bind_eq_some_iff.mp ran
            exact ih.mp (later next stepped) before after reached tails ran
      · intro holds
        refine ⟨holds [] _ state rfl rfl, ?_⟩
        intro next stepped
        refine ih.mpr ?_
        intro before after reached split ran
        refine holds (action :: before) after reached (by rw [split, List.cons_append]) ?_
        simpa [runFrom, stepped] using ran

theorem eachStep_iff_prefixes {state : State} {actions : List Action} :
    EachStep step guard state actions ↔
      ∀ before action after reached, actions = before ++ action :: after →
        runFrom step state before = some reached → guard reached action := by
  induction actions generalizing state with
  | nil => simp [EachStep]
  | cons first rest ih =>
      constructor
      · rintro ⟨now, later⟩ before action after reached split ran
        cases before with
        | nil =>
            obtain ⟨rfl, rfl⟩ := List.cons.inj split
            cases ran
            exact now
        | cons other before =>
            obtain ⟨rfl, tails⟩ := List.cons.inj split
            obtain ⟨next, stepped, ran⟩ := Option.bind_eq_some_iff.mp ran
            exact ih.mp (later next stepped) before action after reached tails ran
      · intro holds
        refine ⟨holds [] first rest state rfl rfl, ?_⟩
        intro next stepped
        refine ih.mpr ?_
        intro before action after reached split ran
        refine holds (first :: before) action after reached (by rw [split, List.cons_append]) ?_
        simpa [runFrom, stepped] using ran

theorem Throughout.start {state : State} {actions : List Action}
    (holds : Throughout step invariant state actions) : invariant state := by
  cases actions with
  | nil => exact holds
  | cons action rest => exact holds.1

theorem Throughout.last {state final : State} {actions : List Action}
    (holds : Throughout step invariant state actions)
    (ran : runFrom step state actions = some final) : invariant final :=
  throughout_iff_prefixes.mp holds actions [] final (List.append_nil actions).symm ran

theorem Throughout.mono {state : State} {actions : List Action}
    (weaker : ∀ reached, invariant reached → property reached)
    (holds : Throughout step invariant state actions) : Throughout step property state actions := by
  induction actions generalizing state with
  | nil => exact weaker _ holds
  | cons action rest ih =>
      exact ⟨weaker _ holds.1, fun next stepped => ih (holds.2 next stepped)⟩

theorem Throughout.and {state : State} {actions : List Action}
    (left : Throughout step invariant state actions)
    (right : Throughout step property state actions) :
    Throughout step (fun reached => invariant reached ∧ property reached) state actions := by
  induction actions generalizing state with
  | nil => exact ⟨left, right⟩
  | cons action rest ih =>
      exact ⟨⟨left.1, right.1⟩, fun next stepped => ih (left.2 next stepped) (right.2 next stepped)⟩

/-- The invariant rule: what every guarded action preserves holds throughout a
run whose actions are all guarded. -/
theorem throughout_of_preserved {state : State} {actions : List Action}
    (preserved : ∀ state action next, invariant state → guard state action →
      step state action = some next → invariant next)
    (start : invariant state) (guarded : EachStep step guard state actions) :
    Throughout step invariant state actions := by
  induction actions generalizing state with
  | nil => exact start
  | cons action rest ih =>
      refine ⟨start, ?_⟩
      intro next stepped
      exact ih (preserved state action next start guarded.1 stepped) (guarded.2 next stepped)

theorem runFrom_preserves (kept : State → Prop) {state final : State} {actions : List Action}
    (preserved : ∀ state action next, kept state → step state action = some next → kept next)
    (start : kept state) (ran : runFrom step state actions = some final) : kept final := by
  induction actions generalizing state with
  | nil =>
      cases ran
      exact start
  | cons action rest ih =>
      obtain ⟨next, stepped, ran⟩ := Option.bind_eq_some_iff.mp ran
      exact ih (preserved state action next start stepped) ran

theorem eachStep_of_forall {state : State} {actions : List Action} {allowed : Action → Prop}
    (each : ∀ action ∈ actions, allowed action) :
    EachStep step (fun _ action => allowed action) state actions := by
  induction actions generalizing state with
  | nil => trivial
  | cons action rest ih =>
      exact ⟨each action List.mem_cons_self, fun next _ =>
        ih fun other member => each other (List.mem_cons_of_mem action member)⟩

theorem EachStep.mono {state : State} {actions : List Action}
    (weaker : ∀ reached action, guard reached action → claim reached action)
    (holds : EachStep step guard state actions) : EachStep step claim state actions := by
  induction actions generalizing state with
  | nil => trivial
  | cons action rest ih =>
      exact ⟨weaker state action holds.1, fun next stepped => ih (holds.2 next stepped)⟩

theorem EachStep.and {state : State} {actions : List Action}
    (left : EachStep step guard state actions) (right : EachStep step claim state actions) :
    EachStep step (fun reached action => guard reached action ∧ claim reached action)
      state actions := by
  induction actions generalizing state with
  | nil => trivial
  | cons action rest ih =>
      exact ⟨⟨left.1, right.1⟩, fun next stepped => ih (left.2 next stepped) (right.2 next stepped)⟩

/-- A claim about single steps holds of every step of a guarded run when the
invariant and the guard imply it. -/
theorem eachStep_of_invariant {state : State} {actions : List Action}
    (implied : ∀ state action, invariant state → guard state action → claim state action)
    (throughout : Throughout step invariant state actions)
    (guarded : EachStep step guard state actions) : EachStep step claim state actions := by
  induction actions generalizing state with
  | nil => trivial
  | cons action rest ih =>
      refine ⟨implied state action throughout.1 guarded.1, ?_⟩
      intro next stepped
      exact ih (throughout.2 next stepped) (guarded.2 next stepped)

/-- The exactness rule. Under an invariant, let an action keep `property`
exactly when it meets `claim`. Then a run from a state with `property` has it
throughout exactly when each of its steps meets `claim`. -/
theorem throughout_iff_eachStep {state : State} {actions : List Action}
    (exact : ∀ state action next, invariant state → property state → guard state action →
      step state action = some next →
        (property next ↔ claim state action) ∧ (property next → invariant next))
    (stuck : ∀ state action, invariant state → property state → guard state action →
      step state action = none → claim state action)
    (valid : invariant state) (start : property state)
    (guarded : EachStep step guard state actions) :
    Throughout step property state actions ↔ EachStep step claim state actions := by
  induction actions generalizing state with
  | nil => exact ⟨fun _ => trivial, fun _ => start⟩
  | cons action rest ih =>
      cases stepped : step state action with
      | none =>
          have claimed := stuck state action valid start guarded.1 stepped
          simp [Throughout, EachStep, stepped, start, claimed]
      | some next =>
          obtain ⟨kept, maintained⟩ := exact state action next valid start guarded.1 stepped
          simp only [Throughout, EachStep, stepped, Option.some.injEq, forall_eq', start, true_and]
          constructor
          · intro throughout
            have here := throughout.start
            exact ⟨kept.mp here, (ih (maintained here) here (guarded.2 next stepped)).mp throughout⟩
          · rintro ⟨claimed, later⟩
            have here := kept.mpr claimed
            exact (ih (maintained here) here (guarded.2 next stepped)).mpr later

theorem eachStep_completed {state final : State} {actions : List Action}
    (ran : runFrom step state actions = some final) :
    EachStep step (fun reached action => ∃ next, step reached action = some next) state actions := by
  induction actions generalizing state with
  | nil => trivial
  | cons action rest ih =>
      obtain ⟨next, stepped, ran⟩ := Option.bind_eq_some_iff.mp ran
      refine ⟨⟨next, stepped⟩, ?_⟩
      intro other same
      rw [stepped] at same
      cases same
      exact ih ran

/-! ## Simulation -/

section Simulation

variable {Spec : Type} {specStep : Spec → Action → Spec} {related : Spec → State → Prop}
  {allowed : Spec → Action → Prop}

/-- The simulation rule: when every action that the specification allows can be
taken and keeps the relation, a run that it allows completes, and each of its
prefixes ends in a state related to the specification after that prefix. -/
theorem simulation {spec : Spec} {state : State} {actions : List Action}
    (progress : ∀ spec state action, related spec state → allowed spec action →
      ∃ next, step state action = some next ∧ related (specStep spec action) next)
    (start : related spec state)
    (guarded : EachStep (fun spec action => some (specStep spec action)) allowed spec actions) :
    ∀ done rest, actions = done ++ rest →
      ∃ reached, runFrom step state done = some reached ∧
        related (done.foldl specStep spec) reached := by
  induction actions generalizing spec state with
  | nil =>
      intro done rest split
      obtain ⟨rfl, rfl⟩ := List.append_eq_nil_iff.mp split.symm
      exact ⟨state, rfl, start⟩
  | cons action actions ih =>
      intro done rest split
      cases done with
      | nil => exact ⟨state, rfl, start⟩
      | cons first done =>
          obtain ⟨rfl, tails⟩ := List.cons.inj split
          obtain ⟨next, stepped, matched⟩ := progress spec state action start guarded.1
          obtain ⟨reached, ran, last⟩ := ih matched (guarded.2 _ rfl) done rest tails
          exact ⟨reached, by simp [runFrom, stepped, ran], last⟩

/-- When an allowed action is simulated if it fits and cannot be taken otherwise, a run that
the specification allows completes exactly when its actions fit. -/
theorem simulation_completes_iff {fits : Action → Prop} {spec : Spec} {state : State}
    {actions : List Action}
    (moves : ∀ spec state action, related spec state → allowed spec action → fits action →
      ∃ next, step state action = some next ∧ related (specStep spec action) next)
    (stuck : ∀ spec state action, related spec state → allowed spec action → ¬ fits action →
      step state action = none)
    (start : related spec state)
    (guarded : EachStep (fun spec action => some (specStep spec action)) allowed spec actions) :
    (∃ final, runFrom step state actions = some final) ↔ ∀ action ∈ actions, fits action := by
  induction actions generalizing spec state with
  | nil => simp [runFrom]
  | cons action rest ih =>
      by_cases fit : fits action
      · obtain ⟨next, stepped, matched⟩ := moves spec state action start guarded.1 fit
        rw [List.forall_mem_cons, ← ih matched (guarded.2 _ rfl), runFrom, stepped, Option.bind_some]
        exact (and_iff_right fit).symm
      · refine iff_of_false ?_ fun all => fit (all action List.mem_cons_self)
        rw [runFrom, stuck spec state action start guarded.1 fit]
        simp

/-- What relation and specification imply of a step holds of each step. -/
theorem simulation_eachStep {spec : Spec} {state : State} {actions : List Action}
    (progress : ∀ spec state action, related spec state → allowed spec action →
      ∃ next, step state action = some next ∧ related (specStep spec action) next)
    (implied : ∀ spec state action, related spec state → allowed spec action → claim state action)
    (start : related spec state)
    (guarded : EachStep (fun spec action => some (specStep spec action)) allowed spec actions) :
    EachStep step claim state actions := by
  induction actions generalizing spec state with
  | nil => trivial
  | cons action rest ih =>
      refine ⟨implied spec state action start guarded.1, ?_⟩
      intro next stepped
      obtain ⟨other, same, matched⟩ := progress spec state action start guarded.1
      rw [stepped] at same
      cases same
      exact ih matched (guarded.2 _ rfl)

/-- The simulation rule for a part of a system: some of the actions are of the part, and
are simulated when its specification allows them; the others leave it related. -/
theorem simulation_part {Part : Type} {part : Action → Option Part} {partStep : Spec → Part → Spec}
    {permitted : Spec → Part → Prop} {spec : Spec} {state : State} {actions : List Action}
    (moves : ∀ spec state action own, related spec state → guard state action →
      part action = some own → permitted spec own →
        ∃ next, step state action = some next ∧ related (partStep spec own) next)
    (stutters : ∀ spec state action, related spec state → guard state action → part action = none →
      ∃ next, step state action = some next ∧ related spec next)
    (start : related spec state)
    (specified : EachStep (fun spec own => some (partStep spec own)) permitted spec
      (actions.filterMap part))
    (guarded : EachStep step guard state actions) :
    ∃ reached, runFrom step state actions = some reached ∧
      related ((actions.filterMap part).foldl partStep spec) reached := by
  induction actions generalizing spec state with
  | nil => exact ⟨state, rfl, start⟩
  | cons action rest ih =>
      cases own : part action with
      | none =>
          rw [List.filterMap_cons_none own] at specified ⊢
          obtain ⟨next, stepped, matched⟩ := stutters spec state action start guarded.1 own
          obtain ⟨reached, ran, last⟩ := ih matched specified (guarded.2 next stepped)
          exact ⟨reached, by simp [runFrom, stepped, ran], last⟩
      | some first =>
          rw [List.filterMap_cons_some own] at specified ⊢
          obtain ⟨next, stepped, matched⟩ :=
            moves spec state action first start guarded.1 own specified.1
          obtain ⟨reached, ran, last⟩ := ih matched (specified.2 _ rfl) (guarded.2 next stepped)
          exact ⟨reached, by simp [runFrom, stepped, ran], last⟩

end Simulation

/-! ## Last write -/

section LastWrite

variable {Value : Type} {read : State → Value} {written : Action → Option Value}

/-- What the last of the actions that write something writes. -/
def lastWrite (written : Action → Option Value) (actions : List Action) : Option Value :=
  actions.reverse.findSome? written

theorem lastWrite_cons {action : Action} {rest : List Action} :
    lastWrite written (action :: rest) = (lastWrite written rest).or (written action) := by
  simp [lastWrite, List.findSome?_append]

/-- The last-write rule: a part of the state that each action either writes or leaves
alone holds in the end what has been written to it last. -/
theorem runFrom_lastWrite {state final : State} {actions : List Action}
    (stepped : ∀ state action next, guard state action → step state action = some next →
      read next = (written action).getD (read state))
    (guarded : EachStep step guard state actions)
    (ran : runFrom step state actions = some final) :
    read final = (lastWrite written actions).getD (read state) := by
  induction actions generalizing state with
  | nil =>
      cases ran
      rfl
  | cons action rest ih =>
      obtain ⟨next, taken, ran⟩ := Option.bind_eq_some_iff.mp ran
      rw [ih (guarded.2 next taken) ran, stepped state action next guarded.1 taken, lastWrite_cons]
      cases lastWrite written rest with
      | none | some value => rfl

theorem lastWrite_filterMap {Part : Type} {part : Action → Option Part} {written : Part → Option Value}
    {actions : List Action} :
    lastWrite written (actions.filterMap part) =
      lastWrite (fun action => (part action).bind written) actions := by
  rw [lastWrite, lastWrite, ← List.filterMap_reverse, ← List.head?_filterMap, List.filterMap_filterMap,
    List.head?_filterMap]

end LastWrite

/-- The rule for a component: a part of the state that only some of the actions advance is
where those actions alone take it. -/
theorem runFrom_component {Part View : Type} {part : Action → Option Part} {view : State → View}
    {advance : View → Part → View} {state final : State} {actions : List Action}
    (stepped : ∀ state action next, step state action = some next →
      view next = (part action).elim (view state) (advance (view state)))
    (ran : runFrom step state actions = some final) :
    view final = (actions.filterMap part).foldl advance (view state) := by
  induction actions generalizing state with
  | nil =>
      cases ran
      rfl
  | cons action rest ih =>
      obtain ⟨next, taken, ran⟩ := Option.bind_eq_some_iff.mp ran
      rw [ih ran, stepped state action next taken]
      cases own : part action with
      | none => rw [List.filterMap_cons_none own, Option.elim_none]
      | some first => rw [List.filterMap_cons_some own, Option.elim_some, List.foldl_cons]

/-- Actions that leave every state as it is can be left out of a run. -/
theorem runFrom_filter {kept : Action → Bool} {state : State} {actions : List Action}
    (idle : ∀ state action, kept action = false → step state action = some state) :
    runFrom step state (actions.filter kept) = runFrom step state actions := by
  induction actions generalizing state with
  | nil => rfl
  | cons action rest ih =>
      cases keeps : kept action with
      | true =>
          rw [List.filter_cons_of_pos keeps, runFrom, runFrom]
          congr 1
          funext next
          exact ih
      | false =>
          rw [List.filter_cons_of_neg (by simp [keeps]), ih, runFrom, idle state action keeps]
          rfl

/-- A run completes when all its actions can be taken and lead to states from where the
next ones can. -/
theorem runFrom_completes {state : State} {actions : List Action}
    (progress : ∀ state action, guard state action → ∃ next, step state action = some next)
    (guarded : EachStep step guard state actions) :
    ∃ final, runFrom step state actions = some final := by
  induction actions generalizing state with
  | nil => exact ⟨state, rfl⟩
  | cons action rest ih =>
      obtain ⟨next, taken⟩ := progress state action guarded.1
      obtain ⟨final, ran⟩ := ih (guarded.2 next taken)
      exact ⟨final, by simp [runFrom, taken, ran]⟩

/-! ## What a run adds up -/

section Sums

variable {Item : Type} {holds : State → List Item → Prop}

/-- The rule for what adds up over a run: when each step adds something exactly when it
fails a claim, the run adds nothing exactly when each of its steps meets the claim. -/
theorem runFrom_adds {state final : State} {actions : List Action} {items : List Item}
    (stepped : ∀ state action next items, holds state items → step state action = some next →
      ∃ more, holds next (items ++ more) ∧ (more = [] ↔ claim state action))
    (start : holds state items) (ran : runFrom step state actions = some final) :
    ∃ more, holds final (items ++ more) ∧ (more = [] ↔ EachStep step claim state actions) := by
  induction actions generalizing state items with
  | nil =>
      cases ran
      exact ⟨[], by rwa [List.append_nil], iff_of_true rfl trivial⟩
  | cons action rest ih =>
      obtain ⟨next, taken, ran⟩ := Option.bind_eq_some_iff.mp ran
      obtain ⟨first, here, met⟩ := stepped state action next items start taken
      obtain ⟨later, last, followed⟩ := ih here ran
      refine ⟨first ++ later, by rwa [← List.append_assoc], ?_⟩
      rw [List.append_eq_nil_iff, met, followed, EachStep, taken]
      simp only [Option.some.injEq, forall_eq']

end Sums

/-! ## Two runs side by side -/

section Lockstep

variable {Output : Type} {output : Action → State → Option Output}
  {related : State → State → Prop}

/-- What the steps of a run give out, if all its actions complete. -/
def outputs (step : State → Action → Option State) (output : Action → State → Option Output) :
    State → List Action → Option (List Output)
  | _, [] => some []
  | state, action :: rest => (step state action).bind fun next =>
      (outputs step output next rest).map ((output action next).toList ++ ·)

/-- The lockstep rule: two runs of the same actions give out the same when each action
keeps the relation between their states and gives out the same in related states. -/
theorem lockstep_outputs {left right : State} {actions : List Action} {seen other : List Output}
    (kept : ∀ left right action leftNext rightNext, related left right →
      step left action = some leftNext → step right action = some rightNext →
        related leftNext rightNext ∧ output action leftNext = output action rightNext)
    (start : related left right) (ranLeft : outputs step output left actions = some seen)
    (ranRight : outputs step output right actions = some other) : seen = other := by
  induction actions generalizing left right seen other with
  | nil => exact Option.some.inj (ranLeft.symm.trans ranRight)
  | cons action rest ih =>
      obtain ⟨leftNext, steppedLeft, ranLeft⟩ := Option.bind_eq_some_iff.mp ranLeft
      obtain ⟨rightNext, steppedRight, ranRight⟩ := Option.bind_eq_some_iff.mp ranRight
      obtain ⟨seenLater, laterLeft, rfl⟩ := Option.map_eq_some_iff.mp ranLeft
      obtain ⟨otherLater, laterRight, rfl⟩ := Option.map_eq_some_iff.mp ranRight
      obtain ⟨still, same⟩ := kept left right action leftNext rightNext start steppedLeft steppedRight
      rw [same, ih still laterLeft laterRight]

end Lockstep

end Vi53xx.Foundation
