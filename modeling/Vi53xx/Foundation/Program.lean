import Mathlib.Data.List.Basic

/-! Programs over a state that can run into a fault, which ends them in the state
it happens in, and what a program may do to the state. -/

set_option autoImplicit false

namespace Vi53xx.Foundation

theorem ok_of_toOption {Fault Value : Type} {outcome : Except Fault Value} {value : Value}
    (completed : outcome.toOption = some value) : outcome = .ok value := by
  cases outcome with
  | error fault => cases completed
  | ok other => exact congrArg Except.ok (Option.some.inj completed)

def Program (State Fault Value : Type) := State → Except Fault Value × State

namespace Program

variable {State Fault Value Other : Type}

instance : Monad (Program State Fault) where
  pure value := fun state => (.ok value, state)
  bind program next := fun state =>
    match program state with
    | (.ok value, middle) => next value middle
    | (.error fault, middle) => (.error fault, middle)

def fault (reason : Fault) : Program State Fault Value := fun state => (.error reason, state)

def read (field : State → Value) : Program State Fault Value := fun state => (.ok (field state), state)

def change (update : State → State) : Program State Fault Unit := fun state => (.ok (), update state)

variable {program : Program State Fault Value} {next : Value → Program State Fault Other}
  {state middle : State} {value : Value} {reason : Fault}

@[simp] theorem pure_run : (pure value : Program State Fault Value) state = (.ok value, state) := rfl

@[simp] theorem fault_run : (fault reason : Program State Fault Value) state = (.error reason, state) :=
  rfl

@[simp] theorem read_run {field : State → Value} :
    (read field : Program State Fault Value) state = (.ok (field state), state) := rfl

@[simp] theorem change_run {update : State → State} :
    (change update : Program State Fault Unit) state = (.ok (), update state) := rfl

theorem bind_ok (ran : program state = (.ok value, middle)) :
    (program >>= next) state = next value middle := by
  simp only [bind, ran]

theorem bind_error (ran : program state = (.error reason, middle)) :
    (program >>= next) state = (.error reason, middle) := by
  simp only [bind, ran]

theorem bind_eq_ok {result : Other} {final : State}
    (ran : (program >>= next) state = (.ok result, final)) :
    ∃ value middle, program state = (.ok value, middle) ∧ next value middle = (.ok result, final) := by
  cases first : program state with
  | mk outcome middle =>
      cases outcome with
      | error reason => cases (bind_error first).symm.trans ran
      | ok value => exact ⟨value, middle, rfl, (bind_ok first).symm.trans ran⟩

@[simp] theorem read_bind {field : State → Value} :
    ((read field : Program State Fault Value) >>= next) state = next (field state) state := rfl

@[simp] theorem change_bind {update : State → State} {after : Unit → Program State Fault Other} :
    ((change update : Program State Fault Unit) >>= after) state = after () (update state) := rfl

@[simp] theorem fault_bind :
    ((fault reason : Program State Fault Value) >>= next) state = (.error reason, state) := rfl

@[simp] theorem pure_bind_run :
    ((pure value : Program State Fault Value) >>= next) state = next value state := rfl

/-! ## What a program may do -/

/-- Every run of the program, faulty or not, relates its first state to its last. -/
def Respects (relation : State → State → Prop) (program : Program State Fault Value) : Prop :=
  ∀ state, relation state (program state).2

variable {relation : State → State → Prop}

theorem Respects.run {outcome : Except Fault Value} {final : State}
    (respects : Respects relation program) (ran : program state = (outcome, final)) :
    relation state final := by
  have related := respects state
  rw [ran] at related
  exact related

theorem respects_pure (reflexive : ∀ state, relation state state) :
    Respects relation (pure value : Program State Fault Value) :=
  reflexive

theorem respects_fault (reflexive : ∀ state, relation state state) :
    Respects relation (fault reason : Program State Fault Value) :=
  reflexive

theorem Respects.bind
    (transitive : ∀ {first second third}, relation first second → relation second third →
      relation first third)
    (head : Respects relation program) (tail : ∀ value, Respects relation (next value)) :
    Respects relation (program >>= next) := by
  intro state
  have first := head state
  cases ran : program state with
  | mk outcome middle =>
      rw [ran] at first
      cases outcome with
      | error reason =>
          rw [bind_error ran]
          exact first
      | ok value =>
          rw [bind_ok ran]
          exact transitive first (tail value middle)

/-- The rule for a program followed by another that relies on what the first one answers. -/
theorem Respects.bind_result {post : Value → Prop}
    (transitive : ∀ {first second third}, relation first second → relation second third →
      relation first third)
    (head : Respects relation program)
    (answers : ∀ state value final, program state = (.ok value, final) → post value)
    (tail : ∀ value, post value → Respects relation (next value)) :
    Respects relation (program >>= next) := by
  intro state
  have first := head state
  cases ran : program state with
  | mk outcome middle =>
      rw [ran] at first
      cases outcome with
      | error reason =>
          rw [bind_error ran]
          exact first
      | ok value =>
          rw [bind_ok ran]
          exact transitive first (tail value (answers state value middle ran) middle)

/-! ## What a program runs into -/

def Fails (program : Program State Fault Value) (state : State) : Prop :=
  ∃ reason, (program state).1 = .error reason

theorem fails_fault : Fails (fault reason : Program State Fault Value) state := ⟨reason, rfl⟩

theorem not_fails (ran : program state = (.ok value, middle)) : ¬ Fails program state := by
  rintro ⟨reason, failed⟩
  rw [ran] at failed
  cases failed

theorem not_fails_iff : ¬ Fails program state ↔
    ∃ value final, program state = (.ok value, final) := by
  constructor
  · intro fine
    cases ran : program state with
    | mk outcome final =>
        cases outcome with
        | error reason => exact absurd ⟨reason, by rw [ran]⟩ fine
        | ok value => exact ⟨value, final, rfl⟩
  · rintro ⟨value, final, ran⟩
    exact not_fails ran

theorem fails_bind_of_fails (failed : Fails program state) : Fails (program >>= next) state := by
  obtain ⟨reason, stopped⟩ := failed
  cases ran : program state with
  | mk outcome middle =>
      rw [ran] at stopped
      dsimp only at stopped
      subst stopped
      exact ⟨reason, by rw [bind_error ran]⟩

theorem fails_bind_ok (ran : program state = (.ok value, middle)) :
    Fails (program >>= next) state ↔ Fails (next value) middle := by
  rw [Fails, bind_ok ran, Fails]

/-! ## What a program comes to -/

/-- From every state with the precondition the program completes, and its value and
last state meet the postcondition. -/
def Ensures (before : State → Prop) (program : Program State Fault Value)
    (after : Value → State → Prop) : Prop :=
  ∀ state, before state → ∃ value final, program state = (.ok value, final) ∧ after value final

variable {before sooner : State → Prop} {between after : Value → State → Prop}
  {last : Other → State → Prop}

theorem ensures_pure (holds : ∀ state, before state → after value state) :
    Ensures before (pure value : Program State Fault Value) after :=
  fun state started => ⟨value, state, rfl, holds state started⟩

theorem ensures_change {update : State → State} {done : Unit → State → Prop}
    (kept : ∀ state, before state → done () (update state)) :
    Ensures before (change update : Program State Fault Unit) done :=
  fun state started => ⟨(), update state, rfl, kept state started⟩

theorem Ensures.bind (head : Ensures before program between)
    (tail : ∀ value, Ensures (between value) (next value) last) :
    Ensures before (program >>= next) last := by
  intro state started
  obtain ⟨value, middle, ran, reached⟩ := head state started
  obtain ⟨result, final, continued, met⟩ := tail value middle reached
  exact ⟨result, final, (bind_ok ran).trans continued, met⟩

theorem Ensures.imp (ensured : Ensures before program after)
    (implied : ∀ state, sooner state → before state) : Ensures sooner program after :=
  fun state started => ensured state (implied state started)

theorem Ensures.read {field : State → Value}
    (tail : ∀ value, Ensures (fun state => before state ∧ field state = value) (next value) last) :
    Ensures before (Program.read field >>= next) last :=
  fun state started => tail (field state) state ⟨started, rfl⟩

end Program

end Vi53xx.Foundation
