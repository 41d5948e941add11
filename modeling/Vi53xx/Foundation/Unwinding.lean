import Vi53xx.Foundation.Runs

/-! Noninterference by unwinding: what a part of a system sees after a run is what it
sees after the run of its own actions. -/

set_option autoImplicit false

namespace Vi53xx.Foundation

variable {State Action : Type}

/-- The kept actions do the same to states that look the same, and no other is seen. -/
structure Unwinding (step : State → Action → State) (kept : Action → Bool)
    (alike : State → State → Prop) : Prop where
  consistent : ∀ left right action, kept action = true → alike left right →
    alike (step left action) (step right action)
  unseen : ∀ left right action, kept action = false → alike left right →
    alike (step left action) right

namespace Unwinding

variable {step : State → Action → State} {kept : Action → Bool} {alike : State → State → Prop}
  {allowed : State → Action → Prop} {left right : State} {actions : List Action}

theorem purge (unwinding : Unwinding step kept alike) (start : alike left right) :
    alike (actions.foldl step left) ((actions.filter kept).foldl step right) := by
  induction actions generalizing left right with
  | nil => exact start
  | cons action rest ih =>
      cases keeps : kept action with
      | true =>
          rw [List.filter_cons_of_pos keeps]
          exact ih (unwinding.consistent left right action keeps start)
      | false =>
          rw [List.filter_cons_of_neg (by simp [keeps])]
          exact ih (unwinding.unseen left right action keeps start)

/-- What is allowed of the kept actions is allowed when they are on their own. -/
theorem eachStep_purge (unwinding : Unwinding step kept alike)
    (agrees : ∀ left right action, kept action = true → alike left right →
      allowed left action → allowed right action)
    (start : alike left right)
    (guarded : EachStep (fun state action => some (step state action)) allowed left actions) :
    EachStep (fun state action => some (step state action)) allowed right (actions.filter kept) := by
  induction actions generalizing left right with
  | nil => trivial
  | cons action rest ih =>
      cases keeps : kept action with
      | true =>
          rw [List.filter_cons_of_pos keeps]
          refine ⟨agrees left right action keeps start guarded.1, ?_⟩
          intro next same
          cases same
          exact ih (unwinding.consistent left right action keeps start) (guarded.2 _ rfl)
      | false =>
          rw [List.filter_cons_of_neg (by simp [keeps])]
          exact ih (unwinding.unseen left right action keeps start) (guarded.2 _ rfl)

end Unwinding

end Vi53xx.Foundation
