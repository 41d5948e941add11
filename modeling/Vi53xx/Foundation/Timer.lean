import Mathlib.Data.Bool.Basic

/-! One kernel timer. An expiry takes it off the pending set before its handler runs,
and deleting it does not wait for a handler that is in flight. -/

set_option autoImplicit false

namespace Vi53xx.Foundation

/-- `misused` tells whether the timer has ever been added while it was pending. -/
structure Timer where
  pending : Bool
  inFlight : Nat
  misused : Bool
  deriving DecidableEq, Repr

namespace Timer

variable {timer next : Timer}

def idle : Timer := ⟨false, 0, false⟩

def add (timer : Timer) : Timer :=
  { timer with pending := true, misused := timer.misused || timer.pending }

def del (timer : Timer) : Timer := { timer with pending := false }

def expire (timer : Timer) : Option Timer :=
  if timer.pending then some { timer with pending := false, inFlight := timer.inFlight + 1 } else none

/-- One handler returns. -/
def finish (timer : Timer) : Option Timer :=
  match timer.inFlight with
  | 0 => none
  | inFlight + 1 => some { timer with inFlight }

/-- How many times the handler will run if nothing is added or deleted. -/
def activity (timer : Timer) : Nat := timer.pending.toNat + timer.inFlight

@[simp] theorem add_pending : timer.add.pending = true := rfl

@[simp] theorem add_inFlight : timer.add.inFlight = timer.inFlight := rfl

@[simp] theorem add_misused : timer.add.misused = (timer.misused || timer.pending) := rfl

@[simp] theorem del_pending : timer.del.pending = false := rfl

@[simp] theorem del_inFlight : timer.del.inFlight = timer.inFlight := rfl

@[simp] theorem del_misused : timer.del.misused = timer.misused := rfl

@[simp] theorem del_activity : timer.del.activity = timer.inFlight := Nat.zero_add timer.inFlight

theorem add_activity (clear : timer.pending = false) : timer.add.activity = timer.activity + 1 := by
  simp only [activity, add_pending, add_inFlight, clear, Bool.toNat_true, Bool.toNat_false]
  omega

theorem clear_of_activity (idle : timer.activity = 0) : timer.pending = false := by
  cases pending : timer.pending with
  | false => rfl
  | true =>
      rw [activity, pending, Bool.toNat_true] at idle
      omega

theorem add_misused_iff :
    timer.add.misused = false ↔ timer.misused = false ∧ timer.pending = false :=
  Bool.or_eq_false_iff

theorem expire_eq (expired : timer.expire = some next) :
    timer.pending = true ∧ next = { timer with pending := false, inFlight := timer.inFlight + 1 } := by
  unfold expire at expired
  split at expired
  · next pending =>
      cases expired
      exact ⟨pending, rfl⟩
  · cases expired

theorem expire_activity (expired : timer.expire = some next) :
    next.activity = timer.activity ∧ next.misused = timer.misused := by
  obtain ⟨pending, rfl⟩ := expire_eq expired
  simp only [activity, pending, Bool.toNat_true, Bool.toNat_false, and_true]
  omega

theorem finish_activity (finished : timer.finish = some next) :
    timer.activity = next.activity + 1 ∧ next.pending = timer.pending ∧
      next.misused = timer.misused := by
  unfold finish at finished
  cases running : timer.inFlight with
  | zero =>
      rw [running] at finished
      cases finished
  | succ inFlight =>
      rw [running] at finished
      cases finished
      simp only [activity, running, and_true]
      omega

theorem pending_of_activity (quiet : timer.inFlight = 0) :
    timer.pending = true ↔ 0 < timer.activity := by
  cases pending : timer.pending with
  | false => simp [activity, pending, quiet]
  | true => simp [activity, pending, quiet]

end Timer

end Vi53xx.Foundation
