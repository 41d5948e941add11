import Mathlib.Logic.Function.Basic
import Vi53xx.Foundation.Unwinding

/-! Families of machines that have a state of their own each and a state in common. What is
known of one machine, and says its part of either state on its own, holds of all machines
while they take steps in any order. -/

set_option autoImplicit false

namespace Vi53xx.Foundation

variable {State Own Common : Type} {Spec SpecOwn SpecCommon : Type} {Id Action : Type}

/-- A state that consists of what a machine has on its own and what all machines share. -/
structure Sharing (State Own Common : Type) where
  join : Own → Common → State
  own : State → Own
  common : State → Common
  join_parts : ∀ state, join (own state) (common state) = state
  own_join : ∀ part rest, own (join part rest) = part
  common_join : ∀ part rest, common (join part rest) = rest

structure Family (Id Own Common : Type) where
  own : Id → Own
  common : Common

namespace Family

variable (sharing : Sharing State Own Common) [DecidableEq Id]

/-- A machine of the family, with what all share. -/
def member (family : Family Id Own Common) (id : Id) : State :=
  sharing.join (family.own id) family.common

def put (family : Family Id Own Common) (id : Id) (next : State) : Family Id Own Common where
  own := Function.update family.own id (sharing.own next)
  common := sharing.common next

/-- One of the machines takes a step. -/
def step (step : State → Action → Option State) (family : Family Id Own Common) (made : Id × Action) :
    Option (Family Id Own Common) :=
  (step (family.member sharing made.1) made.2).map (family.put sharing made.1)

def advance (step : State → Action → State) (family : Family Id Own Common) (made : Id × Action) :
    Family Id Own Common :=
  family.put sharing made.1 (step (family.member sharing made.1) made.2)

variable {sharing} {family left right : Family Id Own Common} {id other : Id} {next : State}

theorem member_put_self : (family.put sharing id next).member sharing id = next := by
  simp only [member, put, Function.update_self, sharing.join_parts]

theorem member_put_other (different : other ≠ id) :
    (family.put sharing id next).member sharing other =
      sharing.join (sharing.own (family.member sharing other)) (sharing.common next) := by
  simp only [member, put, Function.update_of_ne different, sharing.own_join]

/-- What a relation says of the own parts it says whatever is shared, and the other way
around. -/
def Separate (sharing : Sharing State Own Common) (specSharing : Sharing Spec SpecOwn SpecCommon)
    (related : Spec → State → Prop) : Prop :=
  ∀ spec state others shared, related spec state → related others shared →
    related (specSharing.join (specSharing.own spec) (specSharing.common others))
      (sharing.join (sharing.own state) (sharing.common shared))

section Related

variable {specSharing : Sharing Spec SpecOwn SpecCommon} {related : Spec → State → Prop}
  {specs : Family Id SpecOwn SpecCommon} {nextSpec : Spec}

/-- A step of one machine that keeps a separate relation keeps it for all. -/
theorem put_related (separate : Separate sharing specSharing related)
    (before : ∀ id, related (specs.member specSharing id) (family.member sharing id))
    (after : related nextSpec next) :
    ∀ other, related ((specs.put specSharing id nextSpec).member specSharing other)
      ((family.put sharing id next).member sharing other) := by
  intro other
  by_cases same : other = id
  · subst same
    rw [member_put_self, member_put_self]
    exact after
  · rw [member_put_other same, member_put_other same]
    exact separate _ _ _ _ (before other) after

/-- Where each machine alone can take what is allowed, the machines can in turn. -/
theorem progress {step : State → Action → Option State} {specStep : Spec → Action → Spec}
    {allowed : Spec → Action → Prop} (separate : Separate sharing specSharing related)
    (alone : ∀ spec state action, related spec state → allowed spec action →
      ∃ next, step state action = some next ∧ related (specStep spec action) next)
    (made : Id × Action)
    (before : ∀ id, related (specs.member specSharing id) (family.member sharing id))
    (permitted : allowed (specs.member specSharing made.1) made.2) :
    ∃ next, family.step sharing step made = some next ∧
      ∀ id, related ((specs.advance specSharing specStep made).member specSharing id)
        (next.member sharing id) := by
  obtain ⟨next, stepped, after⟩ := alone _ _ _ (before made.1) permitted
  refine ⟨family.put sharing made.1 next, ?_, put_related separate before after⟩
  rw [Family.step, stepped, Option.map_some]

end Related

/-- What is not seen of one machine is not seen of a family. -/
theorem unwinding {step : State → Action → State} {kept : Action → Bool}
    {alike : State → State → Prop} (separate : Separate sharing sharing alike)
    (alone : Unwinding step kept alike) :
    Unwinding (Family.advance sharing step) (fun made : Id × Action => kept made.2)
      (fun left right => ∀ id, alike (left.member sharing id) (right.member sharing id)) where
  consistent := by
    intro left right made keeps before
    exact put_related separate before (alone.consistent _ _ _ keeps (before made.1))
  unseen := by
    intro left right made dropped before
    have after := alone.unseen _ _ _ dropped (before made.1)
    have same : right.put sharing made.1 (right.member sharing made.1) = right := by
      rw [put, member, sharing.own_join, sharing.common_join, Function.update_eq_self]
    rw [← same]
    exact put_related separate before after

end Family

end Vi53xx.Foundation
