import Mathlib.Data.List.Induction
import Mathlib.Logic.Function.Basic

/-! What a table of open things stands for: a map from names to the handles
under which they were opened. Opening what is open changes nothing. -/

set_option autoImplicit false

namespace Vi53xx.Foundation

variable {Name Handle : Type}

inductive HandleEvent (Name Handle : Type) where
  | opens (name : Name) (handle : Handle)
  | closes (name : Name)

abbrev HandleMap (Name Handle : Type) := Name → Option Handle

namespace HandleMap

def allClosed : HandleMap Name Handle := fun _ => none

variable [DecidableEq Name]

def apply (map : HandleMap Name Handle) : HandleEvent Name Handle → HandleMap Name Handle
  | .opens name handle => fun other =>
      if other = name ∧ map name = none then some handle else map other
  | .closes name => fun other => if other = name then none else map other

def replay (events : List (HandleEvent Name Handle)) : HandleMap Name Handle :=
  events.foldl apply allClosed

variable {map : HandleMap Name Handle} {name other : Name} {handle : Handle}
  {events : List (HandleEvent Name Handle)}

@[simp] theorem replay_nil : replay ([] : List (HandleEvent Name Handle)) = allClosed := rfl

theorem replay_snoc {event : HandleEvent Name Handle} :
    replay (events ++ [event]) = (replay events).apply event := by
  simp [replay]

theorem apply_closes_self : map.apply (.closes name) name = none := by
  simp [apply]

theorem apply_closes_other (different : other ≠ name) :
    map.apply (.closes name) other = map other := by
  simp [apply, different]

theorem apply_opens_self (closed : map name = none) : map.apply (.opens name handle) name = some handle := by
  simp [apply, closed]

theorem apply_opens_open (opened : map name ≠ none) : map.apply (.opens name handle) = map := by
  funext other
  simp [apply, opened]

theorem apply_opens_other (different : other ≠ name) :
    map.apply (.opens name handle) other = map other := by
  simp [apply, different]

/-- The handle of a name is that of the open which last turned it from closed to
open, as long as no close of the name has followed. -/
theorem replay_eq_some_iff :
    replay events name = some handle ↔
      ∃ before after, events = before ++ .opens name handle :: after ∧
        replay before name = none ∧ .closes name ∉ after := by
  constructor
  · intro held
    induction events using List.reverseRecOn with
    | nil => cases held
    | append_singleton events event ih =>
        rw [replay_snoc] at held
        cases event with
        | closes closed =>
            by_cases same : name = closed
            · rw [same, apply_closes_self] at held
              cases held
            · rw [apply_closes_other same] at held
              obtain ⟨before, after, split, closedBefore, untouched⟩ := ih held
              refine ⟨before, after ++ [.closes closed], by simp [split], closedBefore, ?_⟩
              simp [untouched, same]
        | opens opened given =>
            by_cases turned : name = opened ∧ replay events opened = none
            · obtain ⟨rfl, closedBefore⟩ := turned
              rw [apply_opens_self closedBefore] at held
              cases held
              exact ⟨events, [], rfl, closedBefore, by simp⟩
            · have kept : replay events name = some handle := by
                simpa [apply, turned] using held
              obtain ⟨before, after, split, closedBefore, untouched⟩ := ih kept
              refine ⟨before, after ++ [.opens opened given], by simp [split], closedBefore, ?_⟩
              simp [untouched]
  · intro history
    obtain ⟨before, after, split, closedBefore, untouched⟩ := history
    subst split
    induction after using List.reverseRecOn with
    | nil => rw [replay_snoc, apply_opens_self closedBefore]
    | append_singleton after event ih =>
        obtain ⟨others, last⟩ := not_or.mp (mt List.mem_append.mpr untouched)
        have held := ih others
        rw [← List.cons_append, ← List.append_assoc, replay_snoc]
        cases event with
        | closes closed =>
            have different : name ≠ closed := by
              intro same
              simp [same] at last
            rw [apply_closes_other different, held]
        | opens opened given =>
            by_cases same : name = opened
            · subst same
              rw [apply_opens_open (by simp [held]), held]
            · rw [apply_opens_other same, held]

end HandleMap

end Vi53xx.Foundation
