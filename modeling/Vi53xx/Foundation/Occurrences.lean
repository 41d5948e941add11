import Mathlib.Algebra.BigOperators.Ring.Finset
import Mathlib.Algebra.Order.BigOperators.Group.Finset
import Mathlib.Data.Nat.Find

/-! Keys that occur several times: each occurrence and the one that follows it, and how
many members of a list have a key that occurs again. -/

set_option autoImplicit false

namespace Vi53xx.Foundation

variable {Key : Type} {key : Nat → Key} {earlier later other : Nat}

/-- The later place is the next one with the key of the earlier place. -/
structure Successive (key : Nat → Key) (earlier later : Nat) : Prop where
  before : earlier < later
  same : key earlier = key later
  nearest : ∀ between, earlier < between → between < later → key between ≠ key earlier

theorem Successive.right_unique (first : Successive key earlier later)
    (second : Successive key earlier other) : later = other := by
  rcases lt_trichotomy later other with below | same | above
  · exact absurd first.same.symm (second.nearest later first.before below)
  · exact same
  · exact absurd second.same.symm (first.nearest other second.before above)

theorem exists_successive_after (before : earlier < later) (same : key earlier = key later) :
    ∃ next, next ≤ later ∧ Successive key earlier next := by
  classical
  have some : ∃ place, earlier < place ∧ key earlier = key place := ⟨later, before, same⟩
  refine ⟨Nat.find some, Nat.find_min' some ⟨before, same⟩, (Nat.find_spec some).1,
    (Nat.find_spec some).2, ?_⟩
  intro between above below equal
  exact Nat.find_min some below ⟨above, equal.symm⟩

theorem exists_successive_before (before : earlier < later) (same : key earlier = key later) :
    ∃ last, earlier ≤ last ∧ Successive key last later := by
  induction gap : later - earlier using Nat.strong_induction_on generalizing earlier with
  | _ distance ih =>
      obtain ⟨next, bounded, successive⟩ := exists_successive_after before same
      rcases Nat.lt_or_eq_of_le bounded with below | reached
      · have closer : later - next < distance := by
          have above := successive.before
          omega
        obtain ⟨last, after, found⟩ :=
          ih (later - next) closer below (successive.same.symm.trans same) rfl
        exact ⟨last, successive.before.le.trans after, found⟩
      · exact ⟨earlier, le_rfl, reached ▸ successive⟩

/-! ## Counting -/

theorem length_filter_eq_sum {keys : List Key} (wanted : Key → Bool) :
    (keys.filter wanted).length = (keys.map fun key => if wanted key then 1 else 0).sum := by
  induction keys with
  | nil => rfl
  | cons key rest ih =>
      cases here : wanted key with
      | false => simp [here, ih]
      | true => simp [here, ih, Nat.add_comm]

variable [DecidableEq Key] {keys : List Key}

/-- The members of the list whose key is that of another member as well. -/
def shared (keys : List Key) : List Key := keys.filter fun key => 1 < keys.count key

theorem length_shared :
    (shared keys).length =
      ∑ key ∈ keys.toFinset, if 1 < keys.count key then keys.count key else 0 := by
  rw [shared, length_filter_eq_sum, Finset.sum_list_map_count]
  refine Finset.sum_congr rfl fun key _ => ?_
  by_cases several : 1 < keys.count key
  · simp [several]
  · simp [several]

/-- The members that are not the only ones with their key are twice as many as there are
members too many exactly when no key occurs three times. -/
theorem length_shared_eq_iff :
    (shared keys).length = 2 * (keys.length - keys.toFinset.card) ↔
      ∀ key, keys.count key ≤ 2 := by
  have total := List.sum_toFinset_count_eq_length keys
  have positive : ∀ key ∈ keys.toFinset, 1 ≤ keys.count key := by
    intro key member
    exact List.one_le_count_iff.mpr (List.mem_toFinset.mp member)
  have excess : keys.length - keys.toFinset.card =
      ∑ key ∈ keys.toFinset, (keys.count key - 1) := by
    rw [← total, Finset.card_eq_sum_ones, Finset.sum_tsub_distrib _ positive]
  rw [length_shared, excess, Finset.mul_sum, Finset.sum_eq_sum_iff_of_le]
  · constructor
    · intro equal key
      by_cases member : key ∈ keys
      · have here := equal key (List.mem_toFinset.mpr member)
        split at here <;> omega
      · simp [List.count_eq_zero_of_not_mem member]
    · intro few key member
      have bounded := few key
      have present := positive key member
      split <;> omega
  · intro key member
    have present := positive key member
    split <;> omega

end Vi53xx.Foundation
