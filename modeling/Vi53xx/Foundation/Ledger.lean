import Mathlib.Data.List.Nodup
import Mathlib.Data.List.Pairwise
import Mathlib.Data.List.Perm.Basic

/-! An account of what has been taken from a provider and given back to it. It is
right when everything taken has either been given back or is held, each thing as
often as it was taken. -/

set_option autoImplicit false

namespace Vi53xx.Foundation

variable {Item Owner : Type}

structure Ledger (Item : Type) where
  taken : List Item
  returned : List Item

namespace Ledger

def empty : Ledger Item := ⟨[], []⟩

def take (items : List Item) (ledger : Ledger Item) : Ledger Item :=
  { ledger with taken := ledger.taken ++ items }

def giveBack (items : List Item) (ledger : Ledger Item) : Ledger Item :=
  { ledger with returned := ledger.returned ++ items }

def Accounts (ledger : Ledger Item) (held : List Item) : Prop :=
  ledger.taken.Perm (ledger.returned ++ held)

variable {ledger : Ledger Item} {held rest : List Item}

theorem accounts_empty : (empty : Ledger Item).Accounts [] := List.Perm.refl []

theorem Accounts.perm (accounts : ledger.Accounts held) (same : held.Perm rest) :
    ledger.Accounts rest :=
  accounts.trans (same.append_left ledger.returned)

theorem Accounts.take (accounts : ledger.Accounts held) (items : List Item) :
    (ledger.take items).Accounts (items ++ held) := by
  have first : (ledger.taken ++ items).Perm ((ledger.returned ++ held) ++ items) :=
    accounts.append_right items
  have last : ((ledger.returned ++ held) ++ items).Perm (ledger.returned ++ (items ++ held)) := by
    rw [List.append_assoc]
    exact List.perm_append_comm.append_left ledger.returned
  exact first.trans last

theorem Accounts.giveBack (items : List Item) (accounts : ledger.Accounts (items ++ held)) :
    (ledger.giveBack items).Accounts held := by
  have same : ledger.returned ++ (items ++ held) = (ledger.returned ++ items) ++ held :=
    (List.append_assoc _ _ _).symm
  exact accounts.trans (List.Perm.of_eq same)

/-- What is taken and given back at once leaves the account as it was. -/
theorem Accounts.borrow (accounts : ledger.Accounts held) (items : List Item) :
    ((ledger.take items).giveBack items).Accounts held :=
  (accounts.take items).giveBack items

/-- Where nothing is taken twice, nothing is given back twice or while it is held. -/
theorem Accounts.nodup (accounts : ledger.Accounts held) (fresh : ledger.taken.Nodup) :
    ledger.returned.Nodup ∧ held.Nodup ∧ ∀ item ∈ held, item ∉ ledger.returned := by
  obtain ⟨returned, holding, apart⟩ := List.nodup_append.mp (accounts.nodup_iff.mp fresh)
  exact ⟨returned, holding, fun item member back => apart item back item member rfl⟩

/-- The account of one kind of item. -/
def filter (kind : Item → Bool) (ledger : Ledger Item) : Ledger Item :=
  ⟨ledger.taken.filter kind, ledger.returned.filter kind⟩

theorem Accounts.filter (kind : Item → Bool) (accounts : ledger.Accounts held) :
    (ledger.filter kind).Accounts (held.filter kind) := by
  have kept := List.Perm.filter kind accounts
  rwa [List.filter_append] at kept

/-- When nothing is held, everything has been given back. -/
theorem Accounts.returned (accounts : ledger.Accounts []) :
    ∀ item ∈ ledger.taken, item ∈ ledger.returned := by
  intro item member
  have back := accounts.mem_iff.mp member
  rwa [List.append_nil] at back

/-- Where everything taken has been given back, is held or is lost, nothing more is
held exactly when nothing is lost. -/
theorem Accounts.accounts_iff {lost : List Item} (accounts : ledger.Accounts (held ++ lost)) :
    ledger.Accounts held ↔ lost = [] := by
  constructor
  · intro whole
    have lengths := accounts.length_eq.symm.trans whole.length_eq
    simp only [List.length_append] at lengths
    exact List.length_eq_zero_iff.mp (by omega)
  · intro none_lost
    rwa [none_lost, List.append_nil] at accounts

/-! ## Holdings by owner -/

/-- The holdings of one owner, set apart from those of the others. -/
theorem holdings_remove [DecidableEq Owner] {owners : List Owner} {owner : Owner}
    {holds : Owner → List Item} (distinct : owners.Nodup) (member : owner ∈ owners) :
    (owners.flatMap holds).Perm
      (holds owner ++ (owners.filter (· ≠ owner)).flatMap holds) := by
  have apart : owners.Perm (owner :: owners.filter (· ≠ owner)) := by
    have erased : owners.erase owner = owners.filter (· ≠ owner) := by
      rw [distinct.erase_eq_filter]
      refine List.filter_congr ?_
      intro other _
      by_cases same : other = owner <;> simp [same]
    rw [← erased]
    exact List.perm_cons_erase member
  exact (apart.flatMap_right holds).trans (List.Perm.of_eq (List.flatMap_cons ..))

/-- What is held once in all is held by one owner. -/
theorem holdings_apart {owners : List Owner} {first second : Owner} {holds : Owner → List Item}
    (once : (owners.flatMap holds).Nodup) (member : first ∈ owners) (other : second ∈ owners)
    (different : first ≠ second) : (holds first).Disjoint (holds second) := by
  obtain ⟨_, apart⟩ := List.nodup_flatMap.mp once
  have symmetric : Std.Symm (Function.onFun List.Disjoint holds) :=
    ⟨fun _ _ unshared _ theirs mine => unshared mine theirs⟩
  exact apart.forall member other different

end Ledger

end Vi53xx.Foundation
