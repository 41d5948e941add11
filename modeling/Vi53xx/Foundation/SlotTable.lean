import Mathlib.Data.Fintype.Card
import Mathlib.Data.Fintype.BigOperators

/-! Fixed-size tables of slots that are empty or hold an entry, searched and
filled from the first slot on. The key of an entry is a function of it, so two
slots may hold entries of one key unless the table is `Keyed`. -/

set_option autoImplicit false

namespace Vi53xx.Foundation

abbrev Slots (size : Nat) (Entry : Type) := Fin size → Option Entry

namespace Slots

variable {size : Nat} {Entry Key : Type}

def empty : Slots size Entry := fun _ => none

/-- The entry of the first slot below `bound` that is wanted. -/
def lookup (table : Slots size Entry) (bound : Nat) (wanted : Entry → Bool) : Option Entry :=
  (List.finRange size).findSome? fun slot =>
    if slot.val < bound then (table slot).filter wanted else none

def freeSlot (table : Slots size Entry) (bound : Nat) : Option (Fin size) :=
  (List.finRange size).find? fun slot => decide (slot.val < bound) && (table slot).isNone

def store (table : Slots size Entry) (slot : Fin size) (entry : Entry) : Slots size Entry :=
  fun other => if other = slot then some entry else table other

/-- The table after every slot with an unwanted entry has been emptied. -/
def release (table : Slots size Entry) (unwanted : Entry → Bool) : Slots size Entry :=
  fun slot => (table slot).filter fun entry => !unwanted entry

def occupied (table : Slots size Entry) : Nat :=
  (List.finRange size).countP fun slot => (table slot).isSome

/-- No two slots hold entries of one key. -/
def Keyed (key : Entry → Key) (table : Slots size Entry) : Prop :=
  ∀ first second left right, table first = some left → table second = some right →
    key left = key right → first = second

/-- Every slot in use lies below `bound`. -/
def Below (bound : Nat) (table : Slots size Entry) : Prop :=
  ∀ slot entry, table slot = some entry → slot.val < bound

variable {table : Slots size Entry} {bound : Nat} {wanted unwanted : Entry → Bool}
  {slot other : Fin size} {entry found : Entry} {key : Entry → Key}

@[simp] theorem empty_apply : (empty : Slots size Entry) slot = none := rfl

@[simp] theorem store_same : table.store slot entry slot = some entry := by simp [store]

theorem store_other (different : other ≠ slot) : table.store slot entry other = table other := by
  simp [store, different]

theorem store_eq_some_iff :
    table.store slot entry other = some found ↔
      (other = slot ∧ entry = found) ∨ (other ≠ slot ∧ table other = some found) := by
  by_cases same : other = slot <;> simp [store, same]

@[simp] theorem release_eq_some_iff :
    table.release unwanted slot = some entry ↔ table slot = some entry ∧ unwanted entry = false := by
  simp [release, Option.filter_eq_some_iff]

/-! ## Searching -/

theorem lookup_eq_none_iff :
    table.lookup bound wanted = none ↔
      ∀ slot entry, slot.val < bound → table slot = some entry → wanted entry = false := by
  simp only [lookup, List.findSome?_eq_none_iff, List.mem_finRange, forall_const]
  constructor
  · intro absent slot entry low held
    simpa [low, held, Option.filter] using absent slot
  · intro absent slot
    split
    · next low =>
        cases held : table slot with
        | none => rfl
        | some entry => simp [Option.filter, absent slot entry low held]
    · rfl

theorem lookup_some (result : table.lookup bound wanted = some found) :
    ∃ slot, slot.val < bound ∧ table slot = some found ∧ wanted found = true := by
  obtain ⟨slot, _, here⟩ := List.exists_of_findSome?_eq_some result
  split at here
  · next low =>
      obtain ⟨held, good⟩ := Option.filter_eq_some_iff.mp here
      exact ⟨slot, low, held, good⟩
  · cases here

theorem lookup_key_eq_some_iff [DecidableEq Key] {sought : Key} (keyed : Keyed key table) :
    table.lookup bound (fun entry => key entry == sought) = some found ↔
      ∃ slot, slot.val < bound ∧ table slot = some found ∧ key found = sought := by
  constructor
  · intro result
    obtain ⟨slot, low, held, good⟩ := lookup_some result
    exact ⟨slot, low, held, by simpa using good⟩
  · rintro ⟨slot, low, held, matched⟩
    cases result : table.lookup bound (fun entry => key entry == sought) with
    | none =>
        have unwanted := lookup_eq_none_iff.mp result slot found low held
        simp [matched] at unwanted
    | some other =>
        obtain ⟨place, _, there, good⟩ := lookup_some result
        have same : place = slot :=
          keyed place slot other found there held (by rw [matched]; simpa using good)
        rw [same, held] at there
        exact there.symm

@[simp] theorem lookup_empty : (empty : Slots size Entry).lookup bound wanted = none :=
  lookup_eq_none_iff.mpr (by simp)

@[simp] theorem lookup_zero : table.lookup 0 wanted = none :=
  lookup_eq_none_iff.mpr (by simp)

theorem lookup_release (spared : ∀ entry, wanted entry = true → unwanted entry = false) :
    (table.release unwanted).lookup bound wanted = table.lookup bound wanted := by
  unfold lookup
  congr 1
  funext slot
  split
  · cases held : table slot with
    | none => simp [release, held]
    | some entry =>
        cases good : wanted entry with
        | false => cases gone : unwanted entry <;> simp [release, held, Option.filter, good, gone]
        | true => simp [release, held, Option.filter, good, spared entry good]
  · rfl

theorem lookup_release_self : (table.release wanted).lookup bound wanted = none := by
  refine lookup_eq_none_iff.mpr ?_
  intro slot entry _ held
  exact (release_eq_some_iff.mp held).2

theorem freeSlot_some (result : table.freeSlot bound = some slot) :
    slot.val < bound ∧ table slot = none := by
  have here := List.find?_some result
  simpa using here

theorem freeSlot_eq_none_iff :
    table.freeSlot bound = none ↔ ∀ slot, slot.val < bound → table slot ≠ none := by
  simp [freeSlot, List.find?_eq_none]

theorem release_store (free : table slot = none) (wants : wanted entry = true)
    (absent : ∀ other found, table other = some found → wanted found = false) :
    (table.store slot entry).release wanted = table := by
  funext place
  by_cases same : place = slot
  · subst same
    simp [release, wants, free]
  · rw [release, store_other same]
    cases held : table place with
    | none => rfl
    | some found => simp [Option.filter, absent place found held]

/-! ## The only wanted entry -/

/-- The slot holds the entry, and no other slot holds a wanted one. -/
structure Only (wanted : Entry → Bool) (table : Slots size Entry) (slot : Fin size)
    (entry : Entry) : Prop where
  held : table slot = some entry
  wants : wanted entry = true
  alone : ∀ other found, table other = some found → wanted found = true → other = slot

theorem Only.lookup (only : Only wanted table slot entry) (low : slot.val < bound) :
    table.lookup bound wanted = some entry := by
  cases result : table.lookup bound wanted with
  | none =>
      have unwanted := lookup_eq_none_iff.mp result slot entry low only.held
      rw [only.wants] at unwanted
      cases unwanted
  | some found =>
      obtain ⟨place, _, there, good⟩ := lookup_some result
      rw [only.alone place found there good, only.held] at there
      exact there.symm

theorem Only.stored (wants : wanted entry = true)
    (absent : ∀ other found, table other = some found → wanted found = false) :
    Only wanted (table.store slot entry) slot entry := by
  refine ⟨store_same, wants, ?_⟩
  intro other found held good
  rcases store_eq_some_iff.mp held with ⟨same, _⟩ | ⟨_, before⟩
  · exact same
  · rw [absent other found before] at good
    cases good

theorem Only.store {place : Fin size} (only : Only wanted table slot entry)
    (free : table place = none) (unwanted : wanted found = false) :
    Only wanted (table.store place found) slot entry := by
  have apart : slot ≠ place := by
    intro same
    rw [← same, only.held] at free
    cases free
  refine ⟨by rw [store_other apart, only.held], only.wants, ?_⟩
  intro other there held good
  rcases store_eq_some_iff.mp held with ⟨_, rfl⟩ | ⟨_, before⟩
  · rw [unwanted] at good
    cases good
  · exact only.alone other there before good

theorem Only.release (only : Only wanted table slot entry) (spared : unwanted entry = false) :
    Only wanted (table.release unwanted) slot entry := by
  refine ⟨release_eq_some_iff.mpr ⟨only.held, spared⟩, only.wants, ?_⟩
  intro other found held
  exact only.alone other found (release_eq_some_iff.mp held).1

/-! ## Keys and places -/

theorem keyed_empty : Keyed key (empty : Slots size Entry) := by
  intro first second left right held
  cases held

theorem below_empty : Below bound (empty : Slots size Entry) := by
  intro slot entry held
  cases held

theorem Keyed.release (keyed : Keyed key table) : Keyed key (table.release unwanted) := by
  intro first second left right held there same
  exact keyed first second left right (release_eq_some_iff.mp held).1
    (release_eq_some_iff.mp there).1 same

theorem Below.release (below : Below bound table) : Below bound (table.release unwanted) := by
  intro slot entry held
  exact below slot entry (release_eq_some_iff.mp held).1

theorem Below.store (below : Below bound table) (low : slot.val < bound) :
    Below bound (table.store slot entry) := by
  intro place found held
  rcases store_eq_some_iff.mp held with ⟨rfl, _⟩ | ⟨_, held⟩
  · exact low
  · exact below place found held

theorem Keyed.store (keyed : Keyed key table)
    (fresh : ∀ other found, table other = some found → key found ≠ key entry) :
    Keyed key (table.store slot entry) := by
  intro first second left right held there same
  rcases store_eq_some_iff.mp held with ⟨rfl, rfl⟩ | ⟨_, before⟩ <;>
    rcases store_eq_some_iff.mp there with ⟨rfl, rfl⟩ | ⟨_, after⟩
  · rfl
  · exact absurd same.symm (fresh second right after)
  · exact absurd same (fresh first left before)
  · exact keyed first second left right before after same

/-! ## Searching for keys -/

theorem lookup_store_key [DecidableEq Key] {sought : Key} (keyed : Keyed key table)
    (free : table slot = none) (low : slot.val < bound)
    (fresh : ∀ other found, table other = some found → key found ≠ key entry) :
    (table.store slot entry).lookup bound (fun found => key found == sought) =
      if key entry = sought then some entry
      else table.lookup bound fun found => key found == sought := by
  have stored : Keyed key (table.store slot entry) := keyed.store fresh
  split
  · next matched =>
      exact (lookup_key_eq_some_iff stored).mpr ⟨slot, low, store_same, matched⟩
  · next different =>
      ext found
      rw [lookup_key_eq_some_iff stored, lookup_key_eq_some_iff keyed]
      constructor
      · intro there
        obtain ⟨place, inside, held, matched⟩ := there
        rcases store_eq_some_iff.mp held with ⟨_, rfl⟩ | ⟨_, before⟩
        · exact absurd matched different
        · exact ⟨place, inside, before, matched⟩
      · intro there
        obtain ⟨place, inside, held, matched⟩ := there
        have apart : place ≠ slot := by
          intro same
          rw [same, free] at held
          cases held
        exact ⟨place, inside, by rw [store_other apart, held], matched⟩

theorem lookup_release_key [DecidableEq Key] {sought gone : Key} :
    (table.release fun found => key found == gone).lookup bound (fun found => key found == sought) =
      if sought = gone then none else table.lookup bound fun found => key found == sought := by
  split
  · next same =>
      rw [same]
      exact lookup_release_self
  · next different =>
      apply lookup_release
      intro found wanted
      have matched : key found = sought := by simpa using wanted
      simp [matched, different]

/-! ## Counting -/

theorem occupied_eq_card :
    table.occupied = (Finset.univ.filter fun slot => (table slot).isSome).card := by
  unfold occupied
  rw [List.countP_eq_length_filter, ← List.toFinset_card_of_nodup
    ((List.nodup_finRange size).filter _)]
  congr 1
  ext slot
  simp

@[simp] theorem occupied_empty : (empty : Slots size Entry).occupied = 0 := by
  simp [occupied]

theorem occupied_eq_zero_iff : table.occupied = 0 ↔ ∀ slot, table slot = none := by
  simp [occupied, List.countP_eq_zero]

theorem occupied_release_key [DecidableEq Key] {sought : Key} (keyed : Keyed key table)
    (held : table slot = some entry) (matched : key entry = sought) :
    (table.release fun entry => key entry == sought).occupied + 1 = table.occupied := by
  classical
  have shrunk : (Finset.univ.filter fun place => (table place).isSome) =
      insert slot (Finset.univ.filter fun place =>
        (table.release (fun entry => key entry == sought) place).isSome) := by
    ext place
    by_cases same : place = slot
    · simp [same, held]
    · cases there : table place with
      | none => simp [Slots.release, there, same]
      | some other =>
          have differs : key other ≠ sought := by
            intro equal
            exact same (keyed place slot other entry there held (by rw [equal, matched]))
          simp [Slots.release, there, Option.filter, differs]
  have emptied : table.release (fun entry => key entry == sought) slot = none := by
    simp [Slots.release, held, Option.filter, matched]
  rw [occupied_eq_card, occupied_eq_card, shrunk, Finset.card_insert_of_notMem (by simp [emptied])]

theorem occupied_le (below : Below bound table) : table.occupied ≤ bound := by
  classical
  rw [occupied_eq_card]
  calc (Finset.univ.filter fun slot => (table slot).isSome).card
      = ((Finset.univ.filter fun slot => (table slot).isSome).image Fin.val).card := by
        rw [Finset.card_image_of_injective _ Fin.val_injective]
    _ ≤ (Finset.range bound).card := by
        refine Finset.card_le_card ?_
        intro index member
        obtain ⟨slot, used, rfl⟩ := Finset.mem_image.mp member
        obtain ⟨entry, held⟩ := Option.isSome_iff_exists.mp (Finset.mem_filter.mp used).2
        exact Finset.mem_range.mpr (below slot entry held)
    _ = bound := Finset.card_range bound

/-- The pigeonhole principle of a keyed table: when all keys come from a list
with no more members than there are slots below `bound`, and one of them is not
in the table, a slot below `bound` is empty. -/
theorem freeSlot_isSome [DecidableEq Key] {keys : List Key} {missing : Key} (keyed : Keyed key table)
    (fits : bound ≤ size) (few : keys.length ≤ bound)
    (known : ∀ slot entry, table slot = some entry → key entry ∈ keys)
    (member : missing ∈ keys)
    (absent : ∀ slot entry, table slot = some entry → key entry ≠ missing) :
    ∃ slot, table.freeSlot bound = some slot := by
  classical
  refine Option.isSome_iff_exists.mp (Option.isSome_iff_ne_none.mpr ?_)
  intro full
  have held : ∀ index : Fin bound, ∃ entry, table (Fin.castLE fits index) = some entry := by
    intro index
    exact Option.ne_none_iff_exists'.mp
      (freeSlot_eq_none_iff.mp full (Fin.castLE fits index) index.isLt)
  choose entryAt atSlot using held
  have injective : Function.Injective fun index => key (entryAt index) := by
    intro first second same
    exact Fin.castLE_injective fits
      (keyed _ _ _ _ (atSlot first) (atSlot second) same)
  have remaining : Finset.univ.image (fun index => key (entryAt index)) ⊆
      keys.toFinset.erase missing := by
    intro value included
    obtain ⟨index, _, rfl⟩ := Finset.mem_image.mp included
    exact Finset.mem_erase.mpr ⟨absent _ _ (atSlot index),
      List.mem_toFinset.mpr (known _ _ (atSlot index))⟩
  have bounded := Finset.card_le_card remaining
  rw [Finset.card_image_of_injective _ injective, Finset.card_fin,
    Finset.card_erase_of_mem (List.mem_toFinset.mpr member)] at bounded
  have distinct := List.toFinset_card_le keys
  have positive : 0 < keys.toFinset.card :=
    Finset.card_pos.mpr ⟨missing, List.mem_toFinset.mpr member⟩
  omega

/-! ## The entries of a table -/

def entries (table : Slots size Entry) : List Entry := (List.finRange size).filterMap table

/-- The table with the chosen slots alone. -/
def select (table : Slots size Entry) (chosen : Fin size → Bool) : Slots size Entry :=
  fun slot => if chosen slot then table slot else none

@[simp] theorem entries_empty : (empty : Slots size Entry).entries = [] := by
  simp [entries, empty]

theorem entries_eq_nil_iff : table.entries = [] ↔ ∀ slot, table slot = none := by
  simp [entries, List.filterMap_eq_nil_iff]

theorem entries_store (free : table slot = none) :
    (table.store slot entry).entries.Perm (entry :: table.entries) := by
  have split : (List.finRange size).Perm (slot :: (List.finRange size).erase slot) :=
    List.perm_cons_erase (List.mem_finRange slot)
  have others : ((List.finRange size).erase slot).filterMap (table.store slot entry) =
      ((List.finRange size).erase slot).filterMap table := by
    refine List.filterMap_congr ?_
    intro other member
    have different := ((List.nodup_finRange size).mem_erase_iff.mp member).1
    rw [store_other different]
  have stored := split.filterMap (table.store slot entry)
  have before := split.filterMap table
  rw [List.filterMap_cons_some store_same, others] at stored
  rw [List.filterMap_cons_none free] at before
  exact stored.trans (before.symm.cons entry)

/-- The entries of a table are those of the chosen slots and those of the others. -/
theorem entries_select {chosen : Fin size → Bool} :
    table.entries.Perm
      ((table.select chosen).entries ++ (table.select fun slot => !chosen slot).entries) := by
  have some_slots {choice : Fin size → Bool} {slots : List (Fin size)} :
      slots.filterMap (table.select choice) = (slots.filter choice).filterMap table := by
    induction slots with
    | nil => rfl
    | cons slot rest ih =>
        cases picked : choice slot with
        | false =>
            have missing : table.select choice slot = none := by simp [select, picked]
            rw [List.filterMap_cons_none missing, List.filter_cons_of_neg (by simp [picked]), ih]
        | true =>
            have there : table.select choice slot = table slot := by simp [select, picked]
            rw [List.filter_cons_of_pos picked, List.filterMap_cons, List.filterMap_cons, there, ih]
  have parted := (List.filter_append_perm chosen (List.finRange size)).symm.filterMap table
  rw [List.filterMap_append] at parted
  rw [entries, entries, entries, some_slots, some_slots]
  exact parted

end Slots

end Vi53xx.Foundation
