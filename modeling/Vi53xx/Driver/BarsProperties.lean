import Vi53xx.Driver.Bars

/-! Which BARs are mapped after `map_bars`. A BAR whose length has bit 31 set is taken
for one that could not be mapped. -/

set_option autoImplicit false

namespace Vi53xx.Driver

variable {env : BarEnv} {bars : Bars} {idx : Fin xdmaBarNum}
  {done rest places : List (Fin xdmaBarNum)}

/-- Where a BAR is after its turn. -/
def present (env : BarEnv) (idx : Fin xdmaBarNum) : Option Nat :=
  if env.length idx = 0 then none else env.iomap idx

/-- The loop fails at the BAR. -/
def Rejected (env : BarEnv) (idx : Fin xdmaBarNum) : Prop :=
  env.length idx ≠ 0 ∧ (env.iomap idx = none ∨ (env.length idx).getLsbD 31 = true)

/-- The BARs when the loop has been at these. -/
def mappedUpTo (env : BarEnv) (done : List (Fin xdmaBarNum)) : Bars where
  bar := fun idx => if idx ∈ done then present env idx else none
  mapped := done.filterMap (present env)
  unmapped := []

/-! ## One BAR -/

theorem negative_iff {length : BitVec 64} :
    (length.setWidth 32).toInt < 0 ↔ length.getLsbD 31 = true := by
  have sign : (length.setWidth 32).msb = length.getLsbD 31 := by
    simp [BitVec.msb_eq_getLsbD_last]
  rw [← sign, BitVec.msb_eq_toInt, decide_eq_true_iff]

theorem mapSingleBar_negative : (mapSingleBar env bars idx).1 < 0 ↔ Rejected env idx := by
  unfold mapSingleBar Rejected
  dsimp only
  by_cases absent : env.length idx = 0
  · simp [absent]
  · rw [if_neg absent]
    cases mapped : env.iomap idx with
    | none =>
        have negative : (-1 : Int) < 0 := by decide
        exact iff_of_true negative ⟨absent, .inl rfl⟩
    | some address =>
        dsimp only
        rw [negative_iff]
        exact ⟨fun high => ⟨absent, .inr high⟩, fun rejected => rejected.2.resolve_left nofun⟩

theorem setBar_setBar {first last : Option Nat} :
    (bars.setBar idx first).setBar idx last = bars.setBar idx last := by
  simp only [Bars.setBar, Bars.mk.injEq, and_true]
  funext place
  by_cases here : place = idx
  · rw [if_pos here, if_pos here]
  · rw [if_neg here, if_neg here, if_neg here]

theorem mappedUpTo_append {address : Option Nat} (there : present env idx = address) :
    mappedUpTo env (done ++ [idx]) = { (mappedUpTo env done).setBar idx address with
      mapped := (mappedUpTo env done).mapped ++ address.toList } := by
  have last : [idx].filterMap (present env) = address.toList := by
    cases address with
    | none | some address => simp [there]
  simp only [mappedUpTo, Bars.setBar, List.filterMap_append, last, Bars.mk.injEq, and_true]
  funext place
  by_cases here : place = idx
  · simp [here, there]
  · simp [here]

theorem mapSingleBar_mapped :
    (mapSingleBar env (mappedUpTo env done) idx).2 = mappedUpTo env (done ++ [idx]) := by
  unfold mapSingleBar
  dsimp only
  by_cases absent : env.length idx = 0
  · have there : present env idx = none := if_pos absent
    rw [if_pos absent, mappedUpTo_append there, Option.toList_none, List.append_nil]
    rfl
  · rw [if_neg absent]
    cases mapped : env.iomap idx with
    | none =>
        have there : present env idx = none := (if_neg absent).trans mapped
        rw [mappedUpTo_append there, Option.toList_none, List.append_nil]
        rfl
    | some address =>
        have there : present env idx = some address := (if_neg absent).trans mapped
        dsimp only
        rw [mappedUpTo_append there, setBar_setBar]
        rfl

/-! ## Unwinding -/

theorem foldl_unmapBar (distinct : places.Nodup) :
    places.foldl unmapBar bars =
      ⟨fun idx => if idx ∈ places then none else bars.bar idx, bars.mapped,
        bars.unmapped ++ places.filterMap bars.bar⟩ := by
  induction places generalizing bars with
  | nil => simp
  | cons idx rest ih =>
      obtain ⟨fresh, others⟩ := List.nodup_cons.mp distinct
      rw [List.foldl_cons, ih others]
      cases held : bars.bar idx with
      | none =>
          have same : unmapBar bars idx = bars := by simp [unmapBar, held]
          rw [same]
          simp only [List.filterMap_cons, held, Bars.mk.injEq, and_self, and_true]
          funext place
          by_cases here : place = idx
          · simp [here, held]
          · simp [here]
      | some address =>
          have left : rest.filterMap (unmapBar bars idx).bar = rest.filterMap bars.bar := by
            refine List.filterMap_congr ?_
            intro place member
            have apart : place ≠ idx := fun same => fresh (same ▸ member)
            simp [unmapBar, held, Bars.setBar, apart]
          rw [left]
          simp only [unmapBar, held, Bars.setBar, List.filterMap_cons, List.append_assoc,
            List.singleton_append, Bars.mk.injEq, and_true]
          funext place
          by_cases here : place = idx
          · simp [here]
          · simp [here]

/-- Unwinding from the first BARs unmaps what has been mapped, in the same order. -/
theorem unmapBars_mappedUpTo (split : List.finRange xdmaBarNum = done ++ rest) :
    unmapBars (mappedUpTo env done) =
      ⟨fun _ => none, done.filterMap (present env), done.filterMap (present env)⟩ := by
  have distinct : (done ++ rest).Nodup := split ▸ List.nodup_finRange xdmaBarNum
  have first : done.filterMap (mappedUpTo env done).bar = done.filterMap (present env) :=
    List.filterMap_congr fun place member => if_pos member
  have last : rest.filterMap (mappedUpTo env done).bar = [] := by
    refine List.filterMap_eq_nil_iff.mpr ?_
    intro place member
    exact if_neg fun early => (List.disjoint_of_nodup_append distinct) early member
  rw [unmapBars, foldl_unmapBar (List.nodup_finRange xdmaBarNum), split, List.filterMap_append,
    first, last, List.append_nil]
  simp only [mappedUpTo, List.nil_append, Bars.mk.injEq, and_true]
  funext place
  have everyone : place ∈ done ++ rest := split ▸ List.mem_finRange place
  exact if_pos everyone

/-! ## The loop -/

theorem mapBarsLoop_cons : mapBarsLoop env (idx :: rest) (mappedUpTo env done) =
    if (mapSingleBar env (mappedUpTo env done) idx).1 < 0 then
      (-EINVAL, unmapBars (mappedUpTo env (done ++ [idx])))
    else mapBarsLoop env rest (mappedUpTo env (done ++ [idx])) := by
  rw [mapBarsLoop]
  dsimp only
  rw [mapSingleBar_mapped]
  by_cases zero : (mapSingleBar env (mappedUpTo env done) idx).1 = 0
  · simp [zero]
  · rw [if_neg zero]

theorem mapBarsLoop_accepted (accepted : ∀ idx ∈ rest, ¬ Rejected env idx) :
    mapBarsLoop env rest (mappedUpTo env done) = (0, mappedUpTo env (done ++ rest)) := by
  induction rest generalizing done with
  | nil => simp [mapBarsLoop]
  | cons idx rest ih =>
      obtain ⟨here, others⟩ := List.forall_mem_cons.mp accepted
      rw [mapBarsLoop_cons, if_neg (mt mapSingleBar_negative.mp here), ih others,
        List.append_assoc, List.singleton_append]

theorem mapBarsLoop_rejected (rejected : ∃ idx ∈ rest, Rejected env idx) :
    ∃ reached left, done ++ rest = reached ++ left ∧
      mapBarsLoop env rest (mappedUpTo env done) =
        (-EINVAL, unmapBars (mappedUpTo env reached)) := by
  induction rest generalizing done with
  | nil =>
      obtain ⟨_, member, _⟩ := rejected
      cases member
  | cons idx rest ih =>
      rw [mapBarsLoop_cons]
      by_cases here : Rejected env idx
      · rw [if_pos (mapSingleBar_negative.mpr here)]
        exact ⟨done ++ [idx], rest, by simp, rfl⟩
      · obtain ⟨other, member, later⟩ := rejected
        have tail : ∃ idx ∈ rest, Rejected env idx := by
          rcases List.mem_cons.mp member with rfl | member
          · exact absurd later here
          · exact ⟨other, member, later⟩
        obtain ⟨reached, left, split, ran⟩ := @ih (done ++ [idx]) tail
        rw [if_neg (mt mapSingleBar_negative.mp here)]
        exact ⟨reached, left, by simpa using split, ran⟩

theorem mappedUpTo_nil : Bars.zeroed = mappedUpTo env [] := by
  simp [Bars.zeroed, mappedUpTo]

theorem mapBars_accepted (accepted : ∀ idx, ¬ Rejected env idx) :
    mapBars env .zeroed = (0, mappedUpTo env (List.finRange xdmaBarNum)) := by
  rw [mapBars, @mappedUpTo_nil env, mapBarsLoop_accepted fun idx _ => accepted idx,
    List.nil_append]

theorem mapBars_rejected (rejected : Rejected env idx) :
    ∃ addresses, mapBars env .zeroed = (-EINVAL, ⟨fun _ => none, addresses, addresses⟩) := by
  obtain ⟨reached, left, split, ran⟩ :=
    @mapBarsLoop_rejected env [] _ ⟨idx, List.mem_finRange idx, rejected⟩
  refine ⟨reached.filterMap (present env), ?_⟩
  rw [mapBars, @mappedUpTo_nil env, ran, unmapBars_mappedUpTo split]

/-! ## Success and failure -/

/-- The call succeeds when all BARs with a length could be mapped, and otherwise unmaps
each one that has been mapped. -/
structure MapsBars (env : BarEnv) (ret : Int) (bars : Bars) : Prop where
  zero_iff : ret = 0 ↔ ∀ idx, env.length idx ≠ 0 → env.iomap idx ≠ none
  success : ret = 0 → ∀ idx, bars.bar idx ≠ none ↔ env.length idx ≠ 0
  failure : ret ≠ 0 → ret < 0 ∧ bars.unmapped = bars.mapped ∧ ∀ idx, bars.bar idx = none

/-- Some BAR with a length can not be mapped. -/
def Unmappable (env : BarEnv) : Prop := ∃ idx, env.length idx ≠ 0 ∧ env.iomap idx = none

theorem not_unmappable : ¬ Unmappable env ↔ ∀ idx, env.length idx ≠ 0 → env.iomap idx ≠ none := by
  simp only [Unmappable, not_exists, not_and]

theorem mapsBars_rejected (rejected : Rejected env idx) :
    MapsBars env (mapBars env .zeroed).1 (mapBars env .zeroed).2 ↔ Unmappable env := by
  obtain ⟨addresses, ran⟩ := mapBars_rejected rejected
  rw [ran]
  have failed : -EINVAL ≠ 0 := by decide
  have negative : -EINVAL < 0 := by decide
  constructor
  · intro maps
    by_contra all
    exact failed (maps.zero_iff.mpr (not_unmappable.mp all))
  · intro lost
    refine ⟨iff_of_false failed fun all => not_unmappable.mpr all lost,
      fun zero => absurd zero failed, fun _ => ⟨negative, rfl, fun _ => rfl⟩⟩

theorem mapsBars_accepted (accepted : ∀ idx, ¬ Rejected env idx) :
    MapsBars env (mapBars env .zeroed).1 (mapBars env .zeroed).2 := by
  rw [mapBars_accepted accepted]
  have mapped : ∀ idx, env.length idx ≠ 0 → env.iomap idx ≠ none :=
    fun idx present absent => accepted idx ⟨present, .inl absent⟩
  refine ⟨iff_of_true rfl mapped, ?_, fun nonzero => absurd rfl nonzero⟩
  intro _ idx
  have here : (mappedUpTo env (List.finRange xdmaBarNum)).bar idx = present env idx :=
    if_pos (List.mem_finRange idx)
  rw [here, present]
  by_cases absent : env.length idx = 0
  · simp [absent]
  · rw [if_neg absent]
    exact iff_of_true (mapped idx absent) absent

/-- `map_bars` does what it is to do exactly when a BAR can not be mapped anyway, or no
BAR has a length with bit 31 set. -/
theorem maps_bars_iff :
    MapsBars env (mapBars env .zeroed).1 (mapBars env .zeroed).2 ↔
      (∃ idx, env.length idx ≠ 0 ∧ env.iomap idx = none) ∨
        ∀ idx, (env.length idx).getLsbD 31 = false := by
  by_cases rejected : ∃ idx, Rejected env idx
  · obtain ⟨idx, rejected⟩ := rejected
    refine (mapsBars_rejected rejected).trans ⟨.inl, ?_⟩
    rintro (lost | low)
    · exact lost
    · refine ⟨idx, rejected.1, rejected.2.resolve_right ?_⟩
      rw [low idx]
      nofun
  · have accepted := not_exists.mp rejected
    refine iff_of_true (mapsBars_accepted accepted) (.inr fun idx => ?_)
    by_contra high
    have set : (env.length idx).getLsbD 31 = true := by simpa using high
    refine accepted idx ⟨?_, .inr set⟩
    intro zero
    simp [zero] at set

/-- A board with one BAR of 2 GiB, which `pci_iomap` maps. -/
def hugeBar : BarEnv where
  length := fun idx => if idx = 0 then 0x80000000 else 0
  iomap := fun idx => if idx = 0 then some 1 else none

theorem huge_bar_refused :
    ¬ MapsBars hugeBar (mapBars hugeBar .zeroed).1 (mapBars hugeBar .zeroed).2 := by
  intro maps
  have refused : (mapBars hugeBar .zeroed).1 = -EINVAL := by decide +kernel
  have zero : (mapBars hugeBar .zeroed).1 = 0 := by
    refine maps.zero_iff.mpr ?_
    intro idx present
    by_cases first : idx = 0
    · simp [hugeBar, first]
    · simp [hugeBar, first] at present
  rw [refused] at zero
  exact absurd zero (by decide)

end Vi53xx.Driver
