import Vi53xx.Driver.HotplugProperties
import Vi53xx.Foundation.Runs

/-! What is left of a board that has been removed. Its proc entry is, and with the
entry the LED timer that a write to it has started. -/

set_option autoImplicit false

namespace Vi53xx.Driver

open Foundation

/-- No entry and no pending timer belongs to a board whose removal has returned. -/
def LeavesNothing (state : Plugged) : Prop :=
  ∀ xpdev ∈ state.removed, ¬ HasEntry state.registry xpdev ∧ state.ledTimers xpdev = false

/-- A board that is removed has no proc entry: its probe could not create one. -/
def RemovesFileless (state : Plugged) : PlugCall → Prop
  | .remove pdev => ∀ xpdev, state.drvdata pdev = some xpdev → ¬ HasEntry state.registry xpdev
  | _ => True

/-- A timer is started through an entry only, and the records in use have been allocated. -/
structure Filed (state : Plugged) : Prop where
  timers : ∀ xpdev, state.ledTimers xpdev = true → HasEntry state.registry xpdev
  removed : ∀ xpdev ∈ state.removed, xpdev < state.registry.allocated
  bound : ∀ pdev xpdev, state.drvdata pdev = some xpdev → xpdev < state.registry.allocated

variable {state next : Plugged} {registry after : Registry} {outcome : ProbeOutcome}
  {readReg : BitVec 32 → BitVec 32} {pdev : PciDev} {xpdev : Nat} {rv : Int}

/-! ## Entries -/

theorem createProcDevice_hasEntry {ok : Bool} {name : List Char} {other : Nat}
    (same : after.procEntries = registry.procEntries) :
    (HasEntry registry other → HasEntry (createProcDevice ok xpdev name after) other) ∧
      (HasEntry (createProcDevice ok xpdev name after) other →
        HasEntry registry other ∨ other = xpdev) := by
  have unchanged : HasEntry after other ↔ HasEntry registry other := by
    rw [HasEntry, HasEntry, same]
  rw [← unchanged]
  unfold createProcDevice procCreate
  split
  · split
    · constructor
      · rintro ⟨entry, member, fops⟩
        exact ⟨entry, List.mem_append_left _ member, fops⟩
      · rintro ⟨entry, member, fops⟩
        rcases List.mem_append.mp member with before | new
        · exact .inl ⟨entry, before, fops⟩
        · rw [List.mem_singleton.mp new] at fops
          cases fops
          exact .inr rfl
    · exact ⟨id, .inl⟩
  · exact ⟨id, .inl⟩

theorem CdevCreated.hasEntry {other : Nat}
    (created : CdevCreated outcome readReg xpdev pdev registry rv after) :
    (HasEntry registry other → HasEntry after other) ∧
      (HasEntry after other → HasEntry registry other ∨ other = xpdev) := by
  cases created with
  | unknown | failed => exact ⟨id, .inl⟩
  | created => exact createProcDevice_hasEntry rfl

/-- A probe adds no entry but one of the record it allocates. -/
theorem ProbeResult.hasEntry {other : Nat} (probed : ProbeResult outcome readReg pdev registry rv after) :
    (HasEntry registry other → HasEntry after other) ∧
      (HasEntry after other → HasEntry registry other ∨ other = registry.allocated) := by
  cases probed with
  | noMemory | unmapped => exact ⟨id, .inl⟩
  | refused _ _ _ created | probed _ _ created => exact created.hasEntry

theorem ProbeResult.grown (probed : ProbeResult outcome readReg pdev registry rv after) :
    registry.allocated ≤ after.allocated ∧ (rv = 0 → registry.allocated < after.allocated) := by
  have more := Nat.le_succ registry.allocated
  cases probed with
  | noMemory => exact ⟨Nat.le_refl _, fun zero => absurd zero (by decide)⟩
  | unmapped => exact ⟨more, fun zero => absurd zero (by decide)⟩
  | refused _ _ _ created =>
      have same := created.beside.allocated
      exact ⟨Nat.le_trans more (Nat.le_of_eq same.symm), fun zero => absurd zero (by decide)⟩
  | probed _ _ created =>
      have same := created.beside.allocated
      exact ⟨Nat.le_trans more (Nat.le_of_eq same.symm), fun _ => Nat.le_of_eq same.symm⟩

/-! ## Each call -/

theorem Filed.probe (filed : Filed state) (clean : LeavesNothing state) :
    LeavesNothing (probe outcome readReg pdev state) ∧ Filed (probe outcome readReg pdev state) := by
  cases ran : xdmaProbe outcome readReg pdev state.registry with
  | mk rv after =>
      obtain ⟨records, timers, removed, drvdata⟩ := probe_eq ran
      have probed := xdmaProbe_probed ran
      obtain ⟨grown, more⟩ := probed.grown
      refine ⟨?_, ?_, ?_, ?_⟩
      · intro xpdev member
        rw [removed] at member
        obtain ⟨absent, still⟩ := clean xpdev member
        rw [records, timers]
        refine ⟨?_, still⟩
        intro entry
        rcases probed.hasEntry.2 entry with before | new
        · exact absent before
        · have low := filed.removed xpdev member
          omega
      · intro xpdev pending
        rw [timers] at pending
        rw [records]
        exact probed.hasEntry.1 (filed.timers xpdev pending)
      · intro xpdev member
        rw [removed] at member
        rw [records]
        exact Nat.lt_of_lt_of_le (filed.removed xpdev member) grown
      · intro device xpdev data
        rw [records]
        rcases drvdata device xpdev data with before | ⟨success, rfl⟩
        · exact Nat.lt_of_lt_of_le (filed.bound device xpdev before) grown
        · exact more success

theorem xdmaRemove_bound (data : state.drvdata pdev = some xpdev) :
    (xdmaRemove pdev state).registry.procEntries = state.registry.procEntries ∧
      (xdmaRemove pdev state).registry.allocated = state.registry.allocated ∧
      (xdmaRemove pdev state).ledTimers = state.ledTimers ∧
      (xdmaRemove pdev state).removed = xpdev :: state.removed ∧
      ∀ device other, (xdmaRemove pdev state).drvdata device = some other →
        state.drvdata device = some other := by
  unfold xdmaRemove
  rw [data]
  refine ⟨?_, ?_, rfl, rfl, ?_⟩
  · dsimp only [Plugged.devSetDrvdata, listDel, xpdevFree]
    unfold vi53xxDevClean
    split <;> rfl
  · exact vi53xxDevClean_beside.allocated
  · intro device other held
    simp only [Plugged.devSetDrvdata] at held
    split at held
    · cases held
    · exact held

theorem Filed.remove (filed : Filed state) (clean : LeavesNothing state) :
    (LeavesNothing (xdmaRemove pdev state) ↔ RemovesFileless state (.remove pdev)) ∧
      Filed (xdmaRemove pdev state) := by
  cases data : state.drvdata pdev with
  | none =>
      have same : xdmaRemove pdev state = state := by simp [xdmaRemove, data]
      rw [same]
      refine ⟨iff_of_true clean ?_, filed⟩
      intro xpdev held
      rw [data] at held
      cases held
  | some xpdev =>
      obtain ⟨entries, allocated, timers, removed, drvdata⟩ := xdmaRemove_bound data
      have entry : ∀ other, HasEntry (xdmaRemove pdev state).registry other ↔
          HasEntry state.registry other := by
        intro other
        rw [HasEntry, HasEntry, entries]
      refine ⟨⟨?_, ?_⟩, ?_, ?_, ?_⟩
      · intro left other held
        rw [data] at held
        cases held
        have gone := (left xpdev (by rw [removed]; exact List.mem_cons_self)).1
        rwa [entry] at gone
      · intro fileless other member
        rw [entry, timers]
        rw [removed] at member
        rcases List.mem_cons.mp member with rfl | before
        · have absent := fileless other data
          refine ⟨absent, ?_⟩
          cases pending : state.ledTimers other with
          | false => rfl
          | true => exact absurd (filed.timers other pending) absent
        · exact clean other before
      · intro other pending
        rw [timers] at pending
        exact (entry other).mpr (filed.timers other pending)
      · intro other member
        rw [removed] at member
        rw [allocated]
        rcases List.mem_cons.mp member with rfl | before
        · exact filed.bound pdev other data
        · exact filed.removed other before
      · intro device other held
        rw [allocated]
        exact filed.bound device other (drvdata device other held)

theorem callBlinkControl_frame {on : Bool} {record : XdmaPciDev} :
    (callBlinkControl on xpdev record state).registry.procEntries = state.registry.procEntries ∧
      (callBlinkControl on xpdev record state).registry.allocated = state.registry.allocated ∧
      (callBlinkControl on xpdev record state).removed = state.removed ∧
      (callBlinkControl on xpdev record state).drvdata = state.drvdata ∧
      ∀ other, other ≠ xpdev →
        (callBlinkControl on xpdev record state).ledTimers other = state.ledTimers other := by
  unfold callBlinkControl
  split
  · exact ⟨rfl, rfl, rfl, rfl, fun _ _ => rfl⟩
  · refine ⟨rfl, rfl, rfl, rfl, ?_⟩
    intro other different
    exact if_neg different

theorem Filed.blink {on : Bool} {record : XdmaPciDev} (filed : Filed state)
    (clean : LeavesNothing state) (filed_entry : HasEntry state.registry xpdev) :
    LeavesNothing (callBlinkControl on xpdev record state) ∧
      Filed (callBlinkControl on xpdev record state) := by
  obtain ⟨entries, allocated, removed, drvdata, timers⟩ :=
    @callBlinkControl_frame state xpdev on record
  have entry : ∀ other, HasEntry (callBlinkControl on xpdev record state).registry other ↔
      HasEntry state.registry other := by
    intro other
    rw [HasEntry, HasEntry, entries]
  refine ⟨?_, ?_, ?_, ?_⟩
  · intro other member
    rw [removed] at member
    obtain ⟨absent, still⟩ := clean other member
    have different : other ≠ xpdev := by
      rintro rfl
      exact absent filed_entry
    rw [entry, timers other different]
    exact ⟨absent, still⟩
  · intro other pending
    rw [entry]
    by_cases here : other = xpdev
    · rw [here]
      exact filed_entry
    · rw [timers other here] at pending
      exact filed.timers other pending
  · rw [removed, allocated]
    exact filed.removed
  · rw [drvdata, allocated]
    exact filed.bound

theorem Filed.step {call : PlugCall} (filed : Filed state) (clean : LeavesNothing state)
    (stepped : plugStep state call = some next) :
    (LeavesNothing next ↔ RemovesFileless state call) ∧ Filed next := by
  cases call with
  | probe outcome readReg pdev =>
      simp only [plugStep] at stepped
      split at stepped
      · cases stepped
      · cases stepped
        obtain ⟨left, kept⟩ := @Filed.probe state outcome readReg pdev filed clean
        exact ⟨iff_of_true left trivial, kept⟩
  | remove pdev =>
      cases stepped
      exact filed.remove clean
  | deviceWrite name on =>
      rcases deviceWrite_some stepped with rfl | ⟨xpdev, record, entry, _, rfl⟩
      · exact ⟨iff_of_true clean trivial, filed⟩
      · obtain ⟨left, kept⟩ := @Filed.blink state xpdev on record filed clean entry
        exact ⟨iff_of_true left trivial, kept⟩
  | timerIsr xpdev =>
      simp only [plugStep, timerIsr] at stepped
      split at stepped
      · obtain ⟨_, _, rfl⟩ := Option.map_eq_some_iff.mp stepped
        exact ⟨iff_of_true clean trivial, filed⟩
      · cases stepped

/-- A removal leaves nothing behind exactly as long as the boards that are removed
have no proc entry. -/
theorem leaves_nothing_iff {outcome : ProcOutcome} {major : Fin boardTepeNum → BitVec 32}
    {calls : List PlugCall} :
    Throughout plugStep LeavesNothing (Plugged.start outcome major) calls ↔
      EachStep plugStep RemovesFileless (Plugged.start outcome major) calls := by
  have unguarded : EachStep plugStep (fun _ _ => True) (Plugged.start outcome major) calls :=
    eachStep_of_forall fun _ _ => trivial
  have valid : Filed (Plugged.start outcome major) := ⟨nofun, nofun, nofun⟩
  refine throughout_iff_eachStep ?_ ?_ valid nofun unguarded
  · intro state call next filed clean _ stepped
    obtain ⟨exactly, kept⟩ := Filed.step filed clean stepped
    exact ⟨exactly, fun _ => kept⟩
  · intro state call _ _ _ stuck
    cases call with
    | remove pdev => cases stuck
    | probe | deviceWrite | timerIsr => trivial

/-- After a probe, `on` and a removal, the entry is there and the timer pending. -/
theorem removal_leaves_entry :
    ∃ final, runFrom plugStep (Plugged.start ⟨true, true, true⟩ givenMajors)
        [es5341Plug, .deviceWrite "es5341_0".toList true, .remove es5341Turn.pdev] = some final ∧
      ¬ LeavesNothing final := by
  have seen : (runFrom plugStep (Plugged.start ⟨true, true, true⟩ givenMajors)
      [es5341Plug, .deviceWrite "es5341_0".toList true, .remove es5341Turn.pdev]).map (fun final =>
        (final.removed, final.ledTimers 0)) = some ([0], true) := by decide +kernel
  obtain ⟨final, ran, observed⟩ := Option.map_eq_some_iff.mp seen
  obtain ⟨removed, pending⟩ := Prod.mk.inj observed
  refine ⟨final, ran, ?_⟩
  intro clean
  have still := (clean 0 (by rw [removed]; exact List.mem_singleton.mpr rfl)).2
  rw [pending] at still
  cases still

end Vi53xx.Driver
