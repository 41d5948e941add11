import Vi53xx.Driver.FailedProbeProperties
import Vi53xx.Driver.LeftoverProperties
import Vi53xx.Driver.RegistryProperties

/-! The records of a driver in any of its runs: a record is there as long as it is on the
list, and a proc entry or a pending timer is of a board that is listed or has been removed. -/

set_option autoImplicit false

namespace Vi53xx.Driver

open Foundation

structure Recorded (state : Plugged) : Prop where
  bound : ∀ pdev xpdev, state.drvdata pdev = some xpdev → xpdev < state.registry.allocated
  below : ∀ xpdev ∈ state.registry.pcieDeviceList, xpdev < state.registry.allocated
  live : ∀ xpdev ∈ state.registry.pcieDeviceList, state.registry.xpdevs xpdev ≠ none
  gone : ∀ xpdev ∈ state.removed, xpdev < state.registry.allocated ∧
    xpdev ∉ state.registry.pcieDeviceList ∧ state.registry.xpdevs xpdev = none
  filed : ∀ xpdev, HasEntry state.registry xpdev →
    xpdev ∈ state.registry.pcieDeviceList ∨ xpdev ∈ state.removed
  timers : ∀ xpdev, state.ledTimers xpdev = true →
    xpdev ∈ state.registry.pcieDeviceList ∨ xpdev ∈ state.removed
  named : (state.registry.procEntries.map ProcEntry.name).Nodup
  counters : ∃ begun, state.registry.boardNameList = countedList begun

variable {state next : Plugged} {registry after : Registry} {outcome : ProbeOutcome}
  {readReg : BitVec 32 → BitVec 32} {pdev : PciDev} {xpdev : Nat} {rv : Int}

/-! ## Names of entries -/

theorem procCreate_named {ok : Bool} {name : List Char} {fops : ProcFops}
    (named : (registry.procEntries.map ProcEntry.name).Nodup) :
    ((procCreate ok name fops registry).2.procEntries.map ProcEntry.name).Nodup := by
  unfold procCreate
  split
  · next free =>
      have absent : ∀ entry ∈ registry.procEntries, entry.name ≠ name := by
        simpa using ((Bool.and_eq_true _ _).mp free).2
      simp only [List.map_append, List.map_cons, List.map_nil]
      refine List.nodup_append.mpr ⟨named, List.nodup_singleton name, ?_⟩
      intro old member new here
      obtain ⟨entry, listed, rfl⟩ := List.mem_map.mp member
      rw [List.mem_singleton.mp here]
      exact absent entry listed
  · exact named

theorem ProbeResult.named (probed : ProbeResult outcome readReg pdev registry rv after)
    (named : (registry.procEntries.map ProcEntry.name).Nodup) :
    (after.procEntries.map ProcEntry.name).Nodup := by
  have created {rv : Int} {middle : Registry}
      (created : CdevCreated outcome readReg registry.allocated pdev (allocate registry) rv middle) :
      (middle.procEntries.map ProcEntry.name).Nodup := by
    cases created with
    | unknown | failed => exact named
    | created =>
        unfold createProcDevice
        split
        · exact procCreate_named named
        · exact named
  cases probed with
  | noMemory | unmapped => exact named
  | refused _ _ _ ran | probed _ _ ran =>
      have kept := created ran
      exact kept

/-- An entry found by its name is the only one of the name. -/
theorem find_entry {name : List Char} {entries : List ProcEntry}
    (named : (entries.map ProcEntry.name).Nodup) :
    entries.find? (fun entry => entry.name == name) = some ⟨name, .device xpdev⟩ ↔
      ⟨name, .device xpdev⟩ ∈ entries := by
  constructor
  · exact List.mem_of_find?_eq_some
  · intro member
    cases found : entries.find? fun entry => entry.name == name with
    | none => simpa using List.find?_eq_none.mp found _ member
    | some entry =>
        have same : entry.name = name := by simpa using List.find?_some found
        have unique := List.inj_on_of_nodup_map named (List.mem_of_find?_eq_some found) member same
        rw [unique]

/-! ## Probing -/

/-- What a probe does to the records, by its outcome. -/
structure ProbeRecords (registry : Registry) (rv : Int) (after : Registry) : Prop where
  others : ∀ other, other ≠ registry.allocated → after.xpdevs other = registry.xpdevs other
  grown : registry.allocated ≤ after.allocated
  success : rv = 0 → after.pcieDeviceList = registry.allocated :: registry.pcieDeviceList ∧
    registry.allocated < after.allocated ∧ after.xpdevs registry.allocated ≠ none
  failure : rv ≠ 0 → after.pcieDeviceList = registry.pcieDeviceList ∧
    after.procEntries = registry.procEntries

theorem CdevCreated.entries (created : CdevCreated outcome readReg xpdev pdev registry rv after)
    (failure : rv < 0) : after.procEntries = registry.procEntries := by
  cases created with
  | unknown | failed => rfl
  | created => exact absurd failure (by decide)

theorem xpdevFree_other {other : Nat} (different : other ≠ xpdev) :
    (xpdevFree xpdev registry).xpdevs other = registry.xpdevs other := if_neg different

theorem ProbeResult.records (probed : ProbeResult outcome readReg pdev registry rv after) :
    ProbeRecords registry rv after := by
  have grown := probed.grown
  cases probed with
  | noMemory => exact ⟨fun _ _ => rfl, grown.1, fun zero => absurd zero (by decide), fun _ => ⟨rfl, rfl⟩⟩
  | unmapped =>
      exact ⟨fun _ => xpdevFree_other, grown.1, fun zero => absurd zero (by decide),
        fun _ => ⟨rfl, rfl⟩⟩
  | refused _ _ negative created =>
      refine ⟨?_, grown.1, fun zero => absurd zero (by decide), ?_⟩
      · intro other different
        rw [xpdevFree_other different]
        exact created.beside.records other different
      · intro _
        exact ⟨created.beside.list, created.entries negative⟩
  | probed _ _ created =>
      refine ⟨created.beside.records, grown.1, ?_, fun failure => absurd rfl failure⟩
      intro zero
      refine ⟨congrArg (List.cons registry.allocated) created.beside.list, grown.2 zero, ?_⟩
      exact created.recorded (by decide)

theorem Recorded.probe (recorded : Recorded state) :
    Recorded (probe outcome readReg pdev state) := by
  cases ran : xdmaProbe outcome readReg pdev state.registry with
  | mk rv after =>
      obtain ⟨registry, timers, removed, drvdata⟩ := probe_eq ran
      have probed := xdmaProbe_probed ran
      have records := probed.records
      have listed {xpdev : Nat} (member : xpdev ∈ state.registry.pcieDeviceList) :
          xpdev ∈ after.pcieDeviceList := by
        by_cases zero : rv = 0
        · rw [(records.success zero).1]
          exact List.mem_cons_of_mem _ member
        · rwa [(records.failure zero).1]
      have new {xpdev : Nat} (member : xpdev ∈ after.pcieDeviceList) :
          xpdev ∈ state.registry.pcieDeviceList ∨ (rv = 0 ∧ xpdev = state.registry.allocated) := by
        by_cases zero : rv = 0
        · rw [(records.success zero).1] at member
          rcases List.mem_cons.mp member with rfl | before
          · exact .inr ⟨zero, rfl⟩
          · exact .inl before
        · exact .inl ((records.failure zero).1 ▸ member)
      constructor
      · intro device xpdev data
        rw [registry]
        rcases drvdata device xpdev data with before | ⟨zero, rfl⟩
        · exact Nat.lt_of_lt_of_le (recorded.bound device xpdev before) records.grown
        · exact (records.success zero).2.1
      · intro xpdev member
        rw [registry] at member ⊢
        rcases new member with before | ⟨zero, rfl⟩
        · exact Nat.lt_of_lt_of_le (recorded.below xpdev before) records.grown
        · exact (records.success zero).2.1
      · intro xpdev member
        rw [registry] at member ⊢
        rcases new member with before | ⟨zero, rfl⟩
        · rw [records.others xpdev (Nat.ne_of_lt (recorded.below xpdev before))]
          exact recorded.live xpdev before
        · exact (records.success zero).2.2
      · intro xpdev member
        rw [removed] at member
        rw [registry]
        obtain ⟨low, unlisted, freed⟩ := recorded.gone xpdev member
        refine ⟨Nat.lt_of_lt_of_le low records.grown, ?_, ?_⟩
        · intro here
          rcases new here with before | ⟨_, rfl⟩
          · exact unlisted before
          · exact Nat.lt_irrefl _ low
        · rw [records.others xpdev (Nat.ne_of_lt low)]
          exact freed
      · intro xpdev entry
        rw [registry] at entry ⊢
        rw [removed]
        by_cases zero : rv = 0
        · rcases probed.hasEntry.2 entry with before | rfl
          · exact (recorded.filed xpdev before).imp listed id
          · exact .inl ((records.success zero).1 ▸ List.mem_cons_self)
        · rw [HasEntry, (records.failure zero).2] at entry
          exact (recorded.filed xpdev entry).imp listed id
      · intro xpdev pending
        rw [timers] at pending
        rw [registry, removed]
        exact (recorded.timers xpdev pending).imp listed id
      · rw [registry]
        exact probed.named recorded.named
      · obtain ⟨begun, counters⟩ := recorded.counters
        rw [registry, probed.boardNameList, counters]
        split
        · exact ⟨_, getBoardInstance_list⟩
        · exact ⟨begun, rfl⟩

/-! ## Removal -/

theorem xdmaRemove_registry (data : state.drvdata pdev = some xpdev) :
    (xdmaRemove pdev state).registry.pcieDeviceList =
        state.registry.pcieDeviceList.filter (· ≠ xpdev) ∧
      (xdmaRemove pdev state).registry.boardNameList = state.registry.boardNameList ∧
      (xdmaRemove pdev state).registry.xpdevs xpdev = none ∧
      ∀ other, other ≠ xpdev →
        (xdmaRemove pdev state).registry.xpdevs other = state.registry.xpdevs other := by
  unfold xdmaRemove
  rw [data]
  dsimp only [Plugged.devSetDrvdata, listDel, xpdevFree]
  rw [vi53xxDevClean_beside.list, vi53xxDevClean_xpdevs]
  refine ⟨rfl, ?_, if_pos rfl, fun other different => if_neg different⟩
  unfold vi53xxDevClean
  split <;> rfl

theorem Recorded.remove (recorded : Recorded state) : Recorded (xdmaRemove pdev state) := by
  cases data : state.drvdata pdev with
  | none =>
      have same : xdmaRemove pdev state = state := by simp [xdmaRemove, data]
      rwa [same]
  | some xpdev =>
      obtain ⟨entries, allocated, timers, removed, drvdata⟩ := xdmaRemove_bound data
      obtain ⟨list, counters, freed, others⟩ := xdmaRemove_registry data
      have kept {other : Nat} :
          other ∈ (xdmaRemove pdev state).registry.pcieDeviceList ↔
            other ∈ state.registry.pcieDeviceList ∧ other ≠ xpdev := by
        simp [list]
      have placed {other : Nat}
          (before : other ∈ state.registry.pcieDeviceList ∨ other ∈ state.removed) :
          other ∈ (xdmaRemove pdev state).registry.pcieDeviceList ∨
            other ∈ (xdmaRemove pdev state).removed := by
        rw [kept, removed]
        by_cases here : other = xpdev
        · exact .inr (here ▸ List.mem_cons_self)
        · exact before.imp (fun member => ⟨member, here⟩) (List.mem_cons_of_mem xpdev)
      constructor
      · intro device other bound
        rw [allocated]
        exact recorded.bound device other (drvdata device other bound)
      · intro other member
        rw [allocated]
        exact recorded.below other (kept.mp member).1
      · intro other member
        obtain ⟨before, different⟩ := kept.mp member
        rw [others other different]
        exact recorded.live other before
      · intro other member
        rw [allocated, kept]
        by_cases here : other = xpdev
        · rw [here]
          exact ⟨recorded.bound pdev xpdev data, fun both => both.2 rfl, freed⟩
        · rw [removed] at member
          have before := (List.mem_cons.mp member).resolve_left here
          obtain ⟨low, unlisted, gone⟩ := recorded.gone other before
          rw [others other here]
          exact ⟨low, fun both => unlisted both.1, gone⟩
      · intro other entry
        rw [HasEntry, entries] at entry
        exact placed (recorded.filed other entry)
      · intro other pending
        rw [timers] at pending
        exact placed (recorded.timers other pending)
      · rw [entries]
        exact recorded.named
      · rw [counters]
        exact recorded.counters

/-! ## The LED -/

theorem callBlinkControl_records {on : Bool} {record : XdmaPciDev} :
    (callBlinkControl on xpdev record state).registry.pcieDeviceList =
        state.registry.pcieDeviceList ∧
      (callBlinkControl on xpdev record state).registry.boardNameList =
        state.registry.boardNameList ∧
      ∀ other, other ≠ xpdev → (callBlinkControl on xpdev record state).registry.xpdevs other =
        state.registry.xpdevs other := by
  unfold callBlinkControl
  split
  · exact ⟨rfl, rfl, fun _ _ => rfl⟩
  · exact ⟨rfl, rfl, fun other different => if_neg different⟩

theorem callBlinkControl_recorded {on : Bool} {record : XdmaPciDev}
    (found : state.registry.xpdevs xpdev = some record) :
    (callBlinkControl on xpdev record state).registry.xpdevs xpdev ≠ none := by
  unfold callBlinkControl
  split
  · rw [found]
    exact Option.some_ne_none record
  · simp [setCreateFlag]

theorem Recorded.blink {on : Bool} {record : XdmaPciDev} (recorded : Recorded state)
    (entry : HasEntry state.registry xpdev) (found : state.registry.xpdevs xpdev = some record) :
    Recorded (callBlinkControl on xpdev record state) := by
  obtain ⟨entries, allocated, removed, drvdata, timers⟩ :=
    @callBlinkControl_frame state xpdev on record
  obtain ⟨list, counters, others⟩ := @callBlinkControl_records state xpdev on record
  constructor
  · rw [drvdata, allocated]
    exact recorded.bound
  · rw [list, allocated]
    exact recorded.below
  · intro other member
    rw [list] at member
    by_cases here : other = xpdev
    · rw [here]
      exact callBlinkControl_recorded found
    · rw [others other here]
      exact recorded.live other member
  · intro other member
    rw [removed] at member
    obtain ⟨low, unlisted, gone⟩ := recorded.gone other member
    rw [allocated, list, others other]
    · exact ⟨low, unlisted, gone⟩
    · intro here
      rw [here, found] at gone
      cases gone
  · intro other filed
    rw [HasEntry, entries] at filed
    rw [list, removed]
    exact recorded.filed other filed
  · intro other pending
    rw [list, removed]
    by_cases here : other = xpdev
    · rw [here]
      exact recorded.filed xpdev entry
    · rw [timers other here] at pending
      exact recorded.timers other pending
  · rw [entries]
    exact recorded.named
  · rw [counters]
    exact recorded.counters

/-! ## Runs -/

theorem Recorded.step {call : PlugCall} (recorded : Recorded state)
    (stepped : plugStep state call = some next) : Recorded next := by
  cases call with
  | probe outcome readReg pdev =>
      rw [(plugStep_probe stepped).2]
      exact recorded.probe
  | remove pdev =>
      cases stepped
      exact recorded.remove
  | deviceWrite name on =>
      rcases deviceWrite_some stepped with rfl | ⟨xpdev, record, entry, found, rfl⟩
      · exact recorded
      · exact recorded.blink entry found
  | timerIsr xpdev =>
      simp only [plugStep, timerIsr] at stepped
      split at stepped
      · obtain ⟨_, _, rfl⟩ := Option.map_eq_some_iff.mp stepped
        exact recorded
      · cases stepped

theorem start_entries {procs : ProcOutcome} {major : Fin boardTepeNum → BitVec 32} :
    (Plugged.start procs major).registry.procEntries.Sublist
      [⟨devBoards, .boards⟩, ⟨devMaping, .mapping⟩] := by
  have apart : devBoards ≠ devMaping := by decide
  obtain ⟨mkdir, boards, mapping⟩ := procs
  cases mkdir <;> cases boards <;> cases mapping <;>
    simp [Plugged.start, initBoardInfo, createBoardsInfoProc, createBoardProc,
      createInstanceBoardIdMmap, procCreate, Registry.unloaded, apart]

theorem recorded_start {procs : ProcOutcome} {major : Fin boardTepeNum → BitVec 32} :
    Recorded (Plugged.start procs major) := by
  have same := @start_same procs major
  have list : (Plugged.start procs major).registry.pcieDeviceList = [] := same.list
  constructor
  · intro pdev xpdev bound
    cases bound
  · rw [list]
    exact fun _ none_listed => absurd none_listed List.not_mem_nil
  · rw [list]
    exact fun _ none_listed => absurd none_listed List.not_mem_nil
  · intro xpdev member
    cases member
  · rintro xpdev ⟨entry, member, device⟩
    rcases List.mem_pair.mp (start_entries.mem member) with rfl | rfl <;> cases device
  · intro xpdev pending
    cases pending
  · have distinct : ([⟨devBoards, .boards⟩, ⟨devMaping, .mapping⟩].map ProcEntry.name).Nodup := by
      decide
    exact distinct.sublist (start_entries.map ProcEntry.name)
  · exact ⟨[], same.boardNameList⟩

theorem recorded_run {procs : ProcOutcome} {major : Fin boardTepeNum → BitVec 32}
    {calls : List PlugCall} (ran : runFrom plugStep (Plugged.start procs major) calls = some state) :
    Recorded state :=
  runFrom_preserves Recorded (fun _ _ _ recorded stepped => recorded.step stepped) recorded_start ran

end Vi53xx.Driver
