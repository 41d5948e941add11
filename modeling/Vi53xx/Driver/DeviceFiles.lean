import Vi53xx.Driver.MachineProperties
import Vi53xx.Driver.RecordProperties

/-! The device files of the boards, by their paths: `device_create` makes one for each board
it registers, and the removal of the board takes it away. -/

set_option autoImplicit false

namespace Vi53xx.Driver

open Foundation Foundation.CText

def XdmaPciDev.path (record : XdmaPciDev) : List Char :=
  "/dev/".toList ++ deviceFile record.ctrlCdev.info.deviceName record.ctrlCdev.cdevno

def Registry.pathOf (registry : Registry) (xpdev : Nat) : Option (List Char) :=
  (registry.xpdevs xpdev).map XdmaPciDev.path

/-- The board whose device file has the path, where no other board has one of that path. -/
def Registry.fileBoard (registry : Registry) (path : List Char) : Option Nat :=
  registry.pcieDeviceList.find? fun xpdev => registry.pathOf xpdev = some path ∧
    ∀ other ∈ registry.pcieDeviceList, registry.pathOf other = some path → other = xpdev

variable {registry next : Registry} {outcome : ProbeOutcome} {readReg : BitVec 32 → BitVec 32}
  {pdev : PciDev} {n : Fin boardTepeNum} {xpdev other : Nat} {rv : Int} {path : List Char}
  {state after : Plugged}

theorem fileBoard_eq_some_iff :
    registry.fileBoard path = some xpdev ↔
      xpdev ∈ registry.pcieDeviceList ∧ registry.pathOf xpdev = some path ∧
        ∀ other ∈ registry.pcieDeviceList, registry.pathOf other = some path → other = xpdev := by
  constructor
  · intro found
    refine ⟨List.mem_of_find?_eq_some found, ?_⟩
    simpa using List.find?_some found
  · rintro ⟨listed, own, only⟩
    cases found : registry.fileBoard path with
    | none =>
        have refused := List.find?_eq_none.mp found xpdev listed
        simp only [decide_eq_true_eq] at refused
        exact absurd ⟨own, only⟩ refused
    | some board =>
        have there := List.mem_of_find?_eq_some found
        have named := List.find?_some found
        simp only [decide_eq_true_eq] at named
        rw [only board there named.1]

/-! ## Lengths -/

theorem deviceName_length {boardInst : BitVec 32} :
    (initDeviceInfo readReg boardInst).deviceName.length = 6 := by
  dsimp only [initDeviceInfo]
  unfold getBoardName
  repeat' split
  all_goals rfl

theorem minor_digits {cdevno : BitVec 32} : (decimal (MINOR cdevno).toInt).length ≤ 7 := by
  have small : (MINOR cdevno).toNat < 2 ^ 20 := by
    unfold MINOR
    rw [BitVec.toNat_and]
    exact Nat.and_lt_two_pow _ (by decide)
  have signed : (MINOR cdevno).toInt = (MINOR cdevno).toNat :=
    BitVec.toInt_eq_toNat_of_lt (by omega)
  rw [signed]
  exact (Nat.length_toDigits_le_iff (by decide) (by decide)).mpr (by omega)

/-- The path of a new record fits the buffers of a process that opens it. -/
theorem cdevRecord_path : (cdevRecord readReg pdev n registry).path.length < 32 := by
  have digits := @minor_digits (cdevRecord readReg pdev n registry).ctrlCdev.cdevno
  have name : (cdevRecord readReg pdev n registry).ctrlCdev.info.deviceName.length = 6 :=
    deviceName_length
  have root : "/dev/".toList.length = 5 := rfl
  simp only [XdmaPciDev.path, deviceFile, List.length_append, List.length_cons, name, root]
  omega

/-! ## Calls -/

theorem CdevCreated.record (created : CdevCreated outcome readReg xpdev pdev registry rv next)
    (success : rv = 0) : ∃ n, next.xpdevs xpdev = some (cdevRecord readReg pdev n registry) := by
  cases created with
  | unknown => exact absurd success (by decide)
  | failed negative => omega
  | @created _ n =>
      refine ⟨n, ?_⟩
      rw [createProcDevice_same.records]
      exact if_pos rfl

theorem ProbeResult.pathOf_other (probed : ProbeResult outcome readReg pdev registry rv next)
    (different : xpdev ≠ registry.allocated) : next.pathOf xpdev = registry.pathOf xpdev := by
  rw [Registry.pathOf, probed.records.others xpdev different]
  rfl

/-- A probe that succeeds gives its record the path of the board. -/
theorem ProbeResult.pathOf_new (probed : ProbeResult outcome readReg pdev registry rv next)
    (success : rv = 0) (found : next.pathOf registry.allocated = some path) :
    ∃ n, path = (cdevRecord readReg pdev n registry).path := by
  cases probed with
  | noMemory | unmapped | refused => exact absurd success (by decide)
  | probed _ _ created =>
      obtain ⟨n, record⟩ := created.record rfl
      have path_eq : some (cdevRecord readReg pdev n registry).path = some path :=
        (congrArg (Option.map XdmaPciDev.path) record).symm.trans found
      exact ⟨n, (Option.some.inj path_eq).symm⟩

theorem ProbeResult.pathOf_failed (probed : ProbeResult outcome readReg pdev registry rv next)
    (failure : rv ≠ 0) (found : next.pathOf registry.allocated = some path) :
    registry.pathOf registry.allocated = some path := by
  have freed {freeing : Registry} (gone : (xpdevFree registry.allocated freeing).pathOf
      registry.allocated = some path) : False := by
    have none : (xpdevFree registry.allocated freeing).xpdevs registry.allocated = none := if_pos rfl
    rw [Registry.pathOf, none] at gone
    cases gone
  cases probed with
  | noMemory => exact found
  | unmapped | refused => exact (freed found).elim
  | probed => exact absurd rfl failure

/-- The only new path after a probe is that of its own record. -/
theorem ProbeResult.pathOf (probed : ProbeResult outcome readReg pdev registry rv next)
    (found : next.pathOf xpdev = some path) :
    registry.pathOf xpdev = some path ∨ ∃ n, path = (cdevRecord readReg pdev n registry).path := by
  by_cases here : xpdev = registry.allocated
  · subst here
    by_cases zero : rv = 0
    · exact .inr (probed.pathOf_new zero found)
    · exact .inl (probed.pathOf_failed zero found)
  · rw [probed.pathOf_other here] at found
    exact .inl found

theorem xdmaRemove_pathOf (found : (xdmaRemove pdev state).registry.pathOf xpdev = some path) :
    state.registry.pathOf xpdev = some path := by
  cases data : state.drvdata pdev with
  | none => simpa [xdmaRemove, data] using found
  | some gone =>
      obtain ⟨_, _, freed, others⟩ := xdmaRemove_registry data
      by_cases here : xpdev = gone
      · rw [Registry.pathOf, here, freed] at found
        cases found
      · rwa [Registry.pathOf, others xpdev here] at found

theorem callBlinkControl_pathOf {on : Bool} {record : XdmaPciDev}
    (found : state.registry.xpdevs xpdev = some record) :
    (callBlinkControl on xpdev record state).registry.pathOf other = state.registry.pathOf other := by
  by_cases here : other = xpdev
  · subst here
    unfold callBlinkControl
    split
    · rfl
    · simp only [Registry.pathOf, setCreateFlag, if_pos, found]
      rfl
  · rw [Registry.pathOf, callBlinkControl_records.2.2 other here]
    rfl

theorem plugStep_pathOf {call : PlugCall} (stepped : plugStep state call = some after)
    (found : after.registry.pathOf xpdev = some path) :
    state.registry.pathOf xpdev = some path ∨
      ∃ readReg pdev n, path = (cdevRecord readReg pdev n state.registry).path := by
  cases call with
  | probe outcome readReg pdev =>
      rw [(plugStep_probe stepped).2] at found
      cases ran : xdmaProbe outcome readReg pdev state.registry with
      | mk rv registry =>
          rw [(probe_eq ran).1] at found
          exact ((xdmaProbe_probed ran).pathOf found).imp id fun new => ⟨readReg, pdev, new⟩
  | remove pdev =>
      cases stepped
      exact .inl (xdmaRemove_pathOf found)
  | deviceWrite name on =>
      rcases deviceWrite_some stepped with rfl | ⟨_, _, _, held, rfl⟩
      · exact .inl found
      · rw [callBlinkControl_pathOf held] at found
        exact .inl found
  | timerIsr fired =>
      simp only [plugStep, timerIsr] at stepped
      split at stepped
      · obtain ⟨_, _, rfl⟩ := Option.map_eq_some_iff.mp stepped
        exact .inl found
      · cases stepped

/-! ## Files that stay -/

/-- A file stays as long as its board does and no other board comes to have the path. -/
theorem fileBoard_stays (found : registry.fileBoard path = some xpdev)
    (listed : xpdev ∈ next.pcieDeviceList) (kept : next.pathOf xpdev = registry.pathOf xpdev)
    (others : ∀ other ∈ next.pcieDeviceList, next.pathOf other = some path →
      other ∈ registry.pcieDeviceList ∧ registry.pathOf other = some path) :
    next.fileBoard path = some xpdev := by
  obtain ⟨_, own, only⟩ := fileBoard_eq_some_iff.mp found
  refine fileBoard_eq_some_iff.mpr ⟨listed, kept.trans own, ?_⟩
  intro other there same
  obtain ⟨before, named⟩ := others other there same
  exact only other before named

theorem fileBoard_probe (recorded : Recorded state) (found : state.registry.fileBoard path = some xpdev)
    (apart : ∀ n, (cdevRecord readReg pdev n state.registry).path ≠ path) :
    (probe outcome readReg pdev state).registry.fileBoard path = some xpdev := by
  cases ran : xdmaProbe outcome readReg pdev state.registry with
  | mk rv after =>
      rw [(probe_eq ran).1]
      have probed := xdmaProbe_probed ran
      have listed := (fileBoard_eq_some_iff.mp found).1
      have old {other : Nat} (member : other ∈ state.registry.pcieDeviceList) :
          after.pathOf other = state.registry.pathOf other :=
        probed.pathOf_other (Nat.ne_of_lt (recorded.below other member))
      by_cases zero : rv = 0
      · have list := (probed.records.success zero).1
        refine fileBoard_stays found ?_ (old listed) ?_
        · rw [list]
          exact List.mem_cons_of_mem _ listed
        · intro other member named
          rw [list] at member
          rcases List.mem_cons.mp member with rfl | before
          · obtain ⟨n, same⟩ := probed.pathOf_new zero named
            exact absurd same.symm (apart n)
          · exact ⟨before, (old before).symm.trans named⟩
      · have list := (probed.records.failure zero).1
        refine fileBoard_stays found (list ▸ listed) (old listed) ?_
        intro other member named
        rw [list] at member
        exact ⟨member, (old member).symm.trans named⟩

theorem fileBoard_remove (found : state.registry.fileBoard path = some xpdev)
    (apart : state.drvdata pdev ≠ some xpdev) :
    (xdmaRemove pdev state).registry.fileBoard path = some xpdev := by
  cases data : state.drvdata pdev with
  | none =>
      have same : xdmaRemove pdev state = state := by simp [xdmaRemove, data]
      rwa [same]
  | some gone =>
      obtain ⟨list, _, _, others⟩ := xdmaRemove_registry data
      have different : xpdev ≠ gone := by
        rintro rfl
        exact apart data
      refine fileBoard_stays found ?_ ?_ ?_
      · rw [list]
        exact List.mem_filter.mpr ⟨(fileBoard_eq_some_iff.mp found).1, decide_eq_true different⟩
      · rw [Registry.pathOf, others xpdev different]
        rfl
      · intro other member named
        rw [list] at member
        exact ⟨List.mem_of_mem_filter member, xdmaRemove_pathOf named⟩

/-- A call about other boards, which gives none of them the path, leaves the file. -/
theorem fileBoard_plugStep {call : PlugCall} (recorded : Recorded state)
    (stepped : plugStep state call = some after) (found : state.registry.fileBoard path = some xpdev)
    (stays : ∀ pdev, call = .remove pdev → state.drvdata pdev ≠ some xpdev)
    (apart : ∀ outcome readReg pdev, call = .probe outcome readReg pdev →
      ∀ n, (cdevRecord readReg pdev n state.registry).path ≠ path) :
    after.registry.fileBoard path = some xpdev := by
  cases call with
  | probe outcome readReg pdev =>
      rw [(plugStep_probe stepped).2]
      exact fileBoard_probe recorded found (apart outcome readReg pdev rfl)
  | remove pdev =>
      cases stepped
      exact fileBoard_remove found (stays pdev rfl)
  | deviceWrite name on =>
      rcases deviceWrite_some stepped with rfl | ⟨wrote, record, _, held, rfl⟩
      · exact found
      · have list := (@callBlinkControl_records state wrote on record).1
        refine fileBoard_stays found ?_ (callBlinkControl_pathOf held) ?_
        · rw [list]
          exact (fileBoard_eq_some_iff.mp found).1
        · intro other member named
          rw [list] at member
          rw [callBlinkControl_pathOf held] at named
          exact ⟨member, named⟩
  | timerIsr fired =>
      simp only [plugStep, timerIsr] at stepped
      split at stepped
      · obtain ⟨_, _, rfl⟩ := Option.map_eq_some_iff.mp stepped
        exact found
      · cases stepped

/-! ## Runs -/

/-- In every state the driver comes to, the device files have short paths. -/
theorem pathOf_fits {answers : Nat → Option (BitVec 64)} {procs : ProcOutcome}
    {major : Fin boardTepeNum → BitVec 32} {kernel : Kernel} {calls : List MachineCall} {machine : Machine}
    (ran : runFrom (machineStep answers) (Machine.start procs major kernel) calls = some machine)
    (found : machine.plugged.registry.pathOf xpdev = some path) : path.length < 32 := by
  obtain ⟨plugCalls, plugged⟩ := machine_run_plugged ran
  have fits : ∀ xpdev path, machine.plugged.registry.pathOf xpdev = some path → path.length < 32 := by
    refine runFrom_preserves
      (fun state : Plugged => ∀ xpdev path, state.registry.pathOf xpdev = some path → path.length < 32)
      ?_ ?_ plugged
    · intro state call after before stepped xpdev path found
      rcases plugStep_pathOf stepped found with old | ⟨_, _, _, rfl⟩
      · exact before xpdev path old
      · exact cdevRecord_path
    · intro xpdev path found
      have none : (Plugged.start procs major).registry.xpdevs xpdev = none :=
        congrFun start_same.records xpdev
      have found : (Plugged.start procs major).registry.pathOf xpdev = some path := found
      rw [Registry.pathOf, none] at found
      cases found
  exact fits xpdev path found

end Vi53xx.Driver
