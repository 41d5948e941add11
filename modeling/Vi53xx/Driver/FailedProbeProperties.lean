import Vi53xx.Driver.DeviceNumberProperties

/-! What a probe leaves behind that fails while it creates its character device. The
instance number it has asked for stays counted. -/

set_option autoImplicit false

namespace Vi53xx.Driver

open Foundation

/-- The probe gets as far as `create_cdev`, which fails. -/
structure FailsCreating (outcome : ProbeOutcome) (readReg : BitVec 32 → BitVec 32) (pdev : PciDev)
    (registry : Registry) : Prop where
  asks : Asks outcome = true
  failed : (createCdev outcome readReg registry.allocated pdev (allocate registry)).1 < 0

/-- The instance number in the record of a board after its probe, unless it has failed. -/
def numberGiven : PlugCall → Plugged → Option (BitVec 32)
  | .probe _ _ pdev, state =>
      (state.drvdata pdev).bind fun xpdev =>
        (state.registry.xpdevs xpdev).map fun record => record.ctrlCdev.info.boardInst
  | _, _ => none

/-- The driver is as if the probe between the two states had not been made. -/
structure Traceless (before after : Plugged) : Prop where
  counters : after.registry.boardNameList = before.registry.boardNameList
  list : after.registry.pcieDeviceList = before.registry.pcieDeviceList
  cdevs : after.registry.cdevs = before.registry.cdevs
  procEntries : after.registry.procEntries = before.registry.procEntries
  numbers : ∀ calls numbers expected, outputs plugStep numberGiven after calls = some numbers →
    outputs plugStep numberGiven before calls = some expected → numbers = expected

/-- No counter is kept for the type of the board. -/
def Uncounted (readReg : BitVec 32 → BitVec 32) (registry : Registry) : Prop :=
  ∀ entry ∈ registry.boardNameList, readReg deviceBoardType ≠ entry.incaDt

instance (readReg : BitVec 32 → BitVec 32) (registry : Registry) :
    Decidable (Uncounted readReg registry) :=
  inferInstanceAs (Decidable (∀ _ ∈ _, _))

variable {registry next : Registry} {outcome : ProbeOutcome} {readReg : BitVec 32 → BitVec 32}
  {xpdev : Nat} {pdev : PciDev} {rv : Int} {state after : Plugged} {type : BitVec 32}

/-! ## Counters -/

theorem getBoardInstance_same_iff {list : List BoardInfo} :
    (getBoardInstance type list).2 = list ↔ ∀ entry ∈ list, type ≠ entry.incaDt := by
  induction list with
  | nil => exact iff_of_true rfl nofun
  | cons entry rest ih =>
      unfold getBoardInstance
      rw [List.forall_mem_cons]
      by_cases here : type = entry.incaDt
      · rw [if_pos here]
        refine iff_of_false ?_ fun absent => absent.1 here
        intro same
        have count := congrArg BoardInfo.count (List.cons.inj same).1
        have one : (1 : BitVec 32) = 0 := add_eq_left.mp count
        exact absurd one (by decide)
      · rw [if_neg here]
        constructor
        · intro same
          exact ⟨here, ih.mp (List.cons.inj same).2⟩
        · intro absent
          exact congrArg (entry :: ·) (ih.mpr absent.2)

/-- An instance number is counted as soon as `create_cdev` asks for it. -/
theorem ProbeResult.boardNameList (probed : ProbeResult outcome readReg pdev registry rv next) :
    next.boardNameList = if Asks outcome then
      (getBoardInstance (readReg deviceBoardType) registry.boardNameList).2
      else registry.boardNameList := by
  cases probed with
  | noMemory failed => simp [Asks, failed]
  | unmapped allocated failed => simp [Asks, failed, xpdevFree, allocate]
  | refused allocated mapped negative created =>
      simp only [Asks, allocated, mapped, Bool.and_self, if_true]
      exact created.boardNameList
  | probed allocated mapped created =>
      simp only [Asks, allocated, mapped, Bool.and_self, if_true]
      exact created.boardNameList

/-! ## A probe that fails -/

/-- Apart from the counters, a probe that fails leaves everything as it was. -/
theorem FailsCreating.result (fails : FailsCreating outcome readReg pdev registry)
    (probed : xdmaProbe outcome readReg pdev registry = (rv, next)) :
    rv = -EINVAL ∧ next.pcieDeviceList = registry.pcieDeviceList ∧ next.cdevs = registry.cdevs ∧
      next.procEntries = registry.procEntries := by
  obtain ⟨allocated, mapped⟩ := Bool.and_eq_true_iff.mp fails.asks
  have failed := fails.failed
  cases create : createCdev outcome readReg registry.allocated pdev (allocate registry) with
  | mk answer middle =>
      rw [create] at failed
      have freed : xdmaProbe outcome readReg pdev registry =
          (-EINVAL, xpdevFree registry.allocated middle) := by
        unfold allocate at create
        simp only [xdmaProbe, allocated, mapped, create, failed, Bool.not_true, Bool.false_eq_true,
          if_true, if_false]
      obtain ⟨rfl, rfl⟩ := Prod.mk.inj (probed.symm.trans freed)
      refine ⟨rfl, ?_⟩
      have created := createCdev_created create
      cases created with
      | unknown | failed => exact ⟨rfl, rfl, rfl⟩
      | created => exact absurd failed (Int.lt_irrefl 0)

/-! ## Instance numbers -/

/-- The board gets a character device. -/
structure Succeeds (outcome : ProbeOutcome) (readReg : BitVec 32 → BitVec 32)
    (registry : Registry) : Prop where
  asks : Asks outcome = true
  known : ∃ name n, Known readReg registry name n
  registers : outcome.Registers

theorem Known.of_counters {left right : Registry} {name : List Char} {n : Fin boardTepeNum}
    (same : left.boardNameList = right.boardNameList) (known : Known readReg left name n) :
    Known readReg right name n where
  named := known.named
  indexed := by
    have indexed := known.indexed
    simp only [counted, same] at indexed
    exact indexed

theorem Succeeds.of_counters {left right : Registry}
    (same : left.boardNameList = right.boardNameList) (succeeds : Succeeds outcome readReg left) :
    Succeeds outcome readReg right := by
  obtain ⟨name, n, known⟩ := succeeds.known
  exact ⟨succeeds.asks, ⟨name, n, known.of_counters same⟩, succeeds.registers⟩

theorem ProbeResult.failure (probed : ProbeResult outcome readReg pdev registry rv next)
    (failure : rv ≠ 0) : ¬ Succeeds outcome readReg registry := by
  intro succeeds
  obtain ⟨asks, ⟨name, n, known⟩, registers⟩ := succeeds
  obtain ⟨allocated, mapped⟩ := Bool.and_eq_true_iff.mp asks
  cases probed with
  | noMemory failed => exact absurd (allocated.symm.trans failed) (by decide)
  | unmapped _ failed => exact absurd (mapped.symm.trans failed) (by decide)
  | refused _ _ negative created =>
      rcases created.refused negative with unknown | refused
      · exact unknown name n (@Known.of_counters readReg registry (allocate registry) name n rfl known)
      · exact refused registers
  | probed => exact failure rfl

theorem ProbeResult.success (probed : ProbeResult outcome readReg pdev registry rv next)
    (success : rv = 0) : Succeeds outcome readReg registry ∧
      ∃ n, next.xpdevs registry.allocated =
        some (cdevRecord readReg pdev n (allocate registry)) := by
  cases probed with
  | noMemory | unmapped | refused => exact absurd success (by decide)
  | probed allocated mapped created =>
      obtain ⟨name, n, known, registers, recorded⟩ := created.success (Int.lt_irrefl 0)
      have before := @Known.of_counters readReg (allocate registry) registry name n rfl known
      exact ⟨⟨Bool.and_eq_true_iff.mpr ⟨allocated, mapped⟩, ⟨name, n, before⟩, registers⟩, n, recorded⟩

/-- The number comes from the counters alone, and so does whether there is one. -/
theorem numberGiven_probe {number : BitVec 32} (unbound : state.drvdata pdev = none) :
    numberGiven (.probe outcome readReg pdev) (probe outcome readReg pdev state) = some number ↔
      Succeeds outcome readReg state.registry ∧
        (getBoardInstance (readReg deviceBoardType) state.registry.boardNameList).1 = number := by
  cases ran : xdmaProbe outcome readReg pdev state.registry with
  | mk rv next =>
      have probed := xdmaProbe_probed ran
      by_cases success : rv = 0
      · obtain ⟨succeeds, n, recorded⟩ := probed.success success
        have given : numberGiven (.probe outcome readReg pdev) (probe outcome readReg pdev state) =
            some (getBoardInstance (readReg deviceBoardType) state.registry.boardNameList).1 := by
          simp only [numberGiven, probe, ran, success, if_true, Plugged.devSetDrvdata,
            Option.bind_some, recorded]
          rfl
        rw [given, Option.some_inj]
        exact ⟨fun same => ⟨succeeds, same⟩, fun same => same.2⟩
      · have given : numberGiven (.probe outcome readReg pdev) (probe outcome readReg pdev state) =
            none := by
          simp only [numberGiven, probe, ran, success, if_false, unbound, Option.bind_none]
        rw [given]
        exact iff_of_false (Option.some_ne_none number).symm
          fun same => probed.failure success same.1

/-! ## Two runs -/

def SameCounters (left right : Plugged) : Prop :=
  left.registry.boardNameList = right.registry.boardNameList

theorem probe_boardNameList : (probe outcome readReg pdev state).registry.boardNameList =
    if Asks outcome then (getBoardInstance (readReg deviceBoardType) state.registry.boardNameList).2
    else state.registry.boardNameList := by
  cases ran : xdmaProbe outcome readReg pdev state.registry with
  | mk rv next =>
      rw [(probe_eq ran).1]
      exact (xdmaProbe_probed ran).boardNameList

theorem plugStep_probe (stepped : plugStep state (.probe outcome readReg pdev) = some after) :
    state.drvdata pdev = none ∧ after = probe outcome readReg pdev state := by
  simp only [plugStep] at stepped
  split at stepped
  · cases stepped
  · next unbound =>
      exact ⟨Option.not_isSome_iff_eq_none.mp unbound, (Option.some.inj stepped).symm⟩

/-- The counters after a call. Only a probe counts. -/
def countersAfter (list : List BoardInfo) : PlugCall → List BoardInfo
  | .probe outcome readReg _ =>
      if Asks outcome then (getBoardInstance (readReg deviceBoardType) list).2 else list
  | .remove _ | .deviceWrite _ _ | .timerIsr _ => list

theorem plugStep_boardNameList {call : PlugCall} (stepped : plugStep state call = some after) :
    after.registry.boardNameList = countersAfter state.registry.boardNameList call := by
  cases call with
  | probe outcome readReg pdev =>
      obtain ⟨_, rfl⟩ := plugStep_probe stepped
      exact probe_boardNameList
  | remove pdev =>
      cases stepped
      exact xdmaRemove_frame.2.2.1
  | deviceWrite name on =>
      rcases deviceWrite_some stepped with rfl | ⟨xpdev, record, _, _, rfl⟩
      · rfl
      · exact callBlinkControl_devices.2.2.1
  | timerIsr xpdev =>
      simp only [plugStep, timerIsr] at stepped
      split at stepped
      · obtain ⟨_, _, rfl⟩ := Option.map_eq_some_iff.mp stepped
        rfl
      · cases stepped

theorem SameCounters.step {left right leftNext rightNext : Plugged} {call : PlugCall}
    (same : SameCounters left right) (steppedLeft : plugStep left call = some leftNext)
    (steppedRight : plugStep right call = some rightNext) :
    SameCounters leftNext rightNext ∧ numberGiven call leftNext = numberGiven call rightNext := by
  unfold SameCounters at same ⊢
  constructor
  · rw [plugStep_boardNameList steppedLeft, plugStep_boardNameList steppedRight, same]
  · cases call with
    | probe outcome readReg pdev =>
        obtain ⟨unboundLeft, rfl⟩ := plugStep_probe steppedLeft
        obtain ⟨unboundRight, rfl⟩ := plugStep_probe steppedRight
        refine Option.ext fun number => ?_
        rw [numberGiven_probe unboundLeft, numberGiven_probe unboundRight, same]
        constructor
        · intro given
          exact ⟨given.1.of_counters same, given.2⟩
        · intro given
          exact ⟨given.1.of_counters same.symm, given.2⟩
    | remove | deviceWrite | timerIsr => rfl

/-- A probe that fails in `create_cdev` is without a trace, in the state after it and in the
numbers of the boards after it, exactly when the type of its board has no counter. -/
theorem failed_probe_traceless_iff
    (stepped : plugStep state (.probe outcome readReg pdev) = some after)
    (fails : FailsCreating outcome readReg pdev state.registry) :
    Traceless state after ↔ Uncounted readReg state.registry := by
  obtain ⟨unbound, rfl⟩ := plugStep_probe stepped
  have counters := @probe_boardNameList outcome readReg pdev state
  rw [if_pos fails.asks] at counters
  constructor
  · intro traceless
    exact getBoardInstance_same_iff.mp (counters.symm.trans traceless.counters)
  · intro uncounted
    have same := counters.trans (getBoardInstance_same_iff.mpr uncounted)
    cases ran : xdmaProbe outcome readReg pdev state.registry with
    | mk rv next =>
        obtain ⟨_, list, cdevs, procEntries⟩ := fails.result ran
        have registry := (probe_eq ran).1
        refine ⟨same, ?_, ?_, ?_, ?_⟩
        · exact (congrArg Registry.pcieDeviceList registry).trans list
        · exact (congrArg Registry.cdevs registry).trans cdevs
        · exact (congrArg Registry.procEntries registry).trans procEntries
        · intro calls numbers expected ranAfter ranBefore
          have start : SameCounters (probe outcome readReg pdev state) state := same
          exact lockstep_outputs (fun _ _ _ _ _ => SameCounters.step) start ranAfter ranBefore

/-- The first probe of a board of a type that the driver does not know. -/
def unknownTurn : Turn := { es5341Turn with readReg := fun _ => 0 }

theorem failed_probe_traceless_iff_unknown :
    Traceless (Plugged.start ⟨true, true, true⟩ givenMajors)
      (probe unknownTurn.outcome unknownTurn.readReg unknownTurn.pdev
        (Plugged.start ⟨true, true, true⟩ givenMajors)) :=
  (failed_probe_traceless_iff rfl ⟨by decide, by decide⟩).mpr (by decide)

/-- When the device of an ES5341 cannot be registered, the next ES5341 gets number 1, and
without that probe it would get 0. -/
theorem failed_probe_counts :
    FailsCreating { ProbeOutcome.allOk with cdevAdd := -1 } es5341Turn.readReg es5341Turn.pdev
        (Plugged.start ⟨true, true, true⟩ givenMajors).registry ∧
      outputs plugStep numberGiven (Plugged.start ⟨true, true, true⟩ givenMajors)
        [refusedPlug, es5341Plug] = some [1] ∧
      outputs plugStep numberGiven (Plugged.start ⟨true, true, true⟩ givenMajors)
        [es5341Plug] = some [0] ∧
      ∃ after, plugStep (Plugged.start ⟨true, true, true⟩ givenMajors) refusedPlug = some after ∧
        ¬ Traceless (Plugged.start ⟨true, true, true⟩ givenMajors) after := by
  refine ⟨⟨by decide, by decide⟩, by decide, by decide, _, rfl, ?_⟩
  intro traceless
  have counted := congrArg (fun list => list.map BoardInfo.count) traceless.counters
  exact absurd counted (by decide)

end Vi53xx.Driver
