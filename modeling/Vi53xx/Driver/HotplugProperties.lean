import Vi53xx.Driver.Hotplug
import Vi53xx.Driver.RegistryProperties

/-! What creating a character device, probing and removing do to each part of the
driver's records. -/

set_option autoImplicit false

namespace Vi53xx.Driver

open Foundation.CText

variable {registry next : Registry} {outcome : ProbeOutcome} {readReg : BitVec 32 → BitVec 32}
  {xpdev : Nat} {pdev : PciDev} {rv : Int}

/-! ## Creating a character device -/

/-- The registry after an instance number has been asked for. -/
def counted (readReg : BitVec 32 → BitVec 32) (registry : Registry) : Registry :=
  { registry with
    boardNameList := (getBoardInstance (readReg deviceBoardType) registry.boardNameList).2 }

def withRecord (xpdev : Nat) (record : XdmaPciDev) (registry : Registry) : Registry :=
  { registry with xpdevs := fun address =>
      if address = xpdev then some record else registry.xpdevs address }

/-- The record of a board whose type is the `n`-th of the list. -/
def cdevRecord (readReg : BitVec 32 → BitVec 32) (pdev : PciDev) (n : Fin boardTepeNum)
    (registry : Registry) : XdmaPciDev :=
  let instance_ := (getBoardInstance (readReg deviceBoardType) registry.boardNameList).1
  ⟨pdev, MKDEV (registry.major n) instance_, initDeviceInfo readReg instance_⟩

def deviceFile (name : List Char) (cdevno : BitVec 32) : List Char :=
  name ++ '_' :: decimal (MINOR cdevno).toInt

/-- The board has a type the driver knows. -/
structure Known (readReg : BitVec 32 → BitVec 32) (registry : Registry) (name : List Char)
    (n : Fin boardTepeNum) : Prop where
  named : getBoardName (readReg deviceBoardType) = some name
  indexed : getMajorIdx (readReg deviceBoardType) (counted readReg registry).boardNameList = some n.val

/-- The kernel registers the device. -/
def ProbeOutcome.Registers (outcome : ProbeOutcome) : Prop :=
  0 ≤ outcome.kobjectSetName ∧ 0 ≤ outcome.cdevAdd ∧ outcome.deviceCreate = true

inductive CdevCreated (outcome : ProbeOutcome) (readReg : BitVec 32 → BitVec 32) (xpdev : Nat)
    (pdev : PciDev) (registry : Registry) : Int → Registry → Prop where
  | unknown (unknown : ∀ name n, ¬ Known readReg registry name n) :
      CdevCreated outcome readReg xpdev pdev registry (-EINVAL) (counted readReg registry)
  | failed {rv : Int} {n : Fin boardTepeNum} (negative : rv < 0) (refused : ¬ outcome.Registers) :
      CdevCreated outcome readReg xpdev pdev registry rv
        (withRecord xpdev (cdevRecord readReg pdev n registry) (counted readReg registry))
  | created {name : List Char} {n : Fin boardTepeNum} (known : Known readReg registry name n)
      (registers : outcome.Registers) :
      CdevCreated outcome readReg xpdev pdev registry 0
        (createProcDevice outcome.procCreate xpdev
          (deviceFile name (cdevRecord readReg pdev n registry).ctrlCdev.cdevno)
          { withRecord xpdev (cdevRecord readReg pdev n registry) (counted readReg registry) with
            cdevs := (cdevRecord readReg pdev n registry).ctrlCdev.cdevno :: registry.cdevs })

theorem createCdev_created (create : createCdev outcome readReg xpdev pdev registry = (rv, next)) :
    CdevCreated outcome readReg xpdev pdev registry rv next := by
  unfold createCdev at create
  dsimp only at create
  split at create
  · next name n named indexed =>
      split at create
      · next bounded =>
          have known : Known readReg registry name ⟨n, bounded⟩ := ⟨named, indexed⟩
          split at create
          · next negative =>
              cases create
              exact .failed negative (n := ⟨n, bounded⟩) fun registers =>
                absurd registers.1 (Int.not_le.mpr negative)
          · next set =>
              split at create
              · next negative =>
                  cases create
                  exact .failed (n := ⟨n, bounded⟩) (by decide) fun registers =>
                    absurd registers.2.1 (Int.not_le.mpr negative)
              · next added =>
                  split at create
                  · next device =>
                      cases create
                      exact .created known ⟨Int.not_lt.mp set, Int.not_lt.mp added, device⟩
                  · next absent =>
                      cases create
                      exact .failed (n := ⟨n, bounded⟩) (by decide) fun registers =>
                        absurd registers.2.2 absent
      · next unbounded =>
          cases create
          refine .unknown ?_
          intro name place known
          have same : some place.val = some n := known.indexed.symm.trans indexed
          cases same
          exact unbounded place.isLt
  · next unknown =>
      cases create
      refine .unknown ?_
      intro name n known
      exact unknown name n.val known.named known.indexed

/-! ## Frames -/

/-- Only proc entries differ. -/
structure SameDevices (registry next : Registry) : Prop where
  records : next.xpdevs = registry.xpdevs
  list : next.pcieDeviceList = registry.pcieDeviceList
  allocated : next.allocated = registry.allocated
  major : next.major = registry.major
  boardNameList : next.boardNameList = registry.boardNameList

theorem procCreate_same {ok : Bool} {name : List Char} {fops : ProcFops} :
    SameDevices registry (procCreate ok name fops registry).2 := by
  unfold procCreate
  split <;> exact ⟨rfl, rfl, rfl, rfl, rfl⟩

theorem createProcDevice_same {ok : Bool} {name : List Char} :
    SameDevices registry (createProcDevice ok xpdev name registry) := by
  unfold createProcDevice
  split
  · exact procCreate_same
  · exact ⟨rfl, rfl, rfl, rfl, rfl⟩

/-- Creating a device touches no record but its own, and not the list. -/
structure Beside (xpdev : Nat) (registry next : Registry) : Prop where
  list : next.pcieDeviceList = registry.pcieDeviceList
  allocated : next.allocated = registry.allocated
  major : next.major = registry.major
  records : ∀ other, other ≠ xpdev → next.xpdevs other = registry.xpdevs other

theorem withRecord_beside {record : XdmaPciDev} :
    Beside xpdev registry (withRecord xpdev record (counted readReg registry)) := by
  refine ⟨rfl, rfl, rfl, ?_⟩
  intro other different
  exact if_neg different

theorem CdevCreated.beside (created : CdevCreated outcome readReg xpdev pdev registry rv next) :
    Beside xpdev registry next := by
  cases created with
  | unknown => exact ⟨rfl, rfl, rfl, fun _ _ => rfl⟩
  | failed => exact withRecord_beside
  | created =>
      obtain ⟨records, list, allocated, major, _⟩ := createProcDevice_same
      refine ⟨list, allocated, major, ?_⟩
      intro other different
      rw [records]
      exact if_neg different

theorem CdevCreated.kept (created : CdevCreated outcome readReg xpdev pdev registry rv next)
    (there : registry.xpdevs xpdev ≠ none) : next.xpdevs xpdev ≠ none := by
  cases created with
  | unknown => exact there
  | failed => simp [withRecord]
  | created =>
      rw [createProcDevice_same.records]
      simp [withRecord]

theorem CdevCreated.recorded (created : CdevCreated outcome readReg xpdev pdev registry rv next)
    (success : ¬ rv < 0) : next.xpdevs xpdev ≠ none := by
  cases created with
  | unknown => exact absurd (by decide) success
  | failed negative => exact absurd negative success
  | created =>
      rw [createProcDevice_same.records]
      simp [withRecord]

theorem vi53xxDevClean_beside : Beside xpdev registry (vi53xxDevClean xpdev registry) := by
  unfold vi53xxDevClean
  split <;> exact ⟨rfl, rfl, rfl, fun _ _ => rfl⟩

theorem vi53xxDevClean_xpdevs : (vi53xxDevClean xpdev registry).xpdevs = registry.xpdevs := by
  unfold vi53xxDevClean
  split <;> rfl

theorem xpdevFree_beside : Beside xpdev registry (xpdevFree xpdev registry) := by
  refine ⟨rfl, rfl, rfl, ?_⟩
  intro other different
  exact if_neg different

/-! ## Probing -/

def allocate (registry : Registry) : Registry :=
  { registry with allocated := registry.allocated + 1 }

/-- The outcomes of `xdma_probe`. -/
inductive ProbeResult (outcome : ProbeOutcome) (readReg : BitVec 32 → BitVec 32) (pdev : PciDev)
    (registry : Registry) : Int → Registry → Prop where
  | noMemory (failed : outcome.xpdevAlloc = false) :
      ProbeResult outcome readReg pdev registry (-ENOMEM) registry
  | unmapped (allocated : outcome.xpdevAlloc = true) (failed : outcome.deviceMap = false) :
      ProbeResult outcome readReg pdev registry (-EINVAL)
        (xpdevFree registry.allocated (allocate registry))
  | refused {rv : Int} {next : Registry} (allocated : outcome.xpdevAlloc = true)
      (mapped : outcome.deviceMap = true) (negative : rv < 0)
      (created : CdevCreated outcome readReg registry.allocated pdev (allocate registry) rv next) :
      ProbeResult outcome readReg pdev registry (-EINVAL) (xpdevFree registry.allocated next)
  | probed {next : Registry} (allocated : outcome.xpdevAlloc = true)
      (mapped : outcome.deviceMap = true)
      (created : CdevCreated outcome readReg registry.allocated pdev (allocate registry) 0 next) :
      ProbeResult outcome readReg pdev registry 0 (listAdd registry.allocated next)

theorem CdevCreated.zero (created : CdevCreated outcome readReg xpdev pdev registry rv next)
    (success : ¬ rv < 0) : rv = 0 := by
  cases created with
  | unknown => exact absurd (by decide) success
  | failed negative => exact absurd negative success
  | created => rfl

theorem xdmaProbe_probed (ran : xdmaProbe outcome readReg pdev registry = (rv, next)) :
    ProbeResult outcome readReg pdev registry rv next := by
  unfold xdmaProbe at ran
  cases allocated : outcome.xpdevAlloc with
  | false =>
      simp only [allocated, Bool.not_false, if_true, Prod.mk.injEq] at ran
      obtain ⟨rfl, rfl⟩ := ran
      exact .noMemory allocated
  | true =>
      cases mapped : outcome.deviceMap with
      | false =>
          simp only [allocated, mapped, Bool.not_false, Bool.not_true, Bool.false_eq_true, if_false,
            if_true, Prod.mk.injEq] at ran
          obtain ⟨rfl, rfl⟩ := ran
          exact .unmapped allocated mapped
      | true =>
          simp only [allocated, mapped, Bool.not_true, Bool.false_eq_true, if_false] at ran
          cases create : createCdev outcome readReg registry.allocated pdev
              { registry with allocated := registry.allocated + 1 } with
          | mk answer after =>
              have created := createCdev_created create
              rw [create] at ran
              dsimp only at ran
              split at ran
              · next negative =>
                  cases ran
                  exact .refused allocated mapped negative created
              · next success =>
                  cases ran
                  rw [created.zero success] at created
                  exact .probed allocated mapped created

/-! ## Whole calls -/

def HasEntry (registry : Registry) (xpdev : Nat) : Prop :=
  ∃ entry ∈ registry.procEntries, entry.fops = .device xpdev

theorem probe_eq {plugged : Plugged}
    (probed : xdmaProbe outcome readReg pdev plugged.registry = (rv, next)) :
    (probe outcome readReg pdev plugged).registry = next ∧
      (probe outcome readReg pdev plugged).ledTimers = plugged.ledTimers ∧
      (probe outcome readReg pdev plugged).removed = plugged.removed ∧
      ∀ device xpdev, (probe outcome readReg pdev plugged).drvdata device = some xpdev →
        plugged.drvdata device = some xpdev ∨ (rv = 0 ∧ xpdev = plugged.registry.allocated) := by
  unfold probe
  simp only [probed]
  split
  · next success =>
      refine ⟨rfl, rfl, rfl, ?_⟩
      intro device xpdev data
      simp only [Plugged.devSetDrvdata] at data
      split at data
      · exact .inr ⟨success, (Option.some.inj data).symm⟩
      · exact .inl data
  · exact ⟨rfl, rfl, rfl, fun _ _ => .inl⟩

theorem deviceWrite_some {plugged written : Plugged} {name : List Char} {on : Bool}
    (wrote : deviceWrite name on plugged = some written) :
    written = plugged ∨ ∃ xpdev record, HasEntry plugged.registry xpdev ∧
      plugged.registry.xpdevs xpdev = some record ∧
      written = callBlinkControl on xpdev record plugged := by
  unfold deviceWrite at wrote
  split at wrote
  · next entryName xpdev found =>
      obtain ⟨record, held, rfl⟩ := Option.map_eq_some_iff.mp wrote
      exact .inr ⟨xpdev, record, ⟨_, List.mem_of_find?_eq_some found, rfl⟩, held, rfl⟩
  · exact .inl (Option.some.inj wrote).symm

/-! ## Module init -/

theorem createBoardProc_same {outcome : ProcOutcome} :
    SameDevices registry (createBoardProc outcome registry).2 := by
  unfold createBoardProc
  dsimp only
  split
  · have created := @procCreate_same { registry with parentDir := outcome.mkdir }
      outcome.boards devBoards .boards
    split
    · next made =>
        rw [made] at created
        exact ⟨created.records, created.list, created.allocated, created.major,
          created.boardNameList⟩
    · next refused =>
        rw [refused] at created
        exact ⟨created.records, created.list, created.allocated, created.major,
          created.boardNameList⟩
  · exact ⟨rfl, rfl, rfl, rfl, rfl⟩

theorem createInstanceBoardIdMmap_same {outcome : ProcOutcome} :
    SameDevices registry (createInstanceBoardIdMmap outcome registry).2 := by
  unfold createInstanceBoardIdMmap
  split
  · have created := @procCreate_same registry outcome.mapping devMaping .mapping
    split
    · next made =>
        rw [made] at created
        exact created
    · next refused =>
        rw [refused] at created
        exact ⟨created.records, created.list, created.allocated, created.major,
          created.boardNameList⟩
  · exact ⟨rfl, rfl, rfl, rfl, rfl⟩

/-- The module starts without devices, its counters at 0. -/
theorem start_same {outcome : ProcOutcome} {major : Fin boardTepeNum → BitVec 32} :
    SameDevices { Registry.unloaded major with boardNameList := initialBoardNameList }
      (Plugged.start outcome major).registry := by
  have boards := @createBoardProc_same
    { Registry.unloaded major with boardNameList := initialBoardNameList } outcome
  have files := @createInstanceBoardIdMmap_same (createBoardProc outcome
    { Registry.unloaded major with boardNameList := initialBoardNameList }).2 outcome
  exact ⟨files.records.trans boards.records, files.list.trans boards.list,
    files.allocated.trans boards.allocated, files.major.trans boards.major,
    files.boardNameList.trans boards.boardNameList⟩

/-! ## Whole calls as runs of steps -/

variable {state : Hotplug} {t : Turn}

theorem proceed_same {pdev : PciDev} {next : Option (Stage × Nat)} {plugged : Plugged} :
    (state.proceed pdev next plugged).doing pdev = next :=
  if_pos rfl

theorem proceed_other {pdev device : PciDev} {next : Option (Stage × Nat)} {plugged : Plugged}
    (different : device ≠ pdev) :
    (state.proceed pdev next plugged).doing device = state.doing device :=
  if_neg different

theorem proceed_proceed {pdev : PciDev} {first second : Option (Stage × Nat)}
    {before after : Plugged} :
    (state.proceed pdev first before).proceed pdev second after = state.proceed pdev second after := by
  have doing : (fun device => if device = pdev then second
      else if device = pdev then first else state.doing device) =
      fun device => if device = pdev then second else state.doing device := by
    funext device
    split <;> rfl
  simp only [Hotplug.proceed, doing]

@[simp] theorem proceed_plugged {pdev : PciDev} {call : Option (Stage × Nat)} {plugged : Plugged} :
    (state.proceed pdev call plugged).plugged = plugged := rfl

/-- The steps of a removal that nothing comes between are the call. -/
theorem remove_turns {xpdev : Nat} (idle : state.doing t.pdev = none)
    (bound : state.plugged.drvdata t.pdev = some xpdev) :
    (fun state => turn state t)^[6] state =
      state.proceed t.pdev none (xdmaRemove t.pdev state.plugged) := by
  have start : turn state t = state.proceed t.pdev (some (.devClean, xpdev)) state.plugged := by
    simp [turn, idle, bound]
  simp only [Function.iterate_succ, Function.comp_apply, Function.iterate_zero, id_eq, start]
  simp only [turn, proceed_same, proceed_plugged, proceed_proceed, xdmaRemove, bound]

/-- So are the steps of a probe, up to the exit it takes. -/
theorem probe_turns (idle : state.doing t.pdev = none)
    (unbound : state.plugged.drvdata t.pdev = none) :
    ∃ steps, (fun state => turn state t)^[steps] state =
      state.proceed t.pdev none (probe t.outcome t.readReg t.pdev state.plugged) := by
  have same : state.proceed t.pdev none state.plugged = state := by
    have doing : (fun device => if device = t.pdev then none else state.doing device) =
        state.doing := by
      funext device
      split
      · next here => rw [here, idle]
      · rfl
    simp only [Hotplug.proceed, doing]
  cases allocated : t.outcome.xpdevAlloc with
  | false =>
      refine ⟨1, ?_⟩
      simp [turn, idle, unbound, allocated, probe, xdmaProbe, same, ENOMEM]
  | true =>
      have start : turn state t = state.proceed t.pdev
          (some (.deviceMap, state.plugged.registry.allocated))
          { state.plugged with registry := { state.plugged.registry with
            allocated := state.plugged.registry.allocated + 1 } } := by
        simp [turn, idle, unbound, allocated]
      cases mapped : t.outcome.deviceMap with
      | false =>
          refine ⟨3, ?_⟩
          simp only [Function.iterate_succ, Function.comp_apply, Function.iterate_zero, id_eq, start]
          simp [turn, proceed_same, proceed_proceed, mapped, probe, xdmaProbe, allocated, EINVAL]
      | true =>
          cases create : createCdev t.outcome t.readReg state.plugged.registry.allocated t.pdev
              { state.plugged.registry with allocated := state.plugged.registry.allocated + 1 } with
          | mk rv after =>
              by_cases negative : rv < 0
              · refine ⟨4, ?_⟩
                simp only [Function.iterate_succ, Function.comp_apply, Function.iterate_zero, id_eq,
                  start]
                simp [turn, proceed_same, proceed_proceed, mapped, create, negative, probe,
                  xdmaProbe, allocated, EINVAL]
              · refine ⟨6, ?_⟩
                simp only [Function.iterate_succ, Function.comp_apply, Function.iterate_zero, id_eq,
                  start]
                simp [turn, proceed_same, proceed_proceed, mapped, create, negative, probe,
                  xdmaProbe, allocated, listAdd]

end Vi53xx.Driver
