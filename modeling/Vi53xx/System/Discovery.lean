import Vi53xx.Driver.RegistryProperties
import Vi53xx.Lib.BoardsProperties
import Vi53xx.Foundation.Runs

/-! Discovery of the driver's boards by the library, over procfs. The driver
registers its file as `mapping`, and the library opens `maping`. -/

set_option autoImplicit false

namespace Vi53xx.System

open Foundation

structure Probe where
  outcome : Driver.ProbeOutcome
  readReg : BitVec 32 → BitVec 32
  pdev : Driver.PciDev

def probeStep (registry : Driver.Registry) (probe : Probe) : Option Driver.Registry :=
  let (rv, registry) := Driver.xdmaProbe probe.outcome probe.readReg probe.pdev registry
  if rv = 0 then some registry else none

/-- A first check answers 0 and leaves the table with the driver's boards. -/
def Discovered (env : Lib.CheckEnv) (registry : Driver.Registry) : Prop :=
  ∃ boards state table,
    registry.probed = some boards ∧
    Lib.checkBoardsInfo env Lib.LibState.loaded = .ok (0, state) ∧
    state.availableBoardCount = boards.length ∧
    Lib.searchedBoards state = .ok table ∧
    ∀ id, (∃ entry ∈ table, entry.boardId = id) ↔
      ∃ board ∈ boards, board.ctrlCdev.info.boardId = id

variable {registry next : Driver.Registry} {probes : List Probe}

/-! ## The driver's side -/

def maping : List Char := "maping".toList

/-- No file of the driver has the name that the library opens. -/
def NoMaping (registry : Driver.Registry) : Prop :=
  ∀ entry ∈ registry.procEntries, entry.name ≠ maping

theorem noMaping_initialised {memory : Bool} {outcome : Driver.ProcOutcome}
    {major : Fin Driver.boardTepeNum → BitVec 32} :
    NoMaping (Driver.initBoardInfo memory outcome (Driver.Registry.unloaded major)).2 := by
  intro entry member
  rcases Driver.initBoardInfo_names member with before | boards | mapping
  · cases before
  · rw [boards]
    decide
  · rw [mapping]
    decide

theorem probeStep_some {probe : Probe} (stepped : probeStep registry probe = some next) :
    Driver.xdmaProbe probe.outcome probe.readReg probe.pdev registry = (0, next) := by
  unfold probeStep at stepped
  dsimp only at stepped
  split at stepped
  · next success =>
      cases stepped
      rw [← success]
  · cases stepped

theorem NoMaping.probed {probe : Probe} (absent : NoMaping registry)
    (stepped : probeStep registry probe = some next) : NoMaping next := by
  have probed := probeStep_some stepped
  intro entry member
  have here : entry ∈
      (Driver.xdmaProbe probe.outcome probe.readReg probe.pdev registry).2.procEntries := by
    rw [probed]
    exact member
  rcases Driver.xdmaProbe_names here with before | barred
  · exact absent entry before
  · intro named
    rw [named] at barred
    exact absurd barred (by decide)

theorem procfs_mapingPath {memory : Bool} {outcome : Driver.ProcOutcome}
    {major : Fin Driver.boardTepeNum → BitVec 32}
    (probed : runFrom probeStep
      (Driver.initBoardInfo memory outcome (Driver.Registry.unloaded major)).2 probes =
        some registry) : registry.procfs Lib.mapingPath = none := by
  have absent : NoMaping registry := by
    refine runFrom_preserves NoMaping ?_ noMaping_initialised probed
    intro registry probe next absent stepped
    exact absent.probed stepped
  exact Driver.procfs_missing absent

theorem pcieDeviceList_ne {start : Driver.Registry} {probe : Probe}
    (probed : runFrom probeStep start (probes ++ [probe]) = some registry) :
    registry.pcieDeviceList ≠ [] := by
  rw [runFrom_append] at probed
  obtain ⟨before, _, last⟩ := Option.bind_eq_some_iff.mp probed
  obtain ⟨after, stepped, ended⟩ := Option.bind_eq_some_iff.mp last
  cases ended
  have outcome := probeStep_some stepped
  have listed := Driver.xdmaProbe_pcieDeviceList (congrArg Prod.fst outcome)
  rw [outcome] at listed
  exact listed

/-! ## The library's side -/

theorem checkBoardsInfo_missing {env : Lib.CheckEnv} {state : Lib.LibState} {ret : Int}
    (missing : env.procfs Lib.mapingPath = none)
    (checked : Lib.checkBoardsInfo env Lib.LibState.loaded = .ok (ret, state)) :
    state.availableBoardCount = 0 := by
  unfold Lib.checkBoardsInfo at checked
  simp only [missing, Lib.extractValue] at checked
  cases info : env.mallocInfo <;> cases errorInfo : env.mallocErrorInfo <;>
    simp [Lib.requstMem, info, errorInfo, Lib.LibState.loaded, Lib.initConfig] at checked <;>
    exact congrArg Lib.LibState.availableBoardCount checked.2.symm

theorem not_discovered {env : Lib.CheckEnv} (missing : env.procfs Lib.mapingPath = none)
    (listed : registry.pcieDeviceList ≠ []) : ¬ Discovered env registry := by
  intro discovered
  obtain ⟨boards, state, table, probed, checked, counted, _⟩ := discovered
  rw [checkBoardsInfo_missing missing checked] at counted
  have positive := List.length_pos_iff.mpr (Driver.probed_ne probed listed)
  omega

/-- However many boards the driver has probed, the library discovers none of them. -/
theorem never_discovered {memory : Bool} {outcome : Driver.ProcOutcome}
    {major : Fin Driver.boardTepeNum → BitVec 32} {env : Lib.CheckEnv}
    (probed : runFrom probeStep
      (Driver.initBoardInfo memory outcome (Driver.Registry.unloaded major)).2 probes =
        some registry)
    (some_board : probes ≠ []) (served : env.procfs = registry.procfs) :
    ¬ Discovered env registry := by
  have missing : env.procfs Lib.mapingPath = none := by
    rw [served]
    exact procfs_mapingPath probed
  rw [← List.dropLast_concat_getLast some_board] at probed
  exact not_discovered missing (pcieDeviceList_ne probed)

/-! ## A driver with one board -/

def freshDriver : Driver.Registry :=
  (Driver.initBoardInfo true ⟨true, true, true⟩ (Driver.Registry.unloaded fun _ => 240)).2

/-- A probe of a board of type ES5341 with board id 1. -/
def es5341Probe : Probe where
  outcome := Driver.ProbeOutcome.allOk
  readReg offset :=
    if offset = Driver.deviceBoardType then Driver.es5341Id
    else if offset = Driver.deviceBoardId then 1 else 0
  pdev := ⟨0x10EE, 0x16F2, 0, 1, 0⟩

/-- A first check on procfs as the driver serves it, with memory to spare. -/
def firstCheck (registry : Driver.Registry) : Lib.CheckEnv where
  procfs := registry.procfs
  mallocInfo := true
  mallocErrorInfo := true
  line := List.replicate 256 CText.nul
  pastEnd := Lib.DeviceInfo.cleared

theorem es5341Probe_probed : ∃ registry, runFrom probeStep freshDriver [es5341Probe] = some registry ∧
    registry.probed.map (fun boards => boards.map fun board => board.ctrlCdev.info.boardId) =
      some [1] := by
  have seen : (runFrom probeStep freshDriver [es5341Probe]).map (fun registry =>
      registry.probed.map fun boards => boards.map fun board => board.ctrlCdev.info.boardId) =
      some (some [1]) := by decide +kernel
  exact Option.map_eq_some_iff.mp seen

/-- The one board of the driver, number 1, is not discovered. -/
theorem board_one_missed : ∃ registry, runFrom probeStep freshDriver [es5341Probe] = some registry ∧
    registry.probed.map (fun boards => boards.map fun board => board.ctrlCdev.info.boardId) =
      some [1] ∧ ¬ Discovered (firstCheck registry) registry := by
  obtain ⟨registry, probed, ids⟩ := es5341Probe_probed
  refine ⟨registry, probed, ids, not_discovered (procfs_mapingPath probed) ?_⟩
  rw [← List.nil_append [es5341Probe]] at probed
  exact pcieDeviceList_ne probed

theorem never_discovered_one : ∃ registry,
    runFrom probeStep freshDriver [es5341Probe] = some registry ∧
      ¬ Discovered (firstCheck registry) registry := by
  obtain ⟨registry, probed, _⟩ := es5341Probe_probed
  exact ⟨registry, probed, never_discovered probed (List.cons_ne_nil _ _) rfl⟩

end Vi53xx.System
