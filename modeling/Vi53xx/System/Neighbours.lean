import Vi53xx.Driver.BystanderProperties
import Vi53xx.System.BoardsApart

/-! Processes with boards of their own, while other devices come and go and other programs
call the driver. The processes see of their boards what they would see without. -/

set_option autoImplicit false

namespace Vi53xx.System

open Foundation Driver

/-- A call of a process, or one that comes to the driver past the library: a device that is
plugged in or taken out, a program of its own with its memory, an entry of /proc, a timer. -/
inductive SystemCall where
  | process (made : ProcessCall)
  | driver (call : MachineCall) (user : BitVec 64 → BitVec 8)

def SystemCall.made : SystemCall → Option ProcessCall
  | .process made => some made
  | .driver _ _ => none

def systemStep (answers : Nat → Option (BitVec 64)) (state : Processes) :
    SystemCall → Option Processes
  | .process made => processStep state made
  | .driver call user =>
      let kernel := { state.common.kernel with user }
      (machineStep answers { state.common with kernel } call).map fun common => { state with common }

/-- The boards of the table, with their registers and buffers. -/
def Wiring.bystanders (wiring : Wiring) (boards : List Lib.DeviceInfo) : Bystanders where
  boards xpdev := ∃ info ∈ boards, wiring.place info.boardId = xpdev
  regs base := ∃ info ∈ boards, ∃ bar : BitVec 32, (bar = 0 ∨ bar = 1) ∧
    wiring.block info.boardId bar = base
  blocks block := ∃ info ∈ boards, wiring.store info.boardId = block

/-- The call is about no board of the table, and gives no board a BAR or a device file of theirs. -/
def Away (boards : List Lib.DeviceInfo) (wiring : Wiring) (devices : Nat → Option Board)
    (state : Processes) : MachineCall → Prop
  | .probe env pdev => ∀ info ∈ boards,
      (∀ bar : BitVec 32, (bar = 0 ∨ bar = 1) →
        ∀ idx, env.map.bars.iomap idx ≠ some (wiring.block info.boardId bar)) ∧
      ∀ n, (cdevRecord env.readReg pdev n state.common.plugged.registry).path ≠
        Lib.devicePath boards info.boardId
  | .remove pdev _ => ∀ info ∈ boards, ∀ board,
      devices (wiring.place info.boardId) = some board → board.pdev ≠ pdev
  | .request xpdev _ | .timerIsr xpdev => ∀ info ∈ boards, wiring.place info.boardId ≠ xpdev
  | .deviceWrite name _ => ∀ info ∈ boards,
      state.common.plugged.registry.deviceNamed name ≠ some (wiring.place info.boardId)

/-- A call past the library is one that can come, does not bring the driver down, and is
about other boards. -/
def Elsewhere (boards : List Lib.DeviceInfo) (wiring : Wiring) (devices : Nat → Option Board)
    (state : Processes) : SystemCall → Prop
  | .process _ => True
  | .driver call _ => call.Possible state.common ∧ ¬ call.Crashes state.common ∧
      Away boards wiring devices state call

/-- No other board has its BARs where a board of the table has them. -/
def BarsApart (boards : List Lib.DeviceInfo) (wiring : Wiring) (machine : Machine) : Prop :=
  ∀ xpdev board, machine.boards xpdev = some board → (∀ info ∈ boards, wiring.place info.boardId ≠ xpdev) →
    ∀ index, ∀ info ∈ boards, ∀ bar : BitVec 32, (bar = 0 ∨ bar = 1) →
      board.hold.bar index ≠ some (wiring.block info.boardId bar)

/-- The driver's part of a state, between any two calls. -/
structure Driven (answers : Nat → Option (BitVec 64)) (bystanders : Bystanders) (machine : Machine) :
    Prop where
  recorded : Recorded machine.plugged
  accounted : ∃ stuck, Accounted answers stuck machine
  apart : Apart bystanders machine

variable {answers : Nat → Option (BitVec 64)} {devices : Nat → Option Board}
  {boards : List Lib.DeviceInfo} {wiring : Wiring} {bystanders : Bystanders} {machine : Machine}
  {state next : Processes} {calls : List SystemCall} {spec : SharedBoards}

/-! ## The driver's part -/

/-- A request changes no more than the kernel's part, in which it allocates nothing. -/
theorem Driven.kernel {kernel : Kernel} (driven : Driven answers bystanders machine)
    (allocated : kernel.allocated = machine.kernel.allocated) :
    Driven answers bystanders { machine with kernel } := by
  obtain ⟨stuck, accounted⟩ := driven.accounted
  refine ⟨driven.recorded, ⟨stuck ++ [], ?_⟩, driven.apart.boards, ?_, driven.apart.bars,
    driven.apart.buffers⟩
  · exact accounted.idle ⟨rfl, Nat.le_refl _, rfl⟩ rfl rfl
  · exact fun block own => allocated ▸ driven.apart.blocks block own

theorem stackStep_machine {stack after : Stack} {call : StackCall}
    (stepped : stackStep stack call = some after) :
    ∃ kernel, after.machine = { stack.machine with kernel } ∧
      kernel.allocated = stack.machine.kernel.allocated := by
  cases call with
  | deviceOpen boardId pick mallocOk =>
      obtain ⟨boards, _, stepped⟩ := Option.bind_eq_some_iff.mp stepped
      obtain ⟨opened, _, stepped⟩ := Option.bind_eq_some_iff.mp stepped
      cases stepped
      exact ⟨stack.machine.kernel, rfl, rfl⟩
  | deviceClose boardId =>
      cases stepped
      exact ⟨stack.machine.kernel, rfl, rfl⟩
  | board boardId call argument outcome user =>
      simp only [stackStep, Stack.ioctl] at stepped
      split at stepped
      · cases stepped
        exact ⟨stack.machine.kernel, rfl, rfl⟩
      · split at stepped
        · cases stepped
          exact ⟨stack.machine.kernel, rfl, rfl⟩
        · obtain ⟨machine, asked, rfl⟩ := Option.map_eq_some_iff.mp stepped
          rcases requestMachine_some asked with rfl | ⟨board, _, kernel, _, ran, rfl⟩
          · exact ⟨_, rfl, rfl⟩
          · exact ⟨kernel, rfl, ((isolated_answer board.xdev _).run ran).allocated⟩

theorem Driven.processed {made : ProcessCall} (driven : Driven answers bystanders state.common)
    (stepped : processStep state made = some next) : Driven answers bystanders next.common := by
  obtain ⟨after, taken, rfl⟩ := Option.map_eq_some_iff.mp stepped
  obtain ⟨kernel, same, allocated⟩ := stackStep_machine taken
  have common : (Family.put stackSharing state made.1 after).common = after.machine := rfl
  rw [common, same]
  exact driven.kernel allocated

theorem Driven.called {call : MachineCall} {after : Machine} (driven : Driven answers bystanders machine)
    (avoids : call.Avoids bystanders machine) (stepped : machineStep answers machine call = some after) :
    Spared bystanders machine after ∧ Driven answers bystanders after := by
  obtain ⟨stuck, accounted⟩ := driven.accounted
  obtain ⟨spared, apart⟩ := driven.apart.step avoids stepped
  refine ⟨spared, ?_, ⟨_, accounted.step stepped⟩, apart⟩
  rcases machineStep_plugged stepped with same | ⟨plugCall, _, taken⟩
  · rw [same]
    exact driven.recorded
  · exact driven.recorded.step taken

/-- The device files of the boards stay theirs. -/
theorem filed_called {call : MachineCall} {kernel : Kernel} {next : Machine}
    (recorded : Recorded state.common.plugged)
    (filed : Filed state.common.plugged.registry boards wiring)
    (avoids : call.Avoids (wiring.bystanders boards) state.common)
    (away : Away boards wiring devices state call)
    (stepped : machineStep answers { state.common with kernel } call = some next) :
    Filed next.plugged.registry boards wiring := by
  rcases machineStep_plugged stepped with same | ⟨plugCall, plugs, taken⟩
  · rw [same]
    exact filed
  · intro info member
    refine fileBoard_plugStep recorded taken (filed info member) ?_ ?_
    · rintro pdev rfl bound
      cases call with
      | remove device intact =>
          cases plugs
          exact avoids _ bound ⟨info, member, rfl⟩
      | probe | request | deviceWrite | timerIsr => exact plugs
    · rintro outcome readReg pdev rfl n
      cases call with
      | probe env device =>
          obtain ⟨rfl, rfl⟩ := plugs
          exact (away info member).2 n
      | remove | request | deviceWrite | timerIsr => exact plugs.elim

/-! ## Both together -/

/-- The processes see the boards of the abstract system, and the driver is between two calls. -/
structure Meets (answers : Nat → Option (BitVec 64)) (devices : Nat → Option Board)
    (boards : List Lib.DeviceInfo) (wiring : Wiring) (spec : SharedBoards) (state : Processes) : Prop where
  matched : ∀ pid, Matches devices boards wiring (spec.process pid) (state.process pid)
  driven : Driven answers (wiring.bystanders boards) state.common

theorem Meets.avoids {call : MachineCall} (meets : Meets answers devices boards wiring spec state)
    (away : Away boards wiring devices state call) : call.Avoids (wiring.bystanders boards) state.common := by
  cases call with
  | probe env pdev =>
      rintro idx base there ⟨info, member, bar, known, rfl⟩
      exact (away info member).1 bar known idx there
  | remove pdev intact =>
      rintro xpdev data ⟨info, member, rfl⟩
      obtain ⟨stuck, accounted⟩ := meets.driven.accounted
      obtain ⟨_, board, found, owner⟩ := accounted.bound pdev _ data
      exact away info member board (((meets.matched 0).heap info member).symm.trans found) owner
  | request | timerIsr =>
      rintro ⟨info, member, here⟩
      exact away info member here
  | deviceWrite name on =>
      rintro xpdev named ⟨info, member, rfl⟩
      exact away info member named

/-- A call that is about other boards completes, and no process notices it. -/
theorem Meets.driver {call : MachineCall} {user : BitVec 64 → BitVec 8}
    (meets : Meets answers devices boards wiring spec state)
    (elsewhere : Elsewhere boards wiring devices state (.driver call user)) :
    ∃ next, systemStep answers state (.driver call user) = some next ∧
      Meets answers devices boards wiring spec next := by
  obtain ⟨possible, fine, away⟩ := elsewhere
  have driven : Driven answers (wiring.bystanders boards)
      { state.common with kernel := { state.common.kernel with user } } := meets.driven.kernel rfl
  obtain ⟨stuck, accounted⟩ := driven.accounted
  have completes : ∃ after, machineStep answers
      { state.common with kernel := { state.common.kernel with user } } call = some after := by
    refine Option.ne_none_iff_exists'.mp ?_
    intro stopped
    exact fine ((machineStep_none_iff driven.recorded accounted possible).mp stopped)
  obtain ⟨after, stepped⟩ := completes
  have avoids := meets.avoids away
  obtain ⟨spared, later⟩ := driven.called avoids stepped
  have filed := filed_called driven.recorded (meets.matched 0).filed avoids away stepped
  refine ⟨{ state with common := after }, by simp only [systemStep, stepped, Option.map_some], ?_, later⟩
  intro pid
  have matched := meets.matched pid
  refine ⟨matched.table, matched.owning, filed, ?_, ?_, ?_⟩
  · intro info member
    exact (spared.boards _ ⟨info, member, rfl⟩).trans (matched.heap info member)
  · intro info member bar known offset
    have same := spared.regs (wiring.block info.boardId bar) ⟨info, member, bar, known, rfl⟩
    exact (congrFun same offset).trans (matched.regs info member bar known offset)
  · intro info member place
    have same := spared.buffers (wiring.store info.boardId) ⟨info, member, rfl⟩
    exact (congrFun same place).trans (matched.cells info member place)

theorem Meets.process {made : ProcessCall} (meets : Meets answers devices boards wiring spec state)
    (known : boards ≠ []) (wired : Wired devices boards wiring)
    (allowed : Allowed boards wiring (spec.process made.1) made.2) :
    ∃ next, systemStep answers state (.process made) = some next ∧
      Meets answers devices boards wiring (spec.step made) next := by
  obtain ⟨next, stepped, matched⟩ := matches_step known wired meets.matched allowed
  exact ⟨next, stepped, matched, meets.driven.processed stepped⟩

theorem driven_start (driven : ∃ procs major kernel plugs,
      runFrom (machineStep answers) (Machine.start procs major kernel) plugs = some machine)
    (attached : Attached machine boards wiring) (bars : BarsApart boards wiring machine) :
    Driven answers (wiring.bystanders boards) machine := by
  obtain ⟨procs, major, kernel, plugs, driven⟩ := driven
  have accounted := accounted_start.run driven
  have fresh := fresh_run fresh_start driven
  refine ⟨machine_recorded driven, ⟨_, accounted⟩, ?_, ?_, ?_, ?_⟩
  · rintro _ ⟨info, member, rfl⟩
    obtain ⟨board, found, _⟩ := attached.board info member
    exact accounted.below _ (accounted.whole _ board found).1
  · rintro _ ⟨info, member, rfl⟩
    obtain ⟨board, found, _, _, _, store, _⟩ := attached.board info member
    exact accounted.block_old fresh found ⟨0, 0, store⟩
  · rintro xpdev board found foreign index base there ⟨info, member, bar, known, rfl⟩
    obtain ⟨attempt, ready⟩ := (accounted.whole xpdev board found).2.ready
    have other : ∀ info ∈ boards, wiring.place info.boardId ≠ xpdev :=
      fun info member here => foreign ⟨info, member, here⟩
    rw [ready.bar] at there
    exact bars xpdev board found other index info member bar known there
  · rintro xpdev board found foreign _ has ⟨info, member, rfl⟩
    obtain ⟨own, there, _, _, _, store, _⟩ := attached.board info member
    have different : wiring.place info.boardId ≠ xpdev := fun here => foreign ⟨info, member, here⟩
    exact accounted.blocks_apart fresh (held_distinct driven) found there different ⟨0, 0, store⟩ has

/-- As long as what else is asked of the driver is about other boards and does not bring it
down, every run completes, and each process sees of its boards what it sees after the calls
of the processes alone. -/
theorem neighbours_unseen
    (started : ∀ pid, Started answers boards wiring (Processes.process state pid))
    (apart : BarsApart boards wiring state.common)
    (allowed : AllowedRun boards wiring state (calls.filterMap SystemCall.made))
    (elsewhere : EachStep (systemStep answers) (Elsewhere boards wiring state.common.boards)
      state calls) :
    ∃ all alone, runFrom (systemStep answers) state calls = some all ∧
      runFrom (processStep) state (calls.filterMap SystemCall.made) = some alone ∧
      ∀ info ∈ boards, ∀ pid,
        SeenAlike wiring info.boardId (Processes.process all pid) (Processes.process alone pid) := by
  have known := (started 0).known
  have wired : Wired state.common.boards boards wiring := (started 0).wired
  have moves : ∀ (spec : SharedBoards) reached call made,
      Meets answers state.common.boards boards wiring spec reached →
      Elsewhere boards wiring state.common.boards reached call → SystemCall.made call = some made →
      Allowed boards wiring (spec.process made.1) made.2 →
      ∃ next, systemStep answers reached call = some next ∧
        Meets answers state.common.boards boards wiring (spec.step made) next := by
    intro spec reached call made meets _ own permitted
    cases call with
    | process other =>
        cases own
        exact meets.process known wired permitted
    | driver => cases own
  have stutters : ∀ (spec : SharedBoards) reached call,
      Meets answers state.common.boards boards wiring spec reached →
      Elsewhere boards wiring state.common.boards reached call → SystemCall.made call = none →
      ∃ next, systemStep answers reached call = some next ∧
        Meets answers state.common.boards boards wiring spec next := by
    intro spec reached call meets outside foreign
    cases call with
    | process => cases foreign
    | driver call user => exact meets.driver outside
  have start : Meets answers state.common.boards boards wiring
      (SharedBoards.start wiring state.common.kernel) state :=
    ⟨matches_start started, driven_start (started 0).driven (started 0).attached apart⟩
  obtain ⟨all, ran, meets⟩ := simulation_part moves stutters start allowed elsewhere
  obtain ⟨alone, ranAlone, shows⟩ := shows_after started allowed
  refine ⟨all, alone, ran, ranAlone, ?_⟩
  intro info member pid
  exact seenAlike member ((meets.matched pid).shows known wired) (shows pid) ⟨rfl, rfl, rfl⟩

/-! ## A third device -/

def thirdDevice : PciDev := { es5341Turn.pdev with bus := 3 }

/-- Its BARs are past those of the two boards. -/
def thirdEnv : ProbeEnv :=
  { es5341Env with map := { freeBus with bars := ⟨freeBus.bars.length, fun idx => some (idx.val + 4)⟩ } }

/-- The third device comes before the processes have opened their boards, and goes while
they use them. -/
def threeDevices : List SystemCall :=
  .driver (.probe thirdEnv thirdDevice) (fun _ => 0) :: ((twoCalls.take 4).map .process ++
    .driver (.remove thirdDevice true) (fun _ => 0) :: (twoCalls.drop 4).map .process)

theorem twoPlugs_devices
    (ran : runFrom (machineStep fun _ => some 0x10000)
      (Machine.start ⟨true, true, true⟩ givenMajors .booted) twoPlugs = some machine) :
    machine.plugged.drvdata thirdDevice = none ∧ machine.plugged.registry.pcieDeviceList = [1, 0] ∧
      (∀ n, machine.plugged.registry.fileBoard
        (cdevRecord thirdEnv.readReg thirdDevice n machine.plugged.registry).path = none) ∧
      ∀ xpdev, xpdev = 0 ∨ xpdev = 1 → ∀ board, machine.boards xpdev = some board →
        board.pdev ≠ thirdDevice := by
  have seen : (runFrom (machineStep fun _ => some 0x10000)
      (Machine.start ⟨true, true, true⟩ givenMajors .booted) twoPlugs).map (fun machine =>
        ((machine.plugged.drvdata thirdDevice, machine.plugged.registry.pcieDeviceList),
          decide (∀ n, machine.plugged.registry.fileBoard
            (cdevRecord thirdEnv.readReg thirdDevice n machine.plugged.registry).path = none),
          (machine.boards 0).map Board.pdev, (machine.boards 1).map Board.pdev)) =
      some ((none, [1, 0]), true, some es5341Turn.pdev, some { es5341Turn.pdev with bus := 2 }) := by
    decide +kernel
  rw [ran, Option.map_some, Option.some.injEq] at seen
  simp only [Prod.mk.injEq, decide_eq_true_eq] at seen
  obtain ⟨⟨unbound, list⟩, unnamed, first, second⟩ := seen
  refine ⟨unbound, list, unnamed, ?_⟩
  intro xpdev known board found
  rcases known with rfl | rfl
  · rw [found, Option.map_some, Option.some.injEq] at first
    rw [first]
    decide
  · rw [found, Option.map_some, Option.some.injEq] at second
    rw [second]
    decide

/-- The driver has the two boards of the table, and no other. -/
theorem two_apart (ids : boards.map Lib.DeviceInfo.boardId = [7, 8])
    (ran : runFrom (machineStep fun _ => some 0x10000)
      (Machine.start ⟨true, true, true⟩ givenMajors .booted) twoPlugs = some machine) :
    BarsApart boards twoWiring machine := by
  intro xpdev board found other
  have listed := ((accounted_start.run ran).whole xpdev board found).1
  rw [(twoPlugs_devices ran).2.1] at listed
  have both : (7 : BitVec 32) ∈ boards.map Lib.DeviceInfo.boardId ∧
      (8 : BitVec 32) ∈ boards.map Lib.DeviceInfo.boardId := by
    simp [ids]
  obtain ⟨first, here, seven⟩ := List.mem_map.mp both.1
  obtain ⟨second, there, eight⟩ := List.mem_map.mp both.2
  have zero := other first here
  have one := other second there
  rw [seven] at zero
  rw [eight] at one
  rcases List.mem_cons.mp listed with rfl | last
  · exact absurd rfl one
  · exact absurd (List.mem_singleton.mp last).symm zero

theorem threeDevices_elsewhere
    (ran : runFrom (machineStep fun _ => some 0x10000)
      (Machine.start ⟨true, true, true⟩ givenMajors .booted) twoPlugs = some state.common)
    (filed : Filed state.common.plugged.registry boards twoWiring) :
    EachStep (systemStep fun _ => some 0x10000)
      (Elsewhere boards twoWiring state.common.boards) state threeDevices := by
  obtain ⟨unbound, _, unnamed, owners⟩ := twoPlugs_devices ran
  refine ⟨⟨unbound, ?_, ?_⟩, fun next _ => ?_⟩
  · rintro ⟨_, _, first | ⟨second, _⟩⟩
    · exact absurd first (by decide)
    · exact absurd second (by decide)
  · intro info member
    refine ⟨?_, ?_⟩
    · intro bar known idx there
      have place : idx.val + 4 = twoWiring.block info.boardId bar := Option.some.inj there
      have low : twoWiring.block info.boardId bar < 4 := by
        simp only [twoWiring]
        split <;> split <;> omega
      omega
    · intro n same
      have theirs := filed info member
      rw [← same, unnamed n] at theirs
      cases theirs
  · have others : ∀ call ∈ threeDevices.tail, ∀ reached,
        Elsewhere boards twoWiring state.common.boards reached call := by
      intro call member reached
      rcases List.mem_append.mp member with early | late
      · obtain ⟨made, _, rfl⟩ := List.mem_map.mp early
        trivial
      · rcases List.mem_cons.mp late with rfl | last
        · refine ⟨trivial, fun crashes => absurd crashes.2 (by decide), ?_⟩
          intro info member board found
          refine owners _ ?_ board found
          simp only [twoWiring]
          split
          · exact .inl rfl
          · exact .inr rfl
        · obtain ⟨made, _, rfl⟩ := List.mem_map.mp last
          trivial
    exact (eachStep_of_forall others).mono fun reached _ holds => holds reached

theorem neighbours_unseen_third :
    ∃ boards state,
      (∀ pid, Started (fun _ => some 0x10000) boards twoWiring (Processes.process state pid)) ∧
      ∃ all alone, runFrom (systemStep fun _ => some 0x10000) state threeDevices = some all ∧
        runFrom (processStep) state (threeDevices.filterMap SystemCall.made) = some alone ∧
        ∀ info ∈ boards, ∀ pid,
          SeenAlike twoWiring info.boardId (Processes.process all pid) (Processes.process alone pid) := by
  obtain ⟨boards, state, started, ids, ran⟩ := two_started
  have allowed : AllowedRun boards twoWiring state (threeDevices.filterMap SystemCall.made) :=
    twoCalls_allowed ids
  exact ⟨boards, state, started,
    neighbours_unseen started (two_apart ids ran) allowed
      (threeDevices_elsewhere ran (started 0).attached.filed)⟩

end Vi53xx.System
