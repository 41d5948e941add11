import Vi53xx.Driver.FrameProperties
import Vi53xx.Driver.MachineProperties

/-! The memory of the driver over any run of its calls. No allocation gives what an
earlier one has given, so that the account says of each piece of memory whether it has
been freed, and that it has been freed once. -/

set_option autoImplicit false

namespace Vi53xx.Driver

open Foundation

/-- Memory, as opposed to what belongs to a device on the bus. -/
def Resource.memory : Resource → Bool
  | .xpdev _ | .xdev _ | .dma _ _ => true
  | .enabled _ | .regions _ | .iomap _ _ => false

/-- Taken by the time there have been so many records, and attempts to allocate. -/
def Resource.Old (answers : Nat → Option (BitVec 64)) (records attempts : Nat) : Resource → Prop
  | .xpdev address | .xdev address => address < records
  | .dma block phys => block < attempts ∧ answers block = some phys
  | .enabled _ | .regions _ | .iomap _ _ => True

structure Fresh (answers : Nat → Option (BitVec 64)) (records attempts : Nat)
    (taken : List Resource) : Prop where
  distinct : (taken.filter Resource.memory).Nodup
  old : ∀ item ∈ taken, item.Old answers records attempts

def Machine.Fresh (answers : Nat → Option (BitVec 64)) (state : Machine) : Prop :=
  Driver.Fresh answers state.plugged.registry.allocated state.kernel.allocated state.ledger.taken

variable {answers : Nat → Option (BitVec 64)} {records attempts later tries : Nat}
  {taken items : List Resource} {state next : Machine} {env : ProbeEnv} {pdev : PciDev}
  {xpdev : Nat} {hold : BusHold} {ledger : Holdings} {before after kernel : Kernel}

theorem Resource.Old.mono {item : Resource} (old : item.Old answers records attempts)
    (grown : records ≤ later) (tried : attempts ≤ tries) : item.Old answers later tries := by
  cases item with
  | xpdev | xdev => exact Nat.lt_of_lt_of_le old grown
  | dma => exact ⟨Nat.lt_of_lt_of_le old.1 tried, old.2⟩
  | enabled | regions | iomap => trivial

/-- Items that have been taken since there have been so many records and attempts. -/
structure New (answers : Nat → Option (BitVec 64)) (records attempts later tries : Nat)
    (items : List Resource) : Prop where
  grown : records ≤ later
  tried : attempts ≤ tries
  fresh : Fresh answers later tries items
  unseen : ∀ item ∈ items, item.memory = true → ¬ item.Old answers records attempts

theorem New.nil (grown : records ≤ later) (tried : attempts ≤ tries) :
    New answers records attempts later tries [] :=
  ⟨grown, tried, ⟨List.nodup_nil, fun _ => nofun⟩, fun _ => nofun⟩

theorem Fresh.append (fresh : Fresh answers records attempts taken)
    (new : New answers records attempts later tries items) :
    Fresh answers later tries (taken ++ items) where
  distinct := by
    rw [List.filter_append]
    refine fresh.distinct.append new.fresh.distinct ?_
    intro item first second
    obtain ⟨old, _⟩ := List.mem_filter.mp first
    obtain ⟨member, memory⟩ := List.mem_filter.mp second
    exact new.unseen item member memory (fresh.old item old)
  old := by
    intro item member
    rcases List.mem_append.mp member with before | added
    · exact (fresh.old item before).mono new.grown new.tried
    · exact new.fresh.old item added

/-! ## What the calls take -/

theorem xdmaDeviceUmap_taken : (xdmaDeviceUmap xpdev pdev hold ledger).taken = ledger.taken := by
  rw [xdmaDeviceUmap, unmapBars_logged]
  dsimp only [logBars, Ledger.take, Ledger.giveBack, List.map_nil]
  split <;> split <;> exact List.append_nil _

theorem xpdevRelease_taken {device : Option BusHold} :
    (xpdevRelease xpdev pdev device ledger).taken = ledger.taken := by
  cases device with
  | none => rfl
  | some hold => exact @xdmaDeviceUmap_taken pdev xpdev hold ledger

/-- What mapping a device takes: the structure, if anything, and no other memory. -/
def BusTaken (xpdev : Nat) (items : List Resource) : Prop :=
  items.filter Resource.memory = [] ∨ items.filter Resource.memory = [.xdev xpdev]

theorem BusTaken.append {more : List Resource} (taken : BusTaken xpdev items)
    (bus : more.filter Resource.memory = []) : BusTaken xpdev (items ++ more) := by
  rw [BusTaken, List.filter_append, bus, List.append_nil]
  exact taken

theorem iomaps_memory {addresses : List Nat} :
    (addresses.map (Resource.iomap pdev)).filter Resource.memory = [] := by
  simp [List.filter_map, Resource.memory, Function.comp_def]

/-- An exit gives back, and takes nothing. -/
theorem exits_taken :
    (errMask xpdev pdev hold ledger).taken = ledger.taken ∧
      (errMap xpdev pdev hold ledger).taken = ledger.taken ∧
      (errRegions xpdev pdev hold ledger).taken = ledger.taken := by
  have regions : ∀ ledger, (errRegions xpdev pdev hold ledger).taken = ledger.taken := by
    intro ledger
    rw [errRegions]
    split <;> rfl
  have map : ∀ ledger, (errMap xpdev pdev hold ledger).taken = ledger.taken := by
    intro ledger
    rw [errMap, regions]
    split <;> rfl
  exact ⟨xdmaDeviceUmap_taken, map ledger, regions ledger⟩

theorem xdmaDeviceMap_taken (map : DeviceMapEnv) (xpdev : Nat) (pdev : PciDev) (ledger : Holdings) :
    ∃ items, (xdmaDeviceMap map xpdev pdev ledger).2.taken = ledger.taken ++ items ∧
      BusTaken xpdev items := by
  have first : BusTaken xpdev [.xdev xpdev] := Or.inr rfl
  have second : BusTaken xpdev ([.xdev xpdev] ++ [.enabled pdev]) := first.append rfl
  have third : BusTaken xpdev (([.xdev xpdev] ++ [.enabled pdev]) ++ [.regions pdev]) :=
    second.append rfl
  have last : BusTaken xpdev ((([.xdev xpdev] ++ [.enabled pdev]) ++ [.regions pdev]) ++
      (mapBars map.bars .zeroed).2.mapped.map (.iomap pdev)) := third.append iomaps_memory
  unfold xdmaDeviceMap
  split
  · exact ⟨[], (List.append_nil _).symm, Or.inl rfl⟩
  · dsimp only
    split
    · exact ⟨_, rfl, first⟩
    · by_cases granted : map.requestRegions = 0
      · simp only [requestRegions, granted, ne_eq, not_true_eq_false, if_false]
        have logged : (logBars pdev (mapBars map.bars .zeroed).2
            (((ledger.take [.xdev xpdev]).take [.enabled pdev]).take [.regions pdev])).taken =
            ledger.taken ++ ((([.xdev xpdev] ++ [.enabled pdev]) ++ [.regions pdev]) ++
              (mapBars map.bars .zeroed).2.mapped.map (.iomap pdev)) := by
          simp only [logBars, Ledger.take, Ledger.giveBack, List.append_assoc]
        split
        · exact ⟨_, exits_taken.2.1.trans logged, last⟩
        · split
          · exact ⟨_, exits_taken.1.trans logged, last⟩
          · exact ⟨_, logged, last⟩
      · simp only [requestRegions, ne_eq, granted, not_false_eq_true, if_true]
        exact ⟨_, exits_taken.2.2.trans (List.append_assoc _ _ _), second⟩

theorem BusTaken.only {item : Resource} (taken : BusTaken xpdev items) (member : item ∈ items)
    (memory : item.memory = true) : item = .xdev xpdev := by
  have kept := List.mem_filter.mpr ⟨member, memory⟩
  rcases taken with none | one
  · rw [none] at kept
    cases kept
  · rw [one] at kept
    exact List.mem_singleton.mp kept

theorem mem_dmaTaken {item : Resource} (member : item ∈ dmaTaken answers before after) :
    ∃ attempt phys, item = .dma attempt phys ∧ answers attempt = some phys ∧
      before.allocated ≤ attempt ∧ (before.allocated ≤ after.allocated → attempt < after.allocated) := by
  obtain ⟨attempt, inside, taken⟩ := List.mem_filterMap.mp member
  obtain ⟨phys, answered, rfl⟩ := Option.map_eq_some_iff.mp taken
  obtain ⟨low, high⟩ := List.mem_range'_1.mp inside
  exact ⟨attempt, phys, rfl, answered, low, fun tried => by omega⟩

theorem dmaTaken_nodup : (dmaTaken answers before after).Nodup := by
  refine (List.nodup_range').filterMap ?_
  intro first second item one two
  obtain ⟨_, _, rfl⟩ := Option.map_eq_some_iff.mp one
  obtain ⟨_, _, same⟩ := Option.map_eq_some_iff.mp two
  cases same
  rfl

/-- What a probe takes, with the number that its record has got. -/
theorem probe_new {bus : List Resource} (taken : BusTaken xpdev bus)
    (tried : before.allocated ≤ after.allocated) :
    New answers xpdev before.allocated (xpdev + 1) after.allocated
      ([.xpdev xpdev] ++ (bus ++ dmaTaken answers before after)) := by
  have memory : (dmaTaken answers before after).filter Resource.memory =
      dmaTaken answers before after := by
    refine List.filter_eq_self.mpr ?_
    intro item member
    obtain ⟨_, _, rfl, _⟩ := mem_dmaTaken member
    rfl
  have apart : ∀ address, Resource.xpdev address ∉ dmaTaken answers before after ∧
      Resource.xdev address ∉ dmaTaken answers before after := by
    intro address
    constructor
    · intro member
      obtain ⟨_, _, same, _⟩ := mem_dmaTaken member
      cases same
    · intro member
      obtain ⟨_, _, same, _⟩ := mem_dmaTaken member
      cases same
  refine ⟨Nat.le_succ xpdev, tried, ⟨?_, ?_⟩, ?_⟩
  · have record : [Resource.xpdev xpdev].filter Resource.memory = [.xpdev xpdev] := rfl
    rw [List.filter_append, List.filter_append, memory, record]
    rcases taken with none | one
    · rw [none]
      exact List.nodup_cons.mpr ⟨(apart xpdev).1, dmaTaken_nodup⟩
    · rw [one]
      refine List.nodup_cons.mpr ⟨?_, List.nodup_cons.mpr ⟨(apart xpdev).2, dmaTaken_nodup⟩⟩
      intro member
      rcases List.mem_cons.mp member with same | later
      · cases same
      · exact (apart xpdev).1 later
  · intro item member
    rcases List.mem_append.mp member with record | other
    · rw [List.mem_singleton.mp record]
      exact Nat.lt_succ_self xpdev
    · rcases List.mem_append.mp other with bused | dmaed
      · cases memory : item.memory with
        | true =>
            rw [taken.only bused memory]
            exact Nat.lt_succ_self xpdev
        | false => cases item <;> trivial
      · obtain ⟨_, _, rfl, answered, _, below⟩ := mem_dmaTaken dmaed
        exact ⟨below tried, answered⟩
  · intro item member memory old
    rcases List.mem_append.mp member with record | other
    · rw [List.mem_singleton.mp record] at old
      exact Nat.lt_irrefl xpdev old
    · rcases List.mem_append.mp other with bused | dmaed
      · rw [taken.only bused memory] at old
        exact Nat.lt_irrefl xpdev old
      · obtain ⟨_, _, rfl, _, low, _⟩ := mem_dmaTaken dmaed
        exact absurd old.1 (Nat.not_lt.mpr low)

/-! ## Steps -/

theorem probe_allocated {plugged : Plugged} {outcome : ProbeOutcome}
    {readReg : BitVec 32 → BitVec 32} (allocated : outcome.xpdevAlloc = true) :
    (probe outcome readReg pdev plugged).registry.allocated = plugged.registry.allocated + 1 := by
  cases ran : xdmaProbe outcome readReg pdev plugged.registry with
  | mk rv after =>
      rw [(probe_eq ran).1]
      cases xdmaProbe_probed ran with
      | noMemory failed =>
          rw [allocated] at failed
          cases failed
      | unmapped => rfl
      | refused _ _ _ created => exact created.beside.allocated
      | probed _ _ created => exact created.beside.allocated

/-- A step takes what is new, if anything. -/
def Grows (answers : Nat → Option (BitVec 64)) (state next : Machine) : Prop :=
  ∃ items, next.ledger.taken = state.ledger.taken ++ items ∧
    New answers state.plugged.registry.allocated state.kernel.allocated
      next.plugged.registry.allocated next.kernel.allocated items

theorem grows_idle (ledger : next.ledger.taken = state.ledger.taken)
    (records : state.plugged.registry.allocated ≤ next.plugged.registry.allocated)
    (kernel : next.kernel.allocated = state.kernel.allocated) : Grows answers state next :=
  ⟨[], by rw [ledger, List.append_nil], New.nil records (Nat.le_of_eq kernel.symm)⟩

theorem probeMapped_grows {bus : List Resource}
    (taken : BusTaken state.plugged.registry.allocated bus)
    (mapped : ledger.taken = state.ledger.taken ++ ([.xpdev state.plugged.registry.allocated] ++ bus))
    (given : env.outcome.xpdevAlloc = true)
    (stepped : probeMapped answers env pdev hold ledger state = some next) :
    Grows answers state next := by
  have counted := @probe_allocated pdev state.plugged (env.mapped true) env.readReg given
  rcases probeMapped_some stepped with ⟨_, rfl⟩ | ⟨_, xdev, final, ran, rfl⟩
  · have new := @probe_new answers state.plugged.registry.allocated state.kernel state.kernel bus
      taken (Nat.le_refl _)
    refine ⟨_, ?_, counted ▸ new⟩
    rw [xpdevRelease_taken, mapped]
    simp [dmaTaken]
  · have advanced := (xdmaChannelInit_ready ran).2.allocated
    have new := @probe_new answers state.plugged.registry.allocated
      (state.kernel.xpdevAlloc state.plugged.registry.allocated) final bus taken
      (advanced ▸ Nat.le_add_right _ _)
    refine ⟨_, ?_, counted ▸ new⟩
    simp only [Machine.setBoard, Ledger.take, mapped, List.append_assoc]

theorem probeMachine_grows (stepped : probeMachine answers env pdev state = some next) :
    Grows answers state next := by
  unfold probeMachine at stepped
  cases given : env.outcome.xpdevAlloc with
  | false =>
      simp only [given, Bool.false_eq_true, if_false, Option.some.injEq] at stepped
      subst stepped
      have failed : (xdmaProbe env.outcome env.readReg pdev state.plugged.registry).1 ≠ 0 := by
        simp [xdmaProbe, given, ENOMEM]
      exact grows_idle rfl (probe_failed failed).allocated rfl
  | true =>
      simp only [given, if_true] at stepped
      obtain ⟨bus, mapped, taken⟩ := xdmaDeviceMap_taken env.map state.plugged.registry.allocated pdev
        (state.ledger.take [.xpdev state.plugged.registry.allocated])
      have all := mapped.trans (List.append_assoc _ _ _)
      split at stepped
      · next ledger ran =>
          cases stepped
          have counted := @probe_allocated pdev state.plugged (env.mapped false) env.readReg given
          have new := @probe_new answers state.plugged.registry.allocated state.kernel state.kernel bus
            taken (Nat.le_refl _)
          refine ⟨_, ?_, counted ▸ new⟩
          rw [ran] at all
          rw [xpdevRelease_taken, all]
          simp [dmaTaken]
      · next hold ledger ran =>
          rw [ran] at all
          exact probeMapped_grows taken all given stepped

theorem removeMachine_grows {intact : Bool} (stepped : removeMachine pdev intact state = some next) :
    Grows answers state next := by
  rcases removeMachine_some stepped with ⟨_, rfl⟩ | ⟨_, _, _, data, _, _, rfl⟩
  · exact grows_idle rfl (Nat.le_refl _) rfl
  · exact grows_idle xpdevRelease_taken (Nat.le_of_eq (xdmaRemove_records data).2.1.symm) rfl

theorem machineStep_grows {call : MachineCall}
    (stepped : machineStep answers state call = some next) : Grows answers state next := by
  cases call with
  | probe env pdev =>
      simp only [machineStep] at stepped
      split at stepped
      · cases stepped
      · exact probeMachine_grows stepped
  | remove pdev intact => exact removeMachine_grows stepped
  | request xpdev request =>
      rcases requestMachine_some stepped with rfl | ⟨board, _, _, _, ran, rfl⟩
      · exact grows_idle rfl (Nat.le_refl _) rfl
      · exact grows_idle rfl (Nat.le_refl _) ((isolated_answer board.xdev request).run ran).allocated
  | deviceWrite name on =>
      obtain ⟨after, wrote, same⟩ := deviceWriteMachine_wrote stepped
      rcases same with rfl | ⟨_, _, rfl⟩
      · exact grows_idle rfl (deviceWrite_same wrote).allocated rfl
      · exact grows_idle rfl (deviceWrite_same wrote).allocated rfl
  | timerIsr xpdev =>
      obtain ⟨after, fired, rfl⟩ := Option.map_eq_some_iff.mp stepped
      exact grows_idle rfl (timerIsr_same fired).allocated rfl

/-! ## Runs -/

theorem fresh_run {calls : List MachineCall} {final : Machine} (fresh : state.Fresh answers)
    (ran : runFrom (machineStep answers) state calls = some final) : final.Fresh answers := by
  refine runFrom_preserves (Machine.Fresh answers) ?_ fresh ran
  intro state call next before stepped
  obtain ⟨items, taken, new⟩ := machineStep_grows stepped
  rw [Machine.Fresh, taken]
  exact Fresh.append before new

theorem fresh_start {procs : ProcOutcome} {major : Fin boardTepeNum → BitVec 32} :
    (Machine.start procs major kernel).Fresh answers :=
  ⟨List.nodup_nil, fun _ member => absurd member List.not_mem_nil⟩

/-- What is left enabled is no memory. -/
theorem leaves_memory {calls : List MachineCall} :
    (calls.flatMap MachineCall.leaves).filter Resource.memory = [] := by
  refine List.filter_eq_nil_iff.mpr ?_
  intro item member
  obtain ⟨call, _, left⟩ := List.mem_flatMap.mp member
  cases call with
  | probe env pdev =>
      dsimp only [MachineCall.leaves, leftEnabled] at left
      split at left
      · split at left
        · rw [List.mem_singleton.mp left]
          simp [Resource.memory]
        · cases left
      · cases left
  | remove | request | deviceWrite | timerIsr => cases left

section

variable {procs : ProcOutcome} {major : Fin boardTepeNum → BitVec 32} {calls : List MachineCall}
  {final : Machine}

/-- The memory that has been allocated is freed or held. -/
theorem memory_accounts
    (ran : runFrom (machineStep answers) (Machine.start procs major kernel) calls = some final) :
    (final.ledger.filter Resource.memory).Accounts (final.holdings.filter Resource.memory) := by
  have accounts := (accounted_start.run ran).accounts.filter Resource.memory
  rw [List.filter_append, List.nil_append, leaves_memory, List.append_nil] at accounts
  exact accounts

theorem held_distinct
    (ran : runFrom (machineStep answers) (Machine.start procs major kernel) calls = some final) :
    (final.holdings.filter Resource.memory).Nodup :=
  ((memory_accounts ran).nodup (fresh_run fresh_start ran).distinct).2.1

theorem held_unfreed {item : Resource}
    (ran : runFrom (machineStep answers) (Machine.start procs major kernel) calls = some final)
    (member : item ∈ final.holdings) (memory : item.memory = true) :
    item ∉ final.ledger.returned := by
  obtain ⟨_, _, apart⟩ := (memory_accounts ran).nodup (fresh_run fresh_start ran).distinct
  intro back
  exact apart item (List.mem_filter.mpr ⟨member, memory⟩) (List.mem_filter.mpr ⟨back, memory⟩)

end

/-- After every run no memory (records, `xdma_dev` structures and DMA memory) has been freed
twice, or freed while a board holds it, or is held by two boards; and when no board is left,
all of it has been freed. -/
theorem memory_freed_once {procs : ProcOutcome} {major : Fin boardTepeNum → BitVec 32}
    {calls : List MachineCall} {final : Machine}
    (ran : runFrom (machineStep answers) (Machine.start procs major kernel) calls = some final) :
    (final.ledger.returned.filter Resource.memory).Nodup ∧
      (final.holdings.filter Resource.memory).Nodup ∧
      (∀ item ∈ final.holdings, item.memory = true → item ∉ final.ledger.returned) ∧
      (final.plugged.registry.pcieDeviceList = [] →
        ∀ item ∈ final.ledger.taken, item.memory = true → item ∈ final.ledger.returned) := by
  have accounts := memory_accounts ran
  obtain ⟨returned, _, _⟩ := accounts.nodup (fresh_run fresh_start ran).distinct
  refine ⟨returned, held_distinct ran, fun item member memory => held_unfreed ran member memory, ?_⟩
  intro empty item member memory
  rw [Machine.holdings, empty] at accounts
  have back := Ledger.Accounts.returned accounts item (List.mem_filter.mpr ⟨member, memory⟩)
  exact (List.mem_filter.mp back).1

theorem memory_freed_once_busy :
    ∃ final, runFrom (machineStep fourthMissing) (Machine.start ⟨true, true, true⟩ givenMajors .booted)
        busyThenRemoved = some final ∧
      (final.ledger.returned.filter Resource.memory).Nodup ∧
      (final.holdings.filter Resource.memory).Nodup ∧
      (∀ item ∈ final.holdings, item.memory = true → item ∉ final.ledger.returned) ∧
      (final.plugged.registry.pcieDeviceList = [] →
        ∀ item ∈ final.ledger.taken, item.memory = true → item ∈ final.ledger.returned) := by
  have ran : (runFrom (machineStep fourthMissing)
      (Machine.start ⟨true, true, true⟩ givenMajors .booted) busyThenRemoved).isSome = true := by
    decide +kernel
  obtain ⟨final, ran⟩ := Option.isSome_iff_exists.mp ran
  exact ⟨final, ran, memory_freed_once ran⟩

end Vi53xx.Driver
