import Vi53xx.Driver.DeviceMapProperties
import Vi53xx.Driver.FailedProbeProperties
import Vi53xx.Driver.HeldMemoryProperties
import Vi53xx.Driver.LeftoverProperties
import Vi53xx.Driver.Machine
import Vi53xx.Driver.ProbeMemory

/-! The account of the whole driver over any run of its calls. What has been taken is
held by the boards on the device list, or has been given back; the one thing that is
left is the enabling of a device whose regions were taken when it was probed. -/

set_option autoImplicit false

namespace Vi53xx.Driver

open Foundation

/-- What the driver holds for a board: DMA memory, the bus, and the record itself. -/
def Machine.held (state : Machine) (xpdev : Nat) : List Resource :=
  match state.boards xpdev with
  | none => []
  | some board =>
      board.xdev.memory ++ (busHeld xpdev board.pdev board.hold ++ [.xpdev xpdev])

def Machine.holdings (state : Machine) : List Resource :=
  state.plugged.registry.pcieDeviceList.flatMap state.held

/-- What a call leaves taken for no board. -/
def MachineCall.leaves : MachineCall → List Resource
  | .probe env pdev => if env.outcome.xpdevAlloc then leftEnabled env.map pdev else []
  | .remove _ _ | .request _ _ | .deviceWrite _ _ | .timerIsr _ => []

/-- The device of a board as its probe has left it. -/
structure Board.Whole (answers : Nat → Option (BitVec 64)) (xpdev : Nat) (board : Board) : Prop where
  owns : OwnsRegions board.hold
  ready : ∃ attempt, Ready answers attempt xpdev board.hold.bar board.xdev

structure Accounted (answers : Nat → Option (BitVec 64)) (stuck : List Resource) (state : Machine) :
    Prop where
  distinct : state.plugged.registry.pcieDeviceList.Nodup
  below : ∀ xpdev ∈ state.plugged.registry.pcieDeviceList, xpdev < state.plugged.registry.allocated
  bound : ∀ pdev xpdev, state.plugged.drvdata pdev = some xpdev →
    xpdev ∈ state.plugged.registry.pcieDeviceList ∧
      ∃ board, state.boards xpdev = some board ∧ board.pdev = pdev
  whole : ∀ xpdev board, state.boards xpdev = some board →
    xpdev ∈ state.plugged.registry.pcieDeviceList ∧ board.Whole answers xpdev
  accounts : state.ledger.Accounts (state.holdings ++ stuck)

/-- Between the two states no board has come or gone. -/
structure SameBoards (before after : Plugged) : Prop where
  list : after.registry.pcieDeviceList = before.registry.pcieDeviceList
  allocated : before.registry.allocated ≤ after.registry.allocated
  drvdata : after.drvdata = before.drvdata

structure BoardAdded (pdev : PciDev) (before after : Plugged) : Prop where
  list : after.registry.pcieDeviceList = before.registry.allocated :: before.registry.pcieDeviceList
  allocated : after.registry.allocated = before.registry.allocated + 1
  drvdata : after.drvdata = (before.devSetDrvdata pdev (some before.registry.allocated)).drvdata

variable {answers : Nat → Option (BitVec 64)} {stuck : List Resource} {state next : Machine}
  {plugged : Plugged} {outcome : ProbeOutcome} {readReg : BitVec 32 → BitVec 32} {pdev : PciDev}
  {xpdev : Nat} {ledger : Holdings} {kernel : Kernel} {env : ProbeEnv}

/-! ## What a call does -/

theorem requestMachine_some {request : Request} (stepped : requestMachine xpdev request state = some next) :
    next = state ∨ ∃ board ret after, state.boards xpdev = some board ∧
      answer board.xdev request state.kernel = (.ok ret, after) ∧ next = { state with kernel := after } := by
  unfold requestMachine at stepped
  cases found : state.boards xpdev with
  | none =>
      simp only [found] at stepped
      split at stepped
      · cases stepped
      · cases stepped
        exact .inl rfl
  | some board =>
      simp only [found] at stepped
      split at stepped
      · split at stepped
        · cases stepped
        · next ret after ran =>
            cases stepped
            exact .inr ⟨board, ret, after, rfl, ran, rfl⟩
      · cases stepped

theorem removeMachine_some {intact : Bool} (stepped : removeMachine pdev intact state = some next) :
    (state.plugged.drvdata pdev = none ∧ next = state) ∨
      ∃ xpdev board calls, state.plugged.drvdata pdev = some xpdev ∧ state.boards xpdev = some board ∧
        xdmaFreeResource state.kernel (some board.xdev) = .ok calls ∧
        next = ({ state with
          plugged := xdmaRemove pdev state.plugged
          ledger := xpdevRelease xpdev board.pdev (some board.hold)
            (state.ledger.giveBack (freedBlocks calls)) } : Machine).setBoard xpdev none := by
  unfold removeMachine at stepped
  cases data : state.plugged.drvdata pdev with
  | none =>
      simp only [data, Option.some.injEq] at stepped
      exact .inl ⟨rfl, stepped.symm⟩
  | some xpdev =>
      simp only [data] at stepped
      split at stepped
      · obtain ⟨board, found, stepped⟩ := Option.bind_eq_some_iff.mp stepped
        split at stepped
        · cases stepped
        · next calls ran =>
            cases stepped
            exact .inr ⟨xpdev, board, calls, rfl, found, ran, rfl⟩
      · cases stepped

/-- A mapped device is refused, or gets its channels set up. -/
theorem probeMapped_some {hold : BusHold}
    (stepped : probeMapped answers env pdev hold ledger state = some next) :
    ((xdmaProbe (env.mapped true) env.readReg pdev state.plugged.registry).1 < 0 ∧
      next = { state with
        plugged := probe (env.mapped true) env.readReg pdev state.plugged
        kernel := state.kernel.xpdevAlloc state.plugged.registry.allocated
        ledger := xpdevRelease state.plugged.registry.allocated pdev (some hold) ledger }) ∨
      (¬ (xdmaProbe (env.mapped true) env.readReg pdev state.plugged.registry).1 < 0 ∧
        ∃ xdev after, xdmaChannelInit answers (.allocated state.plugged.registry.allocated hold.bar)
            (state.kernel.xpdevAlloc state.plugged.registry.allocated) = (.ok xdev, after) ∧
          next = ({ state with
            plugged := probe (env.mapped true) env.readReg pdev state.plugged
            kernel := after
            ledger := ledger.take (dmaTaken answers
              (state.kernel.xpdevAlloc state.plugged.registry.allocated) after) } : Machine).setBoard
                state.plugged.registry.allocated (some ⟨pdev, hold, xdev, env.map.bars.length⟩)) := by
  unfold probeMapped at stepped
  dsimp only at stepped
  split at stepped
  · cases stepped
  · split at stepped
    · next failed =>
        cases stepped
        exact .inl ⟨failed, rfl⟩
    · next succeeded =>
        split at stepped
        · cases stepped
        · split at stepped
          · cases stepped
          · next xdev after ran =>
              cases stepped
              exact .inr ⟨succeeded, xdev, after, ran, rfl⟩

/-! ## Calls on the records -/

theorem probe_failed (failure : (xdmaProbe outcome readReg pdev plugged.registry).1 ≠ 0) :
    SameBoards plugged (probe outcome readReg pdev plugged) := by
  cases ran : xdmaProbe outcome readReg pdev plugged.registry with
  | mk rv after =>
      rw [ran] at failure
      have after_eq : probe outcome readReg pdev plugged = { plugged with registry := after } := by
        simp only [probe, ran]
        exact if_neg failure
      rw [after_eq]
      have probed := xdmaProbe_probed ran
      refine ⟨?_, probed.grown.1, rfl⟩
      cases probed with
      | noMemory => rfl
      | unmapped => rfl
      | refused _ _ _ created => exact created.beside.list
      | probed => exact absurd rfl failure

theorem probe_succeeded (success : (xdmaProbe outcome readReg pdev plugged.registry).1 = 0) :
    BoardAdded pdev plugged (probe outcome readReg pdev plugged) := by
  cases ran : xdmaProbe outcome readReg pdev plugged.registry with
  | mk rv after =>
      rw [ran] at success
      cases success
      have after_eq : probe outcome readReg pdev plugged =
          ({ plugged with registry := after } : Plugged).devSetDrvdata pdev
            (some plugged.registry.allocated) := by
        simp only [probe, ran]
        exact if_pos rfl
      rw [after_eq]
      cases xdmaProbe_probed ran with
      | probed _ _ created =>
          have beside := created.beside
          exact ⟨congrArg _ beside.list, beside.allocated, rfl⟩

theorem probe_unmapped (unmapped : outcome.deviceMap = false) :
    (xdmaProbe outcome readReg pdev plugged.registry).1 ≠ 0 := by
  intro success
  have asks := ((xdmaProbe_probed rfl).success success).1.asks
  simp [Asks, unmapped] at asks

theorem deviceWrite_same {name : List Char} {on : Bool} {after : Plugged}
    (wrote : deviceWrite name on plugged = some after) : SameBoards plugged after := by
  rcases deviceWrite_some wrote with rfl | ⟨xpdev, record, _, _, rfl⟩
  · exact ⟨rfl, Nat.le_refl _, rfl⟩
  · unfold callBlinkControl
    split
    · exact ⟨rfl, Nat.le_refl _, rfl⟩
    · exact ⟨rfl, Nat.le_refl _, rfl⟩

theorem timerIsr_same {after : Plugged} (fired : timerIsr xpdev plugged = some after) :
    SameBoards plugged after := by
  unfold timerIsr at fired
  split at fired
  · obtain ⟨_, _, rfl⟩ := Option.map_eq_some_iff.mp fired
    exact ⟨rfl, Nat.le_refl _, rfl⟩
  · cases fired

theorem xdmaRemove_records (data : plugged.drvdata pdev = some xpdev) :
    (xdmaRemove pdev plugged).registry.pcieDeviceList =
        plugged.registry.pcieDeviceList.filter (· ≠ xpdev) ∧
      (xdmaRemove pdev plugged).registry.allocated = plugged.registry.allocated ∧
      (xdmaRemove pdev plugged).drvdata = (plugged.devSetDrvdata pdev none).drvdata := by
  have beside := @vi53xxDevClean_beside plugged.registry xpdev
  simp only [xdmaRemove, data, listDel, xpdevFree, Plugged.devSetDrvdata]
  rw [beside.list]
  exact ⟨rfl, beside.allocated, trivial⟩

/-- A write to a proc file changes the records, and `off` the LED of the board of the file. -/
theorem deviceWriteMachine_wrote {name : List Char} {on : Bool}
    (stepped : deviceWriteMachine name on state = some next) :
    ∃ after, deviceWrite name on state.plugged = some after ∧
      (next = { state with plugged := after } ∨
        ∃ xpdev, state.plugged.registry.deviceNamed name = some xpdev ∧
          next = ({ state with plugged := after } : Machine).setLed xpdev LED_BLINK_OFF) := by
  obtain ⟨after, wrote, rfl⟩ := Option.map_eq_some_iff.mp stepped
  refine ⟨after, wrote, ?_⟩
  split
  · next xpdev named =>
      split
      · exact .inl rfl
      · exact .inr ⟨xpdev, named, rfl⟩
  · exact .inl rfl

/-! ## Holdings -/

theorem held_eq {other : Machine} (same : other.boards xpdev = state.boards xpdev) :
    other.held xpdev = state.held xpdev := by
  rw [Machine.held, Machine.held, same]

theorem setBoard_other {board : Option Board} {other : Nat} (different : other ≠ xpdev) :
    (state.setBoard xpdev board).boards other = state.boards other :=
  if_neg different

theorem setBoard_same {board : Option Board} :
    (state.setBoard xpdev board).boards xpdev = board :=
  if_pos rfl

theorem holdings_setBoard {board : Option Board} {xpdevs : List Nat} (apart : xpdev ∉ xpdevs) :
    xpdevs.flatMap (state.setBoard xpdev board).held = xpdevs.flatMap state.held := by
  refine List.flatMap_congr ?_
  intro other member
  refine held_eq (setBoard_other ?_)
  rintro rfl
  exact apart member

theorem held_board {board : Board} (found : state.boards xpdev = some board) :
    state.held xpdev =
      board.xdev.memory ++ (busHeld xpdev board.pdev board.hold ++ [.xpdev xpdev]) := by
  simp only [Machine.held, found]

/-- A call that moves no board keeps the account, if its ledger does. -/
theorem Accounted.same {left : List Resource} (accounted : Accounted answers stuck state)
    (boards : SameBoards state.plugged next.plugged) (heap : next.boards = state.boards)
    (accounts : next.ledger.Accounts (state.holdings ++ (stuck ++ left))) :
    Accounted answers (stuck ++ left) next where
  distinct := by
    rw [boards.list]
    exact accounted.distinct
  below := by
    rw [boards.list]
    exact fun xpdev member => Nat.lt_of_lt_of_le (accounted.below xpdev member) boards.allocated
  bound := by
    rw [boards.list, boards.drvdata, heap]
    exact accounted.bound
  whole := by
    rw [heap, boards.list]
    exact accounted.whole
  accounts := by
    have same : next.holdings = state.holdings := by
      rw [Machine.holdings, Machine.holdings, boards.list]
      exact List.flatMap_congr fun xpdev _ => held_eq (congrFun heap xpdev)
    rw [same]
    exact accounts

theorem Accounted.idle (accounted : Accounted answers stuck state)
    (boards : SameBoards state.plugged next.plugged) (heap : next.boards = state.boards)
    (ledger : next.ledger = state.ledger) : Accounted answers (stuck ++ []) next := by
  refine accounted.same boards heap ?_
  rw [ledger, List.append_nil]
  exact accounted.accounts

theorem Accounted.add {board : Board} (accounted : Accounted answers stuck state)
    (added : BoardAdded pdev state.plugged next.plugged)
    (heap : next.boards =
      (state.setBoard state.plugged.registry.allocated (some board)).boards)
    (device : board.pdev = pdev) (whole : board.Whole answers state.plugged.registry.allocated)
    (accounts : next.ledger.Accounts (next.held state.plugged.registry.allocated ++
      (state.holdings ++ stuck))) :
    Accounted answers stuck next := by
  have fresh : state.plugged.registry.allocated ∉ state.plugged.registry.pcieDeviceList :=
    fun member => Nat.lt_irrefl _ (accounted.below _ member)
  have found : next.boards state.plugged.registry.allocated = some board := by
    rw [heap]
    exact setBoard_same
  have others : ∀ other, other ≠ state.plugged.registry.allocated →
      next.boards other = state.boards other := by
    intro other different
    rw [heap]
    exact setBoard_other different
  constructor
  · rw [added.list]
    exact List.nodup_cons.mpr ⟨fresh, accounted.distinct⟩
  · intro xpdev member
    rw [added.list] at member
    rw [added.allocated]
    rcases List.mem_cons.mp member with rfl | before
    · exact Nat.lt_succ_self _
    · exact Nat.lt_succ_of_lt (accounted.below xpdev before)
  · intro other xpdev data
    rw [added.list]
    rw [added.drvdata] at data
    simp only [Plugged.devSetDrvdata] at data
    split at data
    · next here =>
        cases data
        exact ⟨List.mem_cons_self, board, found, device.trans here.symm⟩
    · obtain ⟨member, old, known, owner⟩ := accounted.bound other xpdev data
      refine ⟨List.mem_cons_of_mem _ member, old, ?_, owner⟩
      rw [others xpdev (fun same => fresh (same ▸ member))]
      exact known
  · intro xpdev some_board known
    rw [added.list]
    by_cases here : xpdev = state.plugged.registry.allocated
    · subst here
      rw [found] at known
      cases known
      exact ⟨List.mem_cons_self, whole⟩
    · rw [others xpdev here] at known
      obtain ⟨listed, kept⟩ := accounted.whole xpdev some_board known
      exact ⟨List.mem_cons_of_mem _ listed, kept⟩
  · have listed : next.holdings = next.held state.plugged.registry.allocated ++ state.holdings := by
      rw [Machine.holdings, added.list, List.flatMap_cons]
      congr 1
      refine List.flatMap_congr ?_
      intro other member
      exact held_eq (others other fun same => fresh (same ▸ member))
    rw [listed, List.append_assoc]
    exact accounts

/-! ## Probing -/

theorem xdmaProbe_not_neg (success : ¬ (xdmaProbe outcome readReg pdev plugged.registry).1 < 0) :
    (xdmaProbe outcome readReg pdev plugged.registry).1 = 0 := by
  by_cases succeeds : Succeeds outcome readReg plugged.registry
  · exact xdmaProbe_succeeds succeeds
  · exact absurd (xdmaProbe_fails succeeds) success

theorem Accounted.probeMapped {hold : BusHold} (accounted : Accounted answers stuck state)
    (owns : OwnsRegions hold)
    (accounts : ledger.Accounts (busHeld state.plugged.registry.allocated pdev hold ++
      (.xpdev state.plugged.registry.allocated :: (state.holdings ++ stuck))))
    (stepped : probeMapped answers env pdev hold ledger state = some next) :
    Accounted answers stuck next := by
  rcases probeMapped_some stepped with ⟨failed, rfl⟩ | ⟨succeeded, xdev, final, ran, rfl⟩
  · have released := xpdevRelease_accounts owns accounts
    have kept := @Accounted.same answers stuck state
      { state with
        plugged := probe (env.mapped true) env.readReg pdev state.plugged
        kernel := state.kernel.xpdevAlloc state.plugged.registry.allocated
        ledger := xpdevRelease state.plugged.registry.allocated pdev (some hold) ledger } []
      accounted (probe_failed (Int.ne_of_lt failed)) rfl
    rw [List.append_nil] at kept
    exact kept released
  · have ready := (xdmaChannelInit_ready ran).1
    refine accounted.add (probe_succeeded (xdmaProbe_not_neg succeeded)) rfl rfl ⟨owns, _, ready⟩ ?_
    rw [held_board setBoard_same]
    have taken := accounts.take (dmaTaken answers
      (state.kernel.xpdevAlloc state.plugged.registry.allocated) final)
    refine taken.perm ?_
    rw [List.append_assoc, List.append_assoc]
    exact (xdmaChannelInit_memory ran).append_right _

theorem Accounted.probe (accounted : Accounted answers stuck state)
    (stepped : probeMachine answers env pdev state = some next) :
    Accounted answers (stuck ++ (MachineCall.probe env pdev).leaves) next := by
  unfold probeMachine at stepped
  cases allocated : env.outcome.xpdevAlloc with
  | false =>
      simp only [allocated, Bool.false_eq_true, if_false, Option.some.injEq] at stepped
      subst stepped
      have failed : (xdmaProbe env.outcome env.readReg pdev state.plugged.registry).1 ≠ 0 := by
        simp [xdmaProbe, allocated, ENOMEM]
      have left : (MachineCall.probe env pdev).leaves = [] := by
        simp [MachineCall.leaves, allocated]
      rw [left]
      exact accounted.idle (probe_failed failed) rfl rfl
  | true =>
      simp only [allocated, if_true] at stepped
      have left : (MachineCall.probe env pdev).leaves = leftEnabled env.map pdev := by
        simp [MachineCall.leaves, allocated]
      rw [left]
      have taken := accounted.accounts.take [.xpdev state.plugged.registry.allocated]
      have mapping := @xdmaDeviceMap_mapped env.map state.plugged.registry.allocated pdev _ _ taken
      cases mapped : xdmaDeviceMap env.map state.plugged.registry.allocated pdev
          (state.ledger.take [.xpdev state.plugged.registry.allocated]) with
      | mk device ledger =>
          rw [mapped] at mapping stepped
          cases mapping with
          | refused accounts =>
              cases stepped
              refine accounted.same (probe_failed (probe_unmapped rfl)) rfl ?_
              refine Ledger.Accounts.giveBack [Resource.xpdev state.plugged.registry.allocated]
                (accounts.perm ?_)
              refine List.perm_iff_count.mpr ?_
              intro item
              simp only [List.count_append]
              omega
          | mapped owns free accounts =>
              have idle : leftEnabled env.map pdev = [] := if_neg free
              rw [idle, List.append_nil]
              exact accounted.probeMapped owns accounts stepped

/-! ## Removal -/

theorem Accounted.released {board : Board} {calls : List MemoryCall}
    (accounted : Accounted answers stuck state) (found : state.boards xpdev = some board)
    (listed : xpdev ∈ state.plugged.registry.pcieDeviceList)
    (freed : freedBlocks calls = board.xdev.memory) :
    (xpdevRelease xpdev board.pdev (some board.hold)
      (state.ledger.giveBack (freedBlocks calls))).Accounts
        ((state.plugged.registry.pcieDeviceList.filter (· ≠ xpdev)).flatMap state.held ++ stuck) := by
  have apart := @Ledger.holdings_remove _ _ _ _ xpdev state.held accounted.distinct listed
  rw [held_board found] at apart
  have split := accounted.accounts.perm (apart.append_right stuck)
  simp only [List.append_assoc] at split
  rw [freed]
  exact xpdevRelease_accounts (accounted.whole xpdev board found).2.owns
    (Ledger.Accounts.giveBack board.xdev.memory split)

theorem Accounted.remove {intact : Bool} (accounted : Accounted answers stuck state)
    (stepped : removeMachine pdev intact state = some next) : Accounted answers stuck next := by
  rcases removeMachine_some stepped with ⟨_, rfl⟩ | ⟨xpdev, board, calls, data, found, ran, rfl⟩
  · exact accounted
  · obtain ⟨member, held, known, owner⟩ := accounted.bound pdev xpdev data
    rw [found] at known
    cases known
    obtain ⟨_, owns, attempt, ready⟩ := accounted.whole xpdev board found
    obtain ⟨others, again, freed⟩ := @xdmaFreeResource_frees state.kernel board.xdev
      fun _ _ => Nat.le_trans ready.sgDescNum_le (by decide)
    obtain rfl : calls = others := Except.ok.inj (ran.symm.trans again)
    obtain ⟨list, allocated, drvdata⟩ := @xdmaRemove_records state.plugged pdev xpdev data
    constructor
    · exact list ▸ accounted.distinct.filter _
    · intro other listed
      rw [Machine.setBoard, list] at listed
      rw [Machine.setBoard, allocated]
      exact accounted.below other (List.mem_of_mem_filter listed)
    · intro device other held
      rw [Machine.setBoard, drvdata] at held
      simp only [Plugged.devSetDrvdata] at held
      split at held
      · cases held
      · next different =>
          obtain ⟨listed, old, known, device_owner⟩ := accounted.bound device other held
          have apart : other ≠ xpdev := by
            rintro rfl
            rw [found] at known
            cases known
            exact different (device_owner.symm.trans owner)
          refine ⟨?_, old, (setBoard_other apart).trans known, device_owner⟩
          rw [Machine.setBoard, list]
          exact List.mem_filter.mpr ⟨listed, decide_eq_true apart⟩
    · intro other some_board known
      by_cases here : other = xpdev
      · rw [here, setBoard_same] at known
        cases known
      · rw [setBoard_other here] at known
        obtain ⟨listed, kept⟩ := accounted.whole other some_board known
        rw [Machine.setBoard, list]
        exact ⟨List.mem_filter.mpr ⟨listed, decide_eq_true here⟩, kept⟩
    · have apart : xpdev ∉ state.plugged.registry.pcieDeviceList.filter (· ≠ xpdev) := by
        simp
      rw [Machine.holdings, Machine.setBoard, list]
      change Ledger.Accounts _ (List.flatMap (state.setBoard xpdev none).held _ ++ stuck)
      rw [holdings_setBoard apart]
      exact accounted.released found member freed

/-- From every state with its account right a removal completes, unless the record that it
has freed is no longer as it was. -/
theorem Accounted.removable_iff {intact : Bool} (accounted : Accounted answers stuck state) :
    removeMachine pdev intact state = none ↔ state.plugged.drvdata pdev ≠ none ∧ intact = false := by
  unfold removeMachine
  cases data : state.plugged.drvdata pdev with
  | none => simp
  | some xpdev =>
      cases intact with
      | false => simp
      | true =>
          obtain ⟨_, board, found, _⟩ := accounted.bound pdev xpdev data
          obtain ⟨_, _, attempt, ready⟩ := accounted.whole xpdev board found
          obtain ⟨calls, ran, _⟩ := @xdmaFreeResource_frees state.kernel board.xdev
            fun _ _ => Nat.le_trans ready.sgDescNum_le (by decide)
          simp [found, ran]

/-! ## The records alone -/

theorem probeMachine_plugged (stepped : probeMachine answers env pdev state = some next) :
    ∃ outcome, next.plugged = probe outcome env.readReg pdev state.plugged := by
  unfold probeMachine at stepped
  dsimp only at stepped
  split at stepped
  · split at stepped
    · cases stepped
      exact ⟨_, rfl⟩
    · rcases probeMapped_some stepped with ⟨_, rfl⟩ | ⟨_, _, _, _, rfl⟩
      · exact ⟨_, rfl⟩
      · exact ⟨_, rfl⟩
  · cases stepped
    exact ⟨_, rfl⟩

/-- What the call is to the model of the records alone. -/
def MachineCall.Plugs : MachineCall → PlugCall → Prop
  | .probe env pdev, .probe _ readReg device => readReg = env.readReg ∧ device = pdev
  | .remove pdev _, .remove device => device = pdev
  | .deviceWrite name on, .deviceWrite entry value => entry = name ∧ value = on
  | .timerIsr xpdev, .timerIsr fired => fired = xpdev
  | _, _ => False

/-- A call does to the records what the model of the records alone says, or nothing. -/
theorem machineStep_plugged {call : MachineCall}
    (stepped : machineStep answers state call = some next) :
    next.plugged = state.plugged ∨
      ∃ plugCall, call.Plugs plugCall ∧ plugStep state.plugged plugCall = some next.plugged := by
  cases call with
  | probe env pdev =>
      simp only [machineStep] at stepped
      split at stepped
      · cases stepped
      · next unbound =>
          obtain ⟨outcome, same⟩ := probeMachine_plugged stepped
          refine Or.inr ⟨.probe outcome env.readReg pdev, ⟨rfl, rfl⟩, ?_⟩
          rw [same]
          exact if_neg unbound
  | remove pdev intact =>
      rcases removeMachine_some stepped with ⟨_, rfl⟩ | ⟨_, _, _, _, _, _, rfl⟩
      · exact Or.inl rfl
      · exact Or.inr ⟨.remove pdev, rfl, rfl⟩
  | request xpdev request =>
      rcases requestMachine_some stepped with rfl | ⟨_, _, _, _, _, rfl⟩
      · exact Or.inl rfl
      · exact Or.inl rfl
  | deviceWrite name on =>
      obtain ⟨after, wrote, same⟩ := deviceWriteMachine_wrote stepped
      rcases same with rfl | ⟨_, _, rfl⟩
      · exact Or.inr ⟨.deviceWrite name on, ⟨rfl, rfl⟩, wrote⟩
      · exact Or.inr ⟨.deviceWrite name on, ⟨rfl, rfl⟩, wrote⟩
  | timerIsr xpdev =>
      obtain ⟨after, fired, rfl⟩ := Option.map_eq_some_iff.mp stepped
      exact Or.inr ⟨.timerIsr xpdev, rfl, fired⟩

/-- Every run of the driver is one of its records, so what holds of those holds of it. -/
theorem machine_run_plugged {calls : List MachineCall} {final : Machine}
    (ran : runFrom (machineStep answers) state calls = some final) :
    ∃ plugCalls, runFrom plugStep state.plugged plugCalls = some final.plugged := by
  refine runFrom_preserves
    (fun reached : Machine => ∃ plugCalls, runFrom plugStep state.plugged plugCalls = some reached.plugged)
    ?_ ⟨[], rfl⟩ ran
  rintro middle call next ⟨plugCalls, before⟩ stepped
  rcases machineStep_plugged stepped with same | ⟨plugCall, _, taken⟩
  · exact ⟨plugCalls, same ▸ before⟩
  · refine ⟨plugCalls ++ [plugCall], ?_⟩
    rw [runFrom_append, before]
    exact congrArg (Option.bind · _) taken

/-! ## Runs -/

theorem Accounted.step {call : MachineCall} (accounted : Accounted answers stuck state)
    (stepped : machineStep answers state call = some next) :
    Accounted answers (stuck ++ call.leaves) next := by
  cases call with
  | probe env pdev =>
      simp only [machineStep] at stepped
      split at stepped
      · cases stepped
      · exact accounted.probe stepped
  | remove pdev intact =>
      rw [MachineCall.leaves, List.append_nil]
      exact accounted.remove stepped
  | request xpdev request =>
      rcases requestMachine_some stepped with rfl | ⟨_, _, _, _, _, rfl⟩
      · exact accounted.idle ⟨rfl, Nat.le_refl _, rfl⟩ rfl rfl
      · exact accounted.idle ⟨rfl, Nat.le_refl _, rfl⟩ rfl rfl
  | deviceWrite name on =>
      obtain ⟨after, wrote, same⟩ := deviceWriteMachine_wrote stepped
      rcases same with rfl | ⟨_, _, rfl⟩
      · exact accounted.idle (deviceWrite_same wrote) rfl rfl
      · exact accounted.idle (deviceWrite_same wrote) rfl rfl
  | timerIsr xpdev =>
      obtain ⟨after, fired, rfl⟩ := Option.map_eq_some_iff.mp stepped
      exact accounted.idle (timerIsr_same fired) rfl rfl

theorem Accounted.run {calls : List MachineCall} {final : Machine}
    (accounted : Accounted answers stuck state)
    (ran : runFrom (machineStep answers) state calls = some final) :
    Accounted answers (stuck ++ calls.flatMap MachineCall.leaves) final := by
  induction calls generalizing state stuck with
  | nil =>
      cases ran
      rw [List.flatMap_nil, List.append_nil]
      exact accounted
  | cons call rest ih =>
      obtain ⟨next, stepped, ran⟩ := Option.bind_eq_some_iff.mp ran
      rw [List.flatMap_cons, ← List.append_assoc]
      exact ih (accounted.step stepped) ran

theorem accounted_start {procs : ProcOutcome} {major : Fin boardTepeNum → BitVec 32} :
    Accounted answers [] (Machine.start procs major kernel) := by
  have records := @start_same procs major
  have empty : (Machine.start procs major kernel).plugged.registry.pcieDeviceList = [] := records.list
  constructor
  · rw [empty]
    exact List.nodup_nil
  · rw [empty]
    exact fun _ => nofun
  · exact fun _ _ => nofun
  · exact fun _ _ => nofun
  · rw [Machine.holdings, empty]
    exact Ledger.accounts_empty

/-- After every run, everything the driver has taken has been given back, or is held for
a board on the list, or is the enabling of a device that was busy when it was probed. -/
theorem taken_given_back_or_held {procs : ProcOutcome} {major : Fin boardTepeNum → BitVec 32}
    {calls : List MachineCall} {final : Machine}
    (ran : runFrom (machineStep answers) (Machine.start procs major kernel) calls = some final) :
    final.ledger.Accounts (final.holdings ++ calls.flatMap MachineCall.leaves) :=
  (accounted_start.run ran).accounts

/-! ## A board that is busy at first -/

/-- The device with its first two BARs, of 1 MiB each, and nothing in use. -/
def freeBus : DeviceMapEnv where
  xdevAlloc := true
  enableDevice := 0
  requestRegions := 0
  bars := ⟨fun idx => if idx.val < 2 then 0x100000 else 0, fun idx => some idx.val⟩
  dmaMask64 := 0
  dmaMask32 := 0

def es5341Env : ProbeEnv := ⟨es5341Turn.outcome, freeBus, es5341Turn.readReg⟩

def busyEnv : ProbeEnv := { es5341Env with map := { freeBus with requestRegions := -16 } }

def busyThenRemoved : List MachineCall :=
  [.probe busyEnv es5341Turn.pdev, .probe es5341Env es5341Turn.pdev,
    .request 1 (.ioctl (rtpcIoctlXdma .stop) { XdmaInfo.cleared with channel := 1 } .complete),
    .remove es5341Turn.pdev true]

/-- The table of H2C channel 1 cannot be allocated. -/
def fourthMissing (attempt : Nat) : Option (BitVec 64) := if attempt = 3 then none else some 0x10000

theorem taken_given_back_or_held_busy :
    ∃ final, runFrom (machineStep fourthMissing) (Machine.start ⟨true, true, true⟩ givenMajors .booted)
        busyThenRemoved = some final ∧
      final.ledger.Accounts (final.holdings ++ busyThenRemoved.flatMap MachineCall.leaves) := by
  have ran : (runFrom (machineStep fourthMissing)
      (Machine.start ⟨true, true, true⟩ givenMajors .booted) busyThenRemoved).isSome = true := by
    decide +kernel
  obtain ⟨final, ran⟩ := Option.isSome_iff_exists.mp ran
  exact ⟨final, ran, taken_given_back_or_held ran⟩

end Vi53xx.Driver
