import Vi53xx.Driver.CrashProperties
import Vi53xx.Driver.FreedOnceProperties

/-! Boards that stand by. Whatever the driver is asked about other boards, to probe one, to
remove one or to serve a request, these keep their devices, registers and buffers. -/

set_option autoImplicit false

namespace Vi53xx.Driver

open Foundation Foundation.Program

/-! ## Setting up a device -/

/-- Nothing has changed but the registers behind the BARs and memory from the block on. -/
structure Enclosed (bar : Fin xdmaBarNum → Option Nat) (bound : Nat) (before after : Kernel) : Prop where
  regs : ∀ base, (∀ index, bar index ≠ some base) → after.regs base = before.regs base
  buffers : ∀ block, block < bound → after.buffers block = before.buffers block
  allocated : before.allocated ≤ after.allocated

/-- As long as the blocks before the bound are there. -/
def EnclosedFrom (bar : Fin xdmaBarNum → Option Nat) (bound : Nat) (before after : Kernel) : Prop :=
  bound ≤ before.allocated → Enclosed bar bound before after

variable {bar : Fin xdmaBarNum → Option Nat} {bound : Nat} {first second third : Kernel}
  {xdev : XdmaDev} {answers : Nat → Option (BitVec 64)} {cfg : XdmaCfgInfo} {index : Int}
  {offset value : BitVec 32} {channel direction : BitVec 8}

theorem EnclosedFrom.refl (state : Kernel) : EnclosedFrom bar bound state state :=
  fun _ => ⟨fun _ _ => rfl, fun _ _ => rfl, Nat.le_refl _⟩

theorem EnclosedFrom.trans (before : EnclosedFrom bar bound first second)
    (after : EnclosedFrom bar bound second third) : EnclosedFrom bar bound first third := by
  intro there
  have early := before there
  have late := after (Nat.le_trans there early.allocated)
  exact ⟨fun base foreign => (late.regs base foreign).trans (early.regs base foreign),
    fun block old => (late.buffers block old).trans (early.buffers block old),
    Nat.le_trans early.allocated late.allocated⟩

theorem EnclosedFrom.bind {Value Other : Type} {program : KernelM Value} {next : Value → KernelM Other}
    (head : Respects (EnclosedFrom bar bound) program)
    (tail : ∀ value, Respects (EnclosedFrom bar bound) (next value)) :
    Respects (EnclosedFrom bar bound) (program >>= next) :=
  Respects.bind EnclosedFrom.trans head tail

/-- A change that comes to neither registers nor buffers. -/
theorem enclosed_change {update : Kernel → Kernel} (regs : ∀ state, (update state).regs = state.regs)
    (buffers : ∀ state, (update state).buffers = state.buffers)
    (allocated : ∀ state, (update state).allocated = state.allocated) :
    Respects (EnclosedFrom bar bound) (Program.change update : KernelM Unit) := by
  intro state _
  refine ⟨fun base _ => congrFun (regs state) base, fun block _ => congrFun (buffers state) block, ?_⟩
  exact Nat.le_of_eq (allocated state).symm

theorem enclosed_logAccess {access : Access} : Respects (EnclosedFrom bar bound) (logAccess access) :=
  enclosed_change (fun _ => rfl) (fun _ => rfl) fun _ => rfl

theorem enclosed_readReg {base : Option Nat} :
    Respects (EnclosedFrom bar bound) (readReg base offset) :=
  respects_readReg EnclosedFrom.refl

theorem enclosed_regBase {Value : Type} {next : Option Nat → KernelM Value}
    (tail : ∀ base, xdev.BarBase base → Respects (EnclosedFrom xdev.bar bound) (next base)) :
    Respects (EnclosedFrom xdev.bar bound) (regBase xdev index >>= next) :=
  Respects.bind_result EnclosedFrom.trans
    (respects_regBase EnclosedFrom.refl EnclosedFrom.trans enclosed_logAccess)
    (fun _ _ _ ran => regBase_barBase ran) tail

theorem enclosed_writeReg {base : Option Nat} (own : xdev.BarBase base) :
    Respects (EnclosedFrom xdev.bar bound) (writeReg base offset value) := by
  cases base with
  | none => exact respects_fault EnclosedFrom.refl
  | some one =>
      intro state _
      refine ⟨?_, fun _ _ => rfl, Nat.le_refl _⟩
      intro other foreign
      obtain ⟨index, held⟩ := own one rfl
      funext place
      refine if_neg ?_
      rintro ⟨rfl, _⟩
      exact foreign index held

/-- The block that an allocation gives is none of those that were there. -/
theorem enclosed_dmaAllocCoherent {Value : Type} {next : Option (Nat × BitVec 64) → KernelM Value}
    (tail : ∀ found, (∀ block phys, found = some (block, phys) → bound ≤ block) →
      Respects (EnclosedFrom bar bound) (next found)) :
    Respects (EnclosedFrom bar bound) (dmaAllocCoherent answers >>= next) := by
  intro state there
  rw [bind_ok (dmaAllocCoherent_run state)]
  have fresh : ∀ block phys, (answers state.allocated).map (fun phys => (state.allocated, phys)) =
      some (block, phys) → bound ≤ block := by
    intro block phys given
    obtain ⟨_, _, same⟩ := Option.map_eq_some_iff.mp given
    cases same
    exact there
  have grown : EnclosedFrom bar bound state { state with allocated := state.allocated + 1 } :=
    fun _ => ⟨fun _ _ => rfl, fun _ _ => rfl, Nat.le_succ _⟩
  exact grown.trans (tail _ fresh _) there

theorem enclosed_physicalAddressLoop {remaining : Nat} : ∀ {i : Nat} {cfg : XdmaCfgInfo},
    Respects (EnclosedFrom bar bound) (physicalAddressLoop answers remaining i cfg) := by
  induction remaining with
  | zero => exact fun {_ _} => respects_pure EnclosedFrom.refl
  | succ remaining ih =>
      intro i cfg
      refine enclosed_dmaAllocCoherent ?_
      rintro (_ | ⟨block, phys⟩) fresh
      · exact respects_pure EnclosedFrom.refl
      · refine EnclosedFrom.bind ?_ fun _ => ih
        intro state _
        refine ⟨fun _ _ => rfl, ?_, Nat.le_refl _⟩
        intro other old
        funext place
        refine if_neg ?_
        rintro ⟨rfl, _⟩
        exact Nat.not_lt.mpr (fresh other phys rfl) old

theorem enclosed_fillDesc {block i : Nat} {control epAddr : BitVec 32} :
    Respects (EnclosedFrom bar bound) (fillDesc cfg block i control epAddr) := by
  have element : ∀ {Entry : Type} {table : Fin maxDescNum → Entry},
      Respects (EnclosedFrom bar bound) (elementAt table i) := by
    intro Entry table
    unfold elementAt
    split
    · exact respects_pure EnclosedFrom.refl
    · exact respects_fault EnclosedFrom.refl
  refine EnclosedFrom.bind element fun _ => EnclosedFrom.bind element fun _ => ?_
  exact enclosed_change (fun _ => rfl) (fun _ => rfl) fun _ => rfl

theorem enclosed_descLoop {block remaining : Nat} {firstDescPhy : BitVec 64} :
    ∀ {i : Nat} {adj : BitVec 8} {extraAdj : BitVec 32}, Respects (EnclosedFrom bar bound)
      (descLoop cfg block firstDescPhy remaining i adj extraAdj) := by
  induction remaining with
  | zero => exact fun {_ _ _} => respects_pure EnclosedFrom.refl
  | succ remaining ih =>
      intro i adj extraAdj
      refine EnclosedFrom.bind enclosed_fillDesc fun _ => EnclosedFrom.bind ?_ fun _ => ih
      exact enclosed_change (fun _ => rfl) (fun _ => rfl) fun _ => rfl

theorem enclosed_xdmaDescAlloc : Respects (EnclosedFrom bar bound) (xdmaDescAlloc answers cfg) := by
  refine enclosed_dmaAllocCoherent ?_
  rintro (_ | ⟨block, phys⟩) _
  · exact respects_pure EnclosedFrom.refl
  · exact EnclosedFrom.bind enclosed_descLoop fun _ =>
      EnclosedFrom.bind enclosed_fillDesc fun _ => respects_pure EnclosedFrom.refl

theorem enclosed_xdmaCofgDesc :
    Respects (EnclosedFrom xdev.bar bound) (xdmaCofgDesc xdev channel cfg) := by
  refine enclosed_regBase ?_
  intro base own
  have wrote : ∀ {offset value : BitVec 32}, Respects (EnclosedFrom xdev.bar bound)
      (writeReg base offset value) := enclosed_writeReg own
  have last : Respects (EnclosedFrom xdev.bar bound) (pure () : KernelM Unit) :=
    respects_pure EnclosedFrom.refl
  dsimp only
  split
  · refine EnclosedFrom.bind enclosed_readReg fun _ => EnclosedFrom.bind wrote fun _ => ?_
    exact EnclosedFrom.bind wrote fun _ => EnclosedFrom.bind wrote fun _ =>
      EnclosedFrom.bind wrote fun _ => wrote
  · exact EnclosedFrom.bind wrote fun _ => EnclosedFrom.bind wrote fun _ =>
      EnclosedFrom.bind wrote fun _ => last

theorem enclosed_setupChannel :
    Respects (EnclosedFrom xdev.bar bound) (setupChannel answers xdev cfg) := by
  have filled : Respects (EnclosedFrom xdev.bar bound) (vi53xxInfoInit answers cfg) := by
    unfold vi53xxInfoInit
    split
    · exact enclosed_physicalAddressLoop
    · exact respects_fault EnclosedFrom.refl
  refine EnclosedFrom.bind filled fun cfg => ?_
  have polled : Respects (EnclosedFrom xdev.bar bound) (xdmaPollInit xdev cfg.channel cfg.direction) :=
    enclosed_regBase fun _ own => EnclosedFrom.bind enclosed_readReg fun _ => enclosed_writeReg own
  have stopped : Respects (EnclosedFrom xdev.bar bound)
      (xdmaStop xdev (BitVec.ofInt 8 cfg.channel) cfg.direction) :=
    enclosed_regBase fun _ own => enclosed_writeReg own
  refine EnclosedFrom.bind polled fun _ => EnclosedFrom.bind stopped fun _ => ?_
  exact EnclosedFrom.bind enclosed_xdmaDescAlloc fun _ =>
    EnclosedFrom.bind enclosed_xdmaCofgDesc fun _ => respects_pure EnclosedFrom.refl

theorem enclosed_channelInit (same : xdev.bar = bar) {place : Fin xdmaChannelNum} :
    Respects (EnclosedFrom bar bound) (channelInit answers xdev place) := by
  subst same
  refine EnclosedFrom.bind enclosed_setupChannel fun c2h => EnclosedFrom.bind ?_ fun h2c =>
    respects_pure EnclosedFrom.refl
  unfold setupH2cChannel
  split
  · exact @enclosed_setupChannel bound
      { xdev with c2hDmaCfg := fun other => if other = place then c2h else xdev.c2hDmaCfg other } _ _
  · exact respects_pure EnclosedFrom.refl

theorem channelInit_bar {place : Fin xdmaChannelNum} {next : XdmaDev}
    (ran : channelInit answers xdev place first = (.ok next, second)) : next.bar = xdev.bar := by
  obtain ⟨_, _, _, ran⟩ := bind_eq_ok ran
  obtain ⟨_, _, _, ran⟩ := bind_eq_ok ran
  cases ran
  rfl

/-- Setting up the channels of a board comes to its own registers and to new memory. -/
theorem xdmaChannelInit_enclosed {idx : Nat} :
    Respects (EnclosedFrom bar bound) (xdmaChannelInit answers (.allocated idx bar)) := by
  have given : (XdmaDev.allocated idx bar).bar = bar := rfl
  exact Respects.bind_result EnclosedFrom.trans (enclosed_channelInit given)
    (fun _ next _ ran => ((channelInit_bar ran).trans given : next.bar = bar))
    fun _ same => enclosed_channelInit same

/-! ## Boards that stand by -/

/-- Some boards, with the register blocks behind their BARs and the blocks of their buffers. -/
structure Bystanders where
  boards : Nat → Prop
  regs : Nat → Prop
  blocks : Nat → Prop

/-- The bystanders are there, and no other board has registers or buffers of theirs. -/
structure Apart (bystanders : Bystanders) (state : Machine) : Prop where
  boards : ∀ xpdev, bystanders.boards xpdev → xpdev < state.plugged.registry.allocated
  blocks : ∀ block, bystanders.blocks block → block < state.kernel.allocated
  bars : ∀ xpdev board, state.boards xpdev = some board → ¬ bystanders.boards xpdev →
    ∀ index base, board.xdev.bar index = some base → ¬ bystanders.regs base
  buffers : ∀ xpdev board, state.boards xpdev = some board → ¬ bystanders.boards xpdev →
    ∀ block, board.xdev.Has block → ¬ bystanders.blocks block

/-- The call is about another board, to which the kernel maps no BAR of theirs. -/
def MachineCall.Avoids (bystanders : Bystanders) (state : Machine) : MachineCall → Prop
  | .probe env _ => ∀ idx base, env.map.bars.iomap idx = some base → ¬ bystanders.regs base
  | .remove pdev _ => ∀ xpdev, state.plugged.drvdata pdev = some xpdev → ¬ bystanders.boards xpdev
  | .request xpdev _ | .timerIsr xpdev => ¬ bystanders.boards xpdev
  | .deviceWrite name _ => ∀ xpdev, state.plugged.registry.deviceNamed name = some xpdev →
      ¬ bystanders.boards xpdev

structure Spared (bystanders : Bystanders) (before after : Machine) : Prop where
  boards : ∀ xpdev, bystanders.boards xpdev → after.boards xpdev = before.boards xpdev
  regs : ∀ base, bystanders.regs base → after.kernel.regs base = before.kernel.regs base
  buffers : ∀ block, bystanders.blocks block → after.kernel.buffers block = before.kernel.buffers block

variable {bystanders : Bystanders} {state next : Machine} {env : ProbeEnv} {pdev : PciDev}
  {hold : BusHold} {ledger : Holdings} {xpdev : Nat}

/-- A call that leaves boards, registers and buffers as they are. -/
theorem Apart.idle (apart : Apart bystanders state) (boards : next.boards = state.boards)
    (records : state.plugged.registry.allocated ≤ next.plugged.registry.allocated)
    (regs : next.kernel.regs = state.kernel.regs) (buffers : next.kernel.buffers = state.kernel.buffers)
    (blocks : next.kernel.allocated = state.kernel.allocated) :
    Spared bystanders state next ∧ Apart bystanders next := by
  refine ⟨⟨fun xpdev _ => congrFun boards xpdev, fun base _ => congrFun regs base,
    fun block _ => congrFun buffers block⟩, ?_, ?_, ?_, ?_⟩
  · exact fun xpdev own => Nat.lt_of_lt_of_le (apart.boards xpdev own) records
  · rw [blocks]
    exact apart.blocks
  · rw [boards]
    exact apart.bars
  · rw [boards]
    exact apart.buffers

theorem present_iomap {env : BarEnv} {place : Fin xdmaBarNum} {base : Nat}
    (there : present env place = some base) : env.iomap place = some base := by
  unfold present at there
  split at there
  · cases there
  · exact there

/-- A board that has come with registers and memory of its own. -/
theorem Apart.added {board : Board} (apart : Apart bystanders state)
    (heap : next.boards = (state.setBoard state.plugged.registry.allocated (some board)).boards)
    (records : next.plugged.registry.allocated = state.plugged.registry.allocated + 1)
    (enclosed : Enclosed board.xdev.bar state.kernel.allocated state.kernel next.kernel)
    (bars : ∀ index base, board.xdev.bar index = some base → ¬ bystanders.regs base)
    (fresh : ∀ block, board.xdev.Has block → state.kernel.allocated ≤ block) :
    Spared bystanders state next ∧ Apart bystanders next := by
  have other : ∀ xpdev, bystanders.boards xpdev → xpdev ≠ state.plugged.registry.allocated :=
    fun xpdev own => Nat.ne_of_lt (apart.boards xpdev own)
  refine ⟨⟨?_, ?_, ?_⟩, ?_, ?_, ?_, ?_⟩
  · intro xpdev own
    rw [heap]
    exact setBoard_other (other xpdev own)
  · exact fun base own => enclosed.regs base fun index there => bars index base there own
  · exact fun block own => enclosed.buffers block (apart.blocks block own)
  · intro xpdev own
    rw [records]
    exact Nat.lt_succ_of_lt (apart.boards xpdev own)
  · exact fun block own => Nat.lt_of_lt_of_le (apart.blocks block own) enclosed.allocated
  · intro xpdev neighbour found foreign
    rw [heap] at found
    by_cases here : xpdev = state.plugged.registry.allocated
    · rw [here, setBoard_same] at found
      cases found
      exact bars
    · rw [setBoard_other here] at found
      exact apart.bars xpdev neighbour found foreign
  · intro xpdev neighbour found foreign block has own
    rw [heap] at found
    by_cases here : xpdev = state.plugged.registry.allocated
    · rw [here, setBoard_same] at found
      cases found
      exact Nat.not_lt.mpr (fresh block has) (apart.blocks block own)
    · rw [setBoard_other here] at found
      exact apart.buffers xpdev neighbour found foreign block has own

theorem Apart.probeMapped (apart : Apart bystanders state)
    (avoids : (MachineCall.probe env pdev).Avoids bystanders state)
    (bars : hold.bar = present env.map.bars)
    (stepped : probeMapped answers env pdev hold ledger state = some next) :
    Spared bystanders state next ∧ Apart bystanders next := by
  rcases probeMapped_some stepped with ⟨failed, rfl⟩ | ⟨succeeded, xdev, final, ran, rfl⟩
  · exact apart.idle rfl (probe_failed (Int.ne_of_lt failed)).allocated rfl rfl rfl
  · have ready := (xdmaChannelInit_ready ran).1
    have enclosed := xdmaChannelInit_enclosed.run ran (Nat.le_refl _)
    rw [← ready.bar] at enclosed
    refine apart.added rfl (probe_succeeded (xdmaProbe_not_neg succeeded)).allocated
      ⟨enclosed.regs, enclosed.buffers, enclosed.allocated⟩ ?_ ?_
    · intro index base there
      rw [ready.bar, bars] at there
      exact avoids index base (present_iomap there)
    · rintro block ⟨dir, index, buffer⟩
      obtain ⟨offset, _, rfl⟩ := ready.buffer_offset buffer
      exact Nat.le_add_right _ offset

theorem Apart.probed (apart : Apart bystanders state)
    (avoids : (MachineCall.probe env pdev).Avoids bystanders state)
    (stepped : probeMachine answers env pdev state = some next) :
    Spared bystanders state next ∧ Apart bystanders next := by
  unfold probeMachine at stepped
  dsimp only at stepped
  split at stepped
  · split at stepped
    · cases stepped
      exact apart.idle rfl (probe_failed (probe_unmapped rfl)).allocated rfl rfl rfl
    · next hold ledger mapped =>
        exact apart.probeMapped avoids (xdmaDeviceMap_some mapped).2 stepped
  · next refused =>
      cases stepped
      have failed : (xdmaProbe env.outcome env.readReg pdev state.plugged.registry).1 ≠ 0 := by
        simp [xdmaProbe, refused, ENOMEM]
      exact apart.idle rfl (probe_failed failed).allocated rfl rfl rfl

theorem Apart.removed {intact : Bool} (apart : Apart bystanders state)
    (avoids : (MachineCall.remove pdev intact).Avoids bystanders state)
    (stepped : removeMachine pdev intact state = some next) :
    Spared bystanders state next ∧ Apart bystanders next := by
  rcases removeMachine_some stepped with ⟨_, rfl⟩ | ⟨xpdev, board, calls, data, _, _, rfl⟩
  · exact apart.idle rfl (Nat.le_refl _) rfl rfl rfl
  · have foreign := avoids xpdev data
    have counted := (xdmaRemove_records data).2.1
    have kept : ∀ {other : Nat} {neighbour : Board},
        (state.setBoard xpdev none).boards other = some neighbour →
          state.boards other = some neighbour := by
      intro other neighbour found
      by_cases here : other = xpdev
      · rw [here, setBoard_same] at found
        cases found
      · rwa [setBoard_other here] at found
    refine ⟨⟨?_, fun _ _ => rfl, fun _ _ => rfl⟩, ?_, apart.blocks, ?_, ?_⟩
    · intro other own
      refine setBoard_other ?_
      rintro rfl
      exact foreign own
    · exact fun other own => counted ▸ apart.boards other own
    · exact fun other neighbour found => apart.bars other neighbour (kept found)
    · exact fun other neighbour found => apart.buffers other neighbour (kept found)

theorem Apart.requested {request : Request} (apart : Apart bystanders state)
    (foreign : ¬ bystanders.boards xpdev)
    (stepped : requestMachine xpdev request state = some next) :
    Spared bystanders state next ∧ Apart bystanders next := by
  rcases requestMachine_some stepped with rfl | ⟨board, _, _, found, ran, rfl⟩
  · exact apart.idle rfl (Nat.le_refl _) rfl rfl rfl
  · have isolated := (isolated_answer board.xdev request).run ran
    refine ⟨⟨fun _ _ => rfl, ?_, ?_⟩, apart.boards, ?_, apart.bars, apart.buffers⟩
    · intro base own
      exact isolated.regs base fun index there => apart.bars xpdev board found foreign index base there own
    · intro block own
      exact isolated.buffers block fun has => apart.buffers xpdev board found foreign block has own
    · rw [isolated.allocated]
      exact apart.blocks

/-- The LED register of another board is behind a BAR of its own. -/
theorem Apart.ledSet {value : BitVec 32} {after : Plugged} (apart : Apart bystanders state)
    (same : SameBoards state.plugged after) (foreign : ¬ bystanders.boards xpdev) :
    Spared bystanders state (({ state with plugged := after } : Machine).setLed xpdev value) ∧
      Apart bystanders (({ state with plugged := after } : Machine).setLed xpdev value) := by
  refine ⟨⟨fun _ _ => rfl, ?_, fun _ _ => rfl⟩, ?_, apart.blocks, apart.bars, apart.buffers⟩
  · intro base own
    funext place
    refine if_neg ?_
    rintro ⟨there, _⟩
    obtain ⟨board, found, bar⟩ := Option.bind_eq_some_iff.mp there
    exact apart.bars xpdev board found foreign 0 base bar own
  · exact fun other own => Nat.lt_of_lt_of_le (apart.boards other own) same.allocated

/-- A call that is about another board spares those that stand by. -/
theorem Apart.step {call : MachineCall} (apart : Apart bystanders state)
    (avoids : call.Avoids bystanders state) (stepped : machineStep answers state call = some next) :
    Spared bystanders state next ∧ Apart bystanders next := by
  cases call with
  | probe env pdev =>
      simp only [machineStep] at stepped
      split at stepped
      · cases stepped
      · exact apart.probed avoids stepped
  | remove pdev intact => exact apart.removed avoids stepped
  | request xpdev request => exact apart.requested avoids stepped
  | deviceWrite name on =>
      obtain ⟨after, wrote, same⟩ := deviceWriteMachine_wrote stepped
      rcases same with rfl | ⟨xpdev, named, rfl⟩
      · exact apart.idle rfl (deviceWrite_same wrote).allocated rfl rfl rfl
      · exact apart.ledSet (deviceWrite_same wrote) (avoids xpdev named)
  | timerIsr xpdev =>
      obtain ⟨after, fired, rfl⟩ := Option.map_eq_some_iff.mp stepped
      exact apart.ledSet (timerIsr_same fired) avoids

end Vi53xx.Driver
