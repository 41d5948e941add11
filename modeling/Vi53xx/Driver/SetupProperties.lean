import Vi53xx.Driver.ChainProperties
import Vi53xx.Driver.KernelProperties

/-! What the setup of a channel leaves behind: a cleared buffer, a descriptor table and
registers that point to it, all of which the setups after it leave alone. -/

set_option autoImplicit false

namespace Vi53xx.Driver

open Foundation Foundation.Program

/-! ## What is left alone -/

/-- No register is written but the given ones, and no memory. -/
structure WritesRegs (written : BitVec 32 → Prop) (before after : Kernel) : Prop where
  regs : ∀ block place, ¬ written place → after.regs block place = before.regs block place
  buffers : after.buffers = before.buffers
  allocated : after.allocated = before.allocated

/-- No register is written but the given ones, and no buffer that was there before. -/
structure Spares (written : BitVec 32 → Prop) (before after : Kernel) : Prop where
  regs : ∀ block place, ¬ written place → after.regs block place = before.regs block place
  buffers : ∀ block, block < before.allocated → after.buffers block = before.buffers block
  allocated : before.allocated ≤ after.allocated

variable {written wider : BitVec 32 → Prop} {first second third : Kernel}

theorem WritesRegs.refl (state : Kernel) : WritesRegs written state state :=
  ⟨fun _ _ _ => rfl, rfl, rfl⟩

theorem WritesRegs.trans (before : WritesRegs written first second)
    (after : WritesRegs written second third) : WritesRegs written first third where
  regs := by
    intro block place other
    rw [after.regs block place other, before.regs block place other]
  buffers := after.buffers.trans before.buffers
  allocated := after.allocated.trans before.allocated

theorem WritesRegs.bind {Value Other : Type} {program : KernelM Value} {next : Value → KernelM Other}
    (head : Respects (WritesRegs written) program)
    (tail : ∀ value, Respects (WritesRegs written) (next value)) :
    Respects (WritesRegs written) (program >>= next) :=
  Respects.bind WritesRegs.trans head tail

theorem WritesRegs.spares (writes : WritesRegs written first second) :
    Spares written first second where
  regs := writes.regs
  buffers := fun block _ => congrFun writes.buffers block
  allocated := Nat.le_of_eq writes.allocated.symm

theorem Spares.trans (before : Spares written first second) (after : Spares written second third) :
    Spares written first third where
  regs := by
    intro block place other
    rw [after.regs block place other, before.regs block place other]
  buffers := by
    intro block old
    rw [after.buffers block (Nat.lt_of_lt_of_le old before.allocated), before.buffers block old]
  allocated := Nat.le_trans before.allocated after.allocated

theorem Spares.mono (spares : Spares written first second)
    (included : ∀ place, written place → wider place) : Spares wider first second where
  regs := fun block place other => spares.regs block place fun here => other (included place here)
  buffers := spares.buffers
  allocated := spares.allocated

/-! ## Register programs -/

variable {xdev : XdmaDev} {index : Int} {block : Option Nat} {offset value : BitVec 32}
  {channel direction : BitVec 8} {cfg : XdmaCfgInfo}

theorem writes_logAccess {access : Access} : Respects (WritesRegs written) (logAccess access) :=
  fun _ => ⟨fun _ _ _ => rfl, rfl, rfl⟩

theorem writes_regBase : Respects (WritesRegs written) (regBase xdev index) :=
  respects_regBase WritesRegs.refl WritesRegs.trans writes_logAccess

theorem writes_readReg : Respects (WritesRegs written) (readReg block offset) :=
  respects_readReg WritesRegs.refl

theorem writes_writeReg (own : written offset) :
    Respects (WritesRegs written) (writeReg block offset value) := by
  intro state
  cases block with
  | none => exact WritesRegs.refl state
  | some block =>
      refine ⟨?_, rfl, rfl⟩
      intro other place elsewhere
      refine if_neg ?_
      intro here
      exact elsewhere (here.2 ▸ own)

theorem writes_xdmaStop (own : written (channelReg (controlReg direction) (channel - 1))) :
    Respects (WritesRegs written) (xdmaStop xdev channel direction) :=
  WritesRegs.bind writes_regBase fun _ => writes_writeReg own

theorem writes_xdmaPollInit
    (own : written (controlReg direction + BitVec.ofInt 32 ((index - 1) * 0x100))) :
    Respects (WritesRegs written) (xdmaPollInit xdev index direction) :=
  WritesRegs.bind writes_regBase fun _ => WritesRegs.bind writes_readReg fun _ => writes_writeReg own

/-- A channel without a chain of several descriptors has three registers for them. -/
theorem writes_xdmaCofgDesc (single : ¬ 1 < cfg.sgDescNum)
    (low : written (channelReg (descLowReg cfg.direction) (channel - 1)))
    (high : written (channelReg (descHighReg cfg.direction) (channel - 1)))
    (adjacent : written (channelReg (descAdjaReg cfg.direction) (channel - 1))) :
    Respects (WritesRegs written) (xdmaCofgDesc xdev channel cfg) := by
  refine WritesRegs.bind writes_regBase ?_
  intro base
  simp only [single, if_false]
  exact WritesRegs.bind (writes_writeReg low) fun _ => WritesRegs.bind (writes_writeReg high)
    fun _ => WritesRegs.bind (writes_writeReg adjacent) fun _ => respects_pure WritesRegs.refl

/-! ## Memory -/

variable {answer : Nat → Option (BitVec 64)} {state final : Kernel} {filled : XdmaCfgInfo} {base : Nat}

def Kernel.Cleared (state : Kernel) (block : Nat) (size : BitVec 64) : Prop :=
  ∀ place : Int, 0 ≤ place → place < size.toNat → state.buffers block place = 0

theorem Spares.cleared {size : BitVec 64} {old : Nat} (spares : Spares written first second)
    (there : old < first.allocated) (cleared : first.Cleared old size) : second.Cleared old size := by
  intro place low high
  rw [spares.buffers old there]
  exact cleared place low high

/-- The buffer of a channel is cleared, and its table is left for later. -/
theorem xdmaPhysicalAddressInit_memory (single : cfg.sgDescNum = descNum)
    (ran : xdmaPhysicalAddressInit answer cfg state = (.ok filled, final)) :
    filled.pFirstDesc = cfg.pFirstDesc ∧ filled.firstDescPhyAddr = cfg.firstDescPhyAddr ∧
      Spares written state final ∧
      ((answer state.allocated).isSome → final.Cleared state.allocated cfg.size) := by
  have turns : cfg.sgDescNum.toNat = 1 := by
    rw [single]
    rfl
  unfold xdmaPhysicalAddressInit at ran
  rw [turns] at ran
  cases succeeded : answer state.allocated with
  | none =>
      simp only [physicalAddressLoop, bind_ok (dmaAllocCoherent_run state), succeeded] at ran
      cases ran
      refine ⟨rfl, rfl, ⟨fun _ _ _ => rfl, fun _ _ => rfl, Nat.le_succ _⟩, ?_⟩
      intro present
      cases present
  | some phys =>
      simp only [physicalAddressLoop, bind_ok (dmaAllocCoherent_run state), succeeded] at ran
      cases ran
      refine ⟨rfl, rfl, ⟨fun _ _ _ => rfl, ?_, Nat.le_succ _⟩, ?_⟩
      · intro block old
        funext place
        refine if_neg ?_
        intro here
        exact absurd here.1 (Nat.ne_of_lt old)
      · intro _ place low high
        exact if_pos ⟨rfl, low, high⟩

/-- The table of a channel and its physical address, which is 0 if there is no memory for it. -/
structure Tabled (answer : Nat → Option (BitVec 64)) (attempt : Nat) (cfg : XdmaCfgInfo) : Prop where
  pFirstDesc : cfg.pFirstDesc = (answer attempt).map fun _ => attempt
  phys : cfg.firstDescPhyAddr = (answer attempt).getD 0

theorem xdmaDescAlloc_tabled (single : cfg.sgDescNum = descNum) (untabled : cfg.pFirstDesc = none)
    (unaddressed : cfg.firstDescPhyAddr = 0)
    (ran : xdmaDescAlloc answer cfg state = (.ok filled, final)) :
    Tabled answer state.allocated filled ∧ Spares written state final := by
  cases succeeded : answer state.allocated with
  | none =>
      unfold xdmaDescAlloc at ran
      rw [bind_ok (dmaAllocCoherent_run state), succeeded] at ran
      cases ran
      refine ⟨⟨?_, ?_⟩, ⟨fun _ _ _ => rfl, fun _ _ => rfl, Nat.le_succ _⟩⟩
      · rw [succeeded, untabled]
        rfl
      · rw [succeeded, unaddressed]
        rfl
  | some phys =>
      have one : cfg.sgDescNum.toNat = 1 := by
        rw [single]
        rfl
      obtain ⟨descs, chained, _⟩ := @xdmaDescAlloc_chain cfg phys state answer (Nat.le_of_eq one.symm)
        (one ▸ by decide) succeeded
      cases ran.symm.trans chained
      refine ⟨⟨?_, ?_⟩, ⟨fun _ _ _ => rfl, fun _ _ => rfl, Nat.le_succ _⟩⟩
      · rw [succeeded]
        rfl
      · rw [succeeded]
        rfl

/-! ## One channel -/

def dirByte (dir : Fin 2) : BitVec 8 := BitVec.ofNat 8 dir.val

def descLow (dir : Fin 2) (index : Fin xdmaChannelNum) : BitVec 32 :=
  channelReg (descLowReg (dirByte dir)) (BitVec.ofNat 8 index.val)

def descHigh (dir : Fin 2) (index : Fin xdmaChannelNum) : BitVec 32 :=
  channelReg (descHighReg (dirByte dir)) (BitVec.ofNat 8 index.val)

def descAdja (dir : Fin 2) (index : Fin xdmaChannelNum) : BitVec 32 :=
  channelReg (descAdjaReg (dirByte dir)) (BitVec.ofNat 8 index.val)

/-- The registers that the setup of a channel writes. -/
def setupRegs (dir : Fin 2) (index : Fin xdmaChannelNum) : List (BitVec 32) :=
  [channelReg (controlReg (dirByte dir)) (BitVec.ofNat 8 index.val), descLow dir index,
    descHigh dir index, descAdja dir index]

/-- What the setup of a channel leaves, with its config. -/
structure Prepared (answer : Nat → Option (BitVec 64)) (base : Nat) (dir : Fin 2)
    (index : Fin xdmaChannelNum) (before : Kernel) (cfg : XdmaCfgInfo) (after : Kernel) : Prop where
  setUp : SetUp answer before.allocated dir index cfg
  tabled : Tabled answer (before.allocated + 1) cfg
  low : after.regs base (descLow dir index) = PCI_DMA_L cfg.firstDescPhyAddr
  high : after.regs base (descHigh dir index) = PCI_DMA_H cfg.firstDescPhyAddr
  cleared : (answer before.allocated).isSome → after.Cleared before.allocated cfg.size
  spares : Spares (· ∈ setupRegs dir index) before after
  allocated : after.allocated = before.allocated + 2

theorem pollReg_own (dir : Fin 2) (index : Fin xdmaChannelNum) :
    controlReg (dirByte dir) + BitVec.ofInt 32 (((index.val : Int) + 1 - 1) * 0x100) =
      channelReg (controlReg (dirByte dir)) (BitVec.ofNat 8 index.val) := by
  revert dir index
  decide

theorem channelByte_index (index : Fin xdmaChannelNum) :
    BitVec.ofInt 8 ((index.val : Int) + 1) - 1 = BitVec.ofNat 8 index.val := by
  revert index
  decide

theorem setupRegs_mem (dir : Fin 2) (index : Fin xdmaChannelNum) :
    channelReg (controlReg (dirByte dir)) (BitVec.ofNat 8 index.val) ∈ setupRegs dir index ∧
      descLow dir index ∈ setupRegs dir index ∧ descHigh dir index ∈ setupRegs dir index ∧
      descAdja dir index ∈ setupRegs dir index := by
  simp only [setupRegs, List.mem_cons, true_or, or_true, and_self]

/-- Stopping a channel writes its control register, in which it is then polled. -/
theorem control_writes {reply : Unit} {outcome : Except Fault Unit} (dir : Fin 2)
    (index : Fin xdmaChannelNum)
    (polled : xdmaPollInit xdev ((index.val : Int) + 1) (dirByte dir) first = (.ok reply, second))
    (stopped : xdmaStop xdev (BitVec.ofInt 8 ((index.val : Int) + 1)) (dirByte dir) second =
      (outcome, third)) : WritesRegs (· ∈ setupRegs dir index) first third := by
  have own := (setupRegs_mem dir index).1
  have poll : controlReg (dirByte dir) + BitVec.ofInt 32 (((index.val : Int) + 1 - 1) * 0x100) ∈
      setupRegs dir index := by
    rw [pollReg_own]
    exact own
  have stop : channelReg (controlReg (dirByte dir)) (BitVec.ofInt 8 ((index.val : Int) + 1) - 1) ∈
      setupRegs dir index := by
    rw [channelByte_index]
    exact own
  exact ((writes_xdmaPollInit poll).run polled).trans ((writes_xdmaStop stop).run stopped)

/-- The card is told of the table, in the registers of its channel. -/
theorem SetUp.told {attempt : Nat} {dir : Fin 2} {index : Fin xdmaChannelNum}
    (setUp : SetUp answer attempt dir index cfg) (mapped : xdev.bar 1 = some base)
    (ran : xdmaCofgDesc xdev (BitVec.ofInt 8 ((index.val : Int) + 1)) cfg state = (.ok (), final)) :
    final.regs base (descLow dir index) = PCI_DMA_L cfg.firstDescPhyAddr ∧
      final.regs base (descHigh dir index) = PCI_DMA_H cfg.firstDescPhyAddr ∧
      WritesRegs (· ∈ setupRegs dir index) state final := by
  obtain ⟨_, again, _, low, high, _⟩ := @xdmaCofgDesc_configured cfg xdev base
    (BitVec.ofInt 8 ((index.val : Int) + 1)) state mapped
  cases ran.symm.trans again
  have single : ¬ 1 < cfg.sgDescNum := by
    rw [setUp.sgDescNum]
    decide
  have writes := @writes_xdmaCofgDesc (· ∈ setupRegs dir index) xdev
    (BitVec.ofInt 8 ((index.val : Int) + 1)) cfg single
  rw [setUp.direction, channelByte_index] at low high writes
  obtain ⟨_, ownLow, ownHigh, ownAdja⟩ := setupRegs_mem dir index
  exact ⟨low, high, (writes ownLow ownHigh ownAdja).run ran⟩

theorem setupChannel_prepared (dir : Fin 2) (index : Fin xdmaChannelNum) (state : Kernel)
    (mapped : xdev.bar 1 = some base) :
    ∃ ready final, setupChannel answer xdev (unset dir index) state = (.ok ready, final) ∧
      Prepared answer base dir index state ready final := by
  obtain ⟨ready, final, ran, setUp, advanced⟩ := @setupChannel_run answer xdev base dir index state
    mapped
  refine ⟨ready, final, ran, ?_⟩
  unfold setupChannel xdmaCreateTransfer at ran
  obtain ⟨filled, first, ranInit, ran⟩ := bind_eq_ok ran
  obtain ⟨_, second, ranPoll, ran⟩ := bind_eq_ok ran
  obtain ⟨_, third, ranStop, ran⟩ := bind_eq_ok ran
  obtain ⟨described, fourth, ranDesc, ran⟩ := bind_eq_ok ran
  obtain ⟨_, fifth, ranCofg, ran⟩ := bind_eq_ok ran
  cases ran
  obtain ⟨_, _, again, filledSetUp, counted⟩ := @vi53xxInfoInit_run answer dir index state
  cases ranInit.symm.trans again
  rw [vi53xxInfoInit_unset] at ranInit
  rw [filledSetUp.channel, filledSetUp.direction] at ranPoll ranStop
  rw [filledSetUp.channel] at ranCofg
  obtain ⟨untabled, unaddressed, sparesInit, cleared⟩ :=
    @xdmaPhysicalAddressInit_memory (· ∈ setupRegs dir index) _ answer state first filled rfl ranInit
  have controlled := control_writes dir index ranPoll ranStop
  obtain ⟨tabled, sparesDesc⟩ := @xdmaDescAlloc_tabled (· ∈ setupRegs dir index) filled answer
    third fourth ready filledSetUp.sgDescNum untabled unaddressed ranDesc
  rw [controlled.allocated, counted.allocated] at tabled
  obtain ⟨low, high, pointed⟩ := setUp.told mapped ranCofg
  have later := controlled.spares.trans (sparesDesc.trans pointed.spares)
  refine ⟨setUp, tabled, low, high, ?_, sparesInit.trans later, advanced.allocated⟩
  intro allocated
  rw [setUp.size]
  refine later.cleared ?_ (cleared allocated)
  rw [counted.allocated]
  exact Nat.lt_succ_self _

end Vi53xx.Driver
