import Vi53xx.Driver.ChannelInitProperties
import Vi53xx.Foundation.Chain

/-! The descriptor chain of a channel as the card reads it: which descriptors it
visits, what each transfers and how many adjacent ones it may fetch ahead. -/

set_option autoImplicit false

namespace Vi53xx.Driver

open Foundation Foundation.Program

/-! ## Addresses in halves -/

theorem PCI_DMA_L_toNat (addr : BitVec 64) : (PCI_DMA_L addr).toNat = addr.toNat % 2 ^ 32 := by
  have masked : addr.toNat &&& 0xffffffff = addr.toNat % 2 ^ 32 :=
    Nat.and_two_pow_sub_one_eq_mod addr.toNat 32
  simp only [PCI_DMA_L, BitVec.toNat_setWidth, BitVec.toNat_and, BitVec.toNat_ofNat,
    Nat.reducePow, Nat.reduceMod, masked]
  omega

theorem PCI_DMA_H_toNat (addr : BitVec 64) : (PCI_DMA_H addr).toNat = addr.toNat / 2 ^ 32 := by
  have bounded := addr.isLt
  simp only [PCI_DMA_H, BitVec.toNat_setWidth, BitVec.toNat_ushiftRight, Nat.shiftRight_eq_div_pow]
  omega

theorem join_halves (addr : BitVec 64) : PCI_DMA_H addr ++ PCI_DMA_L addr = addr := by
  apply BitVec.eq_of_toNat_eq
  have low : (PCI_DMA_L addr).toNat < 2 ^ 32 := (PCI_DMA_L addr).isLt
  rw [BitVec.toNat_append, ← Nat.shiftLeft_add_eq_or_of_lt low, Nat.shiftLeft_eq,
    PCI_DMA_L_toNat, PCI_DMA_H_toNat, Nat.mul_comm]
  exact Nat.div_add_mod _ _

/-! ## One descriptor -/

def XdmaDesc.srcAddr (desc : XdmaDesc) : BitVec 64 := desc.srcAddrHi ++ desc.srcAddrLo

def XdmaDesc.dstAddr (desc : XdmaDesc) : BitVec 64 := desc.dstAddrHi ++ desc.dstAddrLo

def XdmaDesc.nextAddr (desc : XdmaDesc) : BitVec 64 := desc.nextHi ++ desc.nextLo

/-- The side in host memory: the source on the way to the card, else the destination. -/
def XdmaDesc.hostAddr (direction : BitVec 8) (desc : XdmaDesc) : BitVec 64 :=
  if direction = H2C_DIR then desc.srcAddr else desc.dstAddr

def XdmaDesc.cardAddr (direction : BitVec 8) (desc : XdmaDesc) : BitVec 64 :=
  if direction = H2C_DIR then desc.dstAddr else desc.srcAddr

/-- The descriptor transfers segment `i` of the config. -/
structure Transfers (cfg : XdmaCfgInfo) (i : Fin maxDescNum) (desc : XdmaDesc) : Prop where
  bytes : desc.bytes = cfg.dataLen i
  host : desc.hostAddr cfg.direction = cfg.dataPhyAddr i
  card : desc.cardAddr cfg.direction = (cfg.epAddr + BitVec.ofNat 32 (i.val * 0x2000)).setWidth 64

variable {cfg : XdmaCfgInfo} {block : Nat} {phys : BitVec 64} {state : Kernel}
  {answer : Nat → Option (BitVec 64)}

theorem elementAt_run {Entry : Type} {table : Fin maxDescNum → Entry} (i : Fin maxDescNum) :
    elementAt table i.val state = (.ok (table i), state) := by
  have found : entryAt table (i.val : Int) = some (table i) :=
    dif_pos (⟨Int.natCast_nonneg i.val, i.isLt⟩ : 0 ≤ (i.val : Int) ∧ (i.val : Int).toNat < maxDescNum)
  simp only [elementAt, found]
  rfl

def Kernel.withDesc (state : Kernel) (block i : Nat) (desc : XdmaDesc) : Kernel :=
  { state with descs := fun other index =>
      if other = block ∧ index = i then desc else state.descs other index }

theorem setDesc_run (i : Nat) (update : XdmaDesc → XdmaDesc) :
    setDesc block i update state =
      (.ok (), state.withDesc block i (update (state.descs block i))) := by
  have updated : (fun other index =>
      if other = block ∧ index = i then update (state.descs other index)
      else state.descs other index) =
      (state.withDesc block i (update (state.descs block i))).descs := by
    funext other index
    by_cases here : other = block ∧ index = i
    · obtain ⟨rfl, rfl⟩ := here
      simp only [Kernel.withDesc]
    · simp only [Kernel.withDesc, if_neg here]
  unfold setDesc
  rw [change_run, updated]
  rfl

theorem xdmaDescSetAddr_transfers {desc : XdmaDesc} (i : Fin maxDescNum)
    (bytes : desc.bytes = cfg.dataLen i) :
    Transfers cfg i (xdmaDescSetAddr desc (cfg.dataPhyAddr i) cfg.direction
      (cfg.epAddr + BitVec.ofNat 32 (i.val * 0x2000))) := by
  unfold xdmaDescSetAddr
  by_cases host : cfg.direction = H2C_DIR
  · simp only [host, if_true]
    refine ⟨bytes, ?_, ?_⟩
    · simp only [XdmaDesc.hostAddr, host, if_true, XdmaDesc.srcAddr, join_halves]
    · simp only [XdmaDesc.cardAddr, host, if_true, XdmaDesc.dstAddr, join_halves]
  · simp only [host, if_false]
    refine ⟨bytes, ?_, ?_⟩
    · simp only [XdmaDesc.hostAddr, host, if_false, XdmaDesc.dstAddr, join_halves]
    · simp only [XdmaDesc.cardAddr, host, if_false, XdmaDesc.srcAddr, join_halves]

theorem xdmaDescSetAddr_control {desc : XdmaDesc} {direction : BitVec 8} {epAddr : BitVec 32} :
    (xdmaDescSetAddr desc phys direction epAddr).control = desc.control := by
  unfold xdmaDescSetAddr
  dsimp only
  split
  · rfl
  · rfl

theorem fillDesc_run (i : Fin maxDescNum) (control : BitVec 32) :
    ∃ desc, fillDesc cfg block i.val control (cfg.epAddr + BitVec.ofNat 32 (i.val * 0x2000)) state =
        (.ok (), state.withDesc block i.val desc) ∧
      desc.control = control ∧ Transfers cfg i desc := by
  have ran : fillDesc cfg block i.val control
      (cfg.epAddr + BitVec.ofNat 32 (i.val * 0x2000)) state = _ :=
    (bind_ok (elementAt_run i)).trans ((bind_ok (elementAt_run i)).trans (setDesc_run i.val _))
  exact ⟨_, ran, xdmaDescSetAddr_control, xdmaDescSetAddr_transfers i rfl⟩

@[simp] theorem Kernel.withDesc_here {desc : XdmaDesc} {i : Nat} :
    (state.withDesc block i desc).descs block i = desc :=
  if_pos ⟨rfl, rfl⟩

theorem Kernel.withDesc_other {desc : XdmaDesc} {i other index : Nat}
    (elsewhere : ¬ (other = block ∧ index = i)) :
    (state.withDesc block i desc).descs other index = state.descs other index :=
  if_neg elsewhere

/-- Setting the next address leaves the rest of a descriptor. -/
theorem linkDesc_run (i : Fin maxDescNum) (nextPhy : BitVec 64) :
    ∃ desc, setDesc block i.val (fun desc => { desc with
        nextLo := PCI_DMA_L nextPhy, nextHi := PCI_DMA_H nextPhy }) state =
        (.ok (), state.withDesc block i.val desc) ∧
      desc.control = (state.descs block i.val).control ∧
      (Transfers cfg i (state.descs block i.val) → Transfers cfg i desc) ∧
      desc.nextAddr = nextPhy := by
  refine ⟨_, setDesc_run i.val _, rfl, ?_, join_halves nextPhy⟩
  intro transfers
  exact ⟨transfers.bytes, transfers.host, transfers.card⟩

/-! ## The loop -/

/-- The control word of descriptor `i` of a chain whose last one is `last`. -/
def chainControl (last i : Nat) : BitVec 32 :=
  if i < last then DESC_MAGIC ||| (BitVec.ofNat 32 (min 15 (last - 1 - i)) <<< 8)
  else DESC_MAGIC ||| 0x13#32

/-- Descriptor `i` of the chain, which leads to the next one unless it is the last. -/
structure Chained (cfg : XdmaCfgInfo) (phys : BitVec 64) (last : Nat) (i : Fin maxDescNum)
    (desc : XdmaDesc) : Prop where
  control : desc.control = chainControl last i.val
  transfers : Transfers cfg i desc
  next : i.val < last → desc.nextAddr = phys + BitVec.ofNat 64 ((i.val + 1) * XdmaDesc.size)

/-- The running `adj` is the number of turns left. -/
theorem adjacent_credit (remaining : Nat) (room : remaining + 1 < maxDescNum) :
    ((0 : BitVec 8) < BitVec.ofNat 8 (remaining + 1)) ∧
      BitVec.ofNat 8 (remaining + 1) - 1 = BitVec.ofNat 8 remaining ∧
      (if 15#32 < (BitVec.ofNat 8 (remaining + 1)).setWidth 32 - 1 then 15#32
        else (BitVec.ofNat 8 (remaining + 1)).setWidth 32 - 1) =
        BitVec.ofNat 32 (min 15 remaining) := by
  have finite : ∀ turns : Fin 63, ((0 : BitVec 8) < BitVec.ofNat 8 (turns.val + 1)) ∧
      BitVec.ofNat 8 (turns.val + 1) - 1 = BitVec.ofNat 8 turns.val ∧
      (if 15#32 < (BitVec.ofNat 8 (turns.val + 1)).setWidth 32 - 1 then 15#32
        else (BitVec.ofNat 8 (turns.val + 1)).setWidth 32 - 1) =
        BitVec.ofNat 32 (min 15 turns.val) := by
    decide
  exact finite ⟨remaining, Nat.lt_of_succ_lt_succ room⟩

def Kernel.withDescs (state : Kernel) (descs : Nat → Nat → XdmaDesc) : Kernel :=
  { state with descs }

/-- What the loop writes, and that it writes nothing else. -/
structure LoopWrites (cfg : XdmaCfgInfo) (block : Nat) (phys : BitVec 64) (first last : Nat)
    (before after : Nat → Nat → XdmaDesc) : Prop where
  chained : ∀ i : Fin maxDescNum, first ≤ i.val → i.val < last →
    Chained cfg phys last i (after block i.val)
  kept : ∀ other index, ¬ (other = block ∧ first ≤ index ∧ index < last) →
    after other index = before other index

theorem descLoop_run (remaining i : Nat) (extraAdj : BitVec 32) (state : Kernel)
    (room : i + remaining < maxDescNum) :
    ∃ descs, descLoop cfg block phys remaining i (BitVec.ofNat 8 remaining) extraAdj state =
        (.ok (if remaining = 0 then extraAdj else 0), state.withDescs descs) ∧
      LoopWrites cfg block phys i (i + remaining) state.descs descs := by
  induction remaining generalizing i extraAdj state with
  | zero =>
      refine ⟨state.descs, rfl, ?_, ?_⟩
      · intro place from_ below
        omega
      · intro other index _
        rfl
  | succ remaining ih =>
      obtain ⟨positive, fewer, credit⟩ := adjacent_credit remaining (by omega)
      have inside : i < maxDescNum := by omega
      obtain ⟨desc, filled, control, transfers⟩ := @fillDesc_run cfg block state ⟨i, inside⟩
        (DESC_MAGIC ||| (BitVec.ofNat 32 (min 15 remaining) <<< 8))
      obtain ⟨linked, ranNext, linkedControl, linkedTransfers, next⟩ :=
        @linkDesc_run cfg block (state.withDesc block i desc) ⟨i, inside⟩
          (phys + BitVec.ofNat 64 ((i + 1) * XdmaDesc.size))
      obtain ⟨descs, ran, writes⟩ := ih (i + 1) (BitVec.ofNat 32 (min 15 remaining))
        ((state.withDesc block i desc).withDesc block i linked) (by omega)
      refine ⟨descs, ?_, ?_⟩
      · simp only [descLoop, if_pos positive, fewer, credit]
        refine (bind_ok filled).trans ((bind_ok ranNext).trans (ran.trans ?_))
        cases remaining with
        | zero => rfl
        | succ remaining => rfl
      · have placed : i + 1 + remaining = i + (remaining + 1) := by omega
        rw [placed] at writes
        have written := writes.kept block i (by omega)
        rw [Kernel.withDesc_here] at written
        rw [Kernel.withDesc_here] at linkedControl linkedTransfers
        refine ⟨?_, ?_⟩
        · intro place low below
          rcases Nat.eq_or_lt_of_le low with here | later
          · obtain rfl : (⟨i, inside⟩ : Fin maxDescNum) = place := Fin.ext here
            rw [written]
            refine ⟨?_, linkedTransfers transfers, fun _ => next⟩
            have left : i + (remaining + 1) - 1 - i = remaining := by omega
            rw [linkedControl, control, chainControl, if_pos below, left]
          · exact writes.chained place later below
        · intro other index elsewhere
          rw [writes.kept other index (by omega), Kernel.withDesc_other (by omega),
            Kernel.withDesc_other (by omega)]

/-! ## The table -/

/-- The descriptors of a config with its chain at `phys`, in block `block`. -/
structure ChainTable (cfg : XdmaCfgInfo) (block : Nat) (phys : BitVec 64)
    (before after : Nat → Nat → XdmaDesc) : Prop where
  chained : ∀ i : Fin maxDescNum, i.val < cfg.sgDescNum.toNat →
    Chained cfg phys (cfg.sgDescNum.toNat - 1) i (after block i.val)
  kept : ∀ other index, ¬ (other = block ∧ index < cfg.sgDescNum.toNat) →
    after other index = before other index

theorem last_epAddr (several : 1 ≤ cfg.sgDescNum.toNat) :
    (cfg.sgDescNum.setWidth 32 - 1) * 0x2000 =
      BitVec.ofNat 32 ((cfg.sgDescNum.toNat - 1) * 0x2000) := by
  have counted : cfg.sgDescNum.setWidth 32 - 1 = BitVec.ofNat 32 (cfg.sgDescNum.toNat - 1) := by
    bv_omega
  rw [counted, BitVec.ofNat_mul]
  rfl

/-- A successful allocation leaves the whole chain in its block. -/
theorem xdmaDescAlloc_chain (several : 1 ≤ cfg.sgDescNum.toNat)
    (few : cfg.sgDescNum.toNat ≤ maxDescNum) (allocated : answer state.allocated = some phys) :
    ∃ descs, xdmaDescAlloc answer cfg state =
        (.ok { cfg with pFirstDesc := some state.allocated, firstDescPhyAddr := phys },
          { state with allocated := state.allocated + 1, descs }) ∧
      ChainTable cfg state.allocated phys state.descs descs := by
  have counts : cfg.sgDescNum - 1 = BitVec.ofNat 8 (cfg.sgDescNum.toNat - 1) := by
    bv_omega
  have inside : cfg.sgDescNum.toNat - 1 < maxDescNum := by omega
  obtain ⟨descs, looped, writes⟩ := @descLoop_run cfg state.allocated phys
    (cfg.sgDescNum.toNat - 1) 0 0 { state with allocated := state.allocated + 1 } (by omega)
  obtain ⟨desc, filled, control, transfers⟩ := @fillDesc_run cfg state.allocated
    (Kernel.withDescs { state with allocated := state.allocated + 1 } descs)
    ⟨cfg.sgDescNum.toNat - 1, inside⟩ (DESC_MAGIC ||| ((0 : BitVec 32) <<< 8) ||| 0x13#32)
  rw [ite_self] at looped
  rw [Nat.zero_add] at writes
  refine ⟨(Kernel.withDesc (state.withDescs descs) state.allocated (cfg.sgDescNum.toNat - 1)
    desc).descs, ?_, ?_, ?_⟩
  · unfold xdmaDescAlloc
    rw [bind_ok (dmaAllocCoherent_run state), allocated]
    dsimp only [Option.map_some]
    rw [counts, bind_ok looped, last_epAddr several]
    exact bind_ok filled
  · intro i below
    rcases Nat.lt_or_ge i.val (cfg.sgDescNum.toNat - 1) with early | late
    · rw [Kernel.withDesc_other (by omega)]
      exact writes.chained i (Nat.zero_le _) early
    · obtain rfl : (⟨cfg.sgDescNum.toNat - 1, inside⟩ : Fin maxDescNum) = i :=
        Fin.ext (Nat.le_antisymm late (Nat.le_sub_one_of_lt below))
      rw [Kernel.withDesc_here]
      refine ⟨?_, transfers, fun before => absurd before (Nat.lt_irrefl _)⟩
      rw [control, chainControl, if_neg (Nat.lt_irrefl _)]
      rfl
  · intro other index elsewhere
    rw [Kernel.withDesc_other (by omega)]
    exact writes.kept other index (by omega)

/-! ## The registers -/

def descLowReg (direction : BitVec 8) : BitVec 32 :=
  if direction = H2C_DIR then H2C_SGDMA_DESC_LOW32_REG else C2H_SGDMA_DESC_LOW32_REG

def descHighReg (direction : BitVec 8) : BitVec 32 :=
  if direction = H2C_DIR then H2C_SGDMA_DESC_HIGH32_REG else C2H_SGDMA_DESC_HIGH32_REG

def descAdjaReg (direction : BitVec 8) : BitVec 32 :=
  if direction = H2C_DIR then H2C_SGDMA_DESC_ADJA_REG else C2H_SGDMA_DESC_ADJA_REG

def descAddReg (direction : BitVec 8) : BitVec 32 :=
  if direction = H2C_DIR then H2C_SGDMA_DESC_ADD_REG else C2H_SGDMA_DESC_ADD_REG

/-- What the registers of a channel tell the card about its chain. -/
structure Configured (cfg : XdmaCfgInfo) (channel : BitVec 8) (base : Nat)
    (regs : Nat → BitVec 32 → BitVec 32) : Prop where
  low : regs base (channelReg (descLowReg cfg.direction) (channel - 1)) =
    PCI_DMA_L cfg.firstDescPhyAddr
  high : regs base (channelReg (descHighReg cfg.direction) (channel - 1)) =
    PCI_DMA_H cfg.firstDescPhyAddr
  adjacent : regs base (channelReg (descAdjaReg cfg.direction) (channel - 1)) =
    cfg.sgDescNum.setWidth 32 - 1

variable {xdev : XdmaDev} {base : Nat}

@[simp] theorem channelReg_inj {first second : BitVec 32} {index : BitVec 8} :
    channelReg first index = channelReg second index ↔ first = second :=
  BitVec.add_left_inj _

def Kernel.withReg (state : Kernel) (block : Nat) (offset value : BitVec 32) : Kernel :=
  { state with regs := fun other place =>
      if other = block ∧ place = offset then value else state.regs other place }

@[simp] theorem Kernel.withReg_here {offset value : BitVec 32} :
    (state.withReg block offset value).regs block offset = value :=
  if_pos ⟨rfl, rfl⟩

theorem Kernel.withReg_other {offset value place : BitVec 32} (elsewhere : place ≠ offset) :
    (state.withReg block offset value).regs block place = state.regs block place :=
  if_neg fun here => elsewhere here.2

theorem descRegs_distinct (direction : BitVec 8) :
    (descLowReg direction ≠ descHighReg direction ∧ descLowReg direction ≠ descAdjaReg direction ∧
      descHighReg direction ≠ descAdjaReg direction) ∧
    descLowReg direction ≠ descAddReg direction ∧ descHighReg direction ≠ descAddReg direction ∧
      descAdjaReg direction ≠ descAddReg direction := by
  unfold descLowReg descHighReg descAdjaReg descAddReg
  by_cases host : direction = H2C_DIR
  · simp only [host, if_true]
    decide
  · simp only [host, if_false]
    decide

/-- The writes that every setup of a channel makes. -/
def Kernel.described (state : Kernel) (base : Nat) (channel : BitVec 8) (cfg : XdmaCfgInfo) :
    Kernel :=
  ((state.withReg base (channelReg (descLowReg cfg.direction) (channel - 1))
    (PCI_DMA_L cfg.firstDescPhyAddr)).withReg base
      (channelReg (descHighReg cfg.direction) (channel - 1)) (PCI_DMA_H cfg.firstDescPhyAddr)).withReg
        base (channelReg (descAdjaReg cfg.direction) (channel - 1)) (cfg.sgDescNum.setWidth 32 - 1)

theorem Kernel.described_configured (channel : BitVec 8) :
    Configured cfg channel base (state.described base channel cfg).regs := by
  obtain ⟨⟨lowHigh, lowAdja, highAdja⟩, _⟩ := descRegs_distinct cfg.direction
  refine ⟨?_, ?_, ?_⟩
  · unfold Kernel.described
    rw [Kernel.withReg_other (channelReg_inj.not.mpr lowAdja),
      Kernel.withReg_other (channelReg_inj.not.mpr lowHigh), Kernel.withReg_here]
  · unfold Kernel.described
    rw [Kernel.withReg_other (channelReg_inj.not.mpr highAdja), Kernel.withReg_here]
  · exact Kernel.withReg_here

/-- The credits of a longer chain go to a register of their own. -/
theorem Configured.withCredits {channel : BitVec 8} {value : BitVec 32}
    (configured : Configured cfg channel base state.regs) :
    Configured cfg channel base
      (state.withReg base (channelReg (descAddReg cfg.direction) (channel - 1)) value).regs := by
  obtain ⟨_, lowAdd, highAdd, adjaAdd⟩ := descRegs_distinct cfg.direction
  refine ⟨?_, ?_, ?_⟩
  · rw [Kernel.withReg_other (channelReg_inj.not.mpr lowAdd)]
    exact configured.low
  · rw [Kernel.withReg_other (channelReg_inj.not.mpr highAdd)]
    exact configured.high
  · rw [Kernel.withReg_other (channelReg_inj.not.mpr adjaAdd)]
    exact configured.adjacent

theorem xdmaCofgDesc_configured (channel : BitVec 8) (state : Kernel)
    (mapped : xdev.bar 1 = some base) :
    ∃ final, xdmaCofgDesc xdev channel cfg state = (.ok (), final) ∧ final.descs = state.descs ∧
      Configured cfg channel base final.regs := by
  unfold xdmaCofgDesc
  rw [bind_ok (regBase_run state), mapped]
  by_cases several : 1 < cfg.sgDescNum
  · simp only [several, if_true]
    exact ⟨Kernel.withReg (Kernel.described _ base channel cfg) base _ _, rfl, rfl,
      (Kernel.described_configured channel).withCredits⟩
  · simp only [several, if_false]
    exact ⟨Kernel.described _ base channel cfg, rfl, rfl, Kernel.described_configured channel⟩

/-! ## What the card reads -/

/-- The card's view of a table of `count` descriptors at `phys`. -/
def chainReader (table : Nat → XdmaDesc) (count : Nat) (phys : BitVec 64) :
    ChainReader (BitVec 64) XdmaDesc where
  fetch := fun addr =>
    let offset := (addr - phys).toNat
    if offset % XdmaDesc.size = 0 ∧ offset / XdmaDesc.size < count then
      some (table (offset / XdmaDesc.size))
    else none
  next := XdmaDesc.nextAddr
  stop := fun desc => desc.control.getLsbD 0

theorem chainReader_fetch {table : Nat → XdmaDesc} {count i : Nat} (inside : i < count)
    (few : count ≤ maxDescNum) :
    (chainReader table count phys).fetch (phys + BitVec.ofNat 64 (i * XdmaDesc.size)) =
      some (table i) := by
  have offset : (phys + BitVec.ofNat 64 (i * 32) - phys).toNat = i * 32 := by
    have most : maxDescNum = 64 := rfl
    rw [BitVec.add_comm, BitVec.add_sub_cancel, BitVec.toNat_ofNat]
    omega
  have slot : i * 32 / 32 = i := Nat.mul_div_cancel i (by decide)
  simp only [chainReader, XdmaDesc.size, offset, Nat.mul_mod_left, slot, inside, and_self, if_true]

/-- The fields of the control word of a descriptor that others follow. -/
theorem creditWord_fields (credit : Fin 16) :
    let word := DESC_MAGIC ||| (BitVec.ofNat 32 credit.val <<< 8)
    word.extractLsb' 16 16 = 0xAD4B#16 ∧ (word.extractLsb' 8 6).toNat = credit.val ∧
      word.extractLsb' 0 8 = 0 ∧ word.getLsbD 0 = false := by
  revert credit
  decide

theorem chainControl_early {last i : Nat} (below : i < last) :
    (chainControl last i).extractLsb' 16 16 = 0xAD4B#16 ∧
      ((chainControl last i).extractLsb' 8 6).toNat = min 15 (last - 1 - i) ∧
      (chainControl last i).extractLsb' 0 8 = 0 ∧ (chainControl last i).getLsbD 0 = false := by
  rw [chainControl, if_pos below]
  exact creditWord_fields ⟨min 15 (last - 1 - i), by omega⟩

theorem chainControl_last {last : Nat} : chainControl last last = 0xAD4B0013#32 := by
  rw [chainControl, if_neg (Nat.lt_irrefl last)]
  rfl

theorem ChainTable.linked {before after : Nat → Nat → XdmaDesc}
    (table : ChainTable cfg block phys before after) (several : 1 ≤ cfg.sgDescNum.toNat)
    (few : cfg.sgDescNum.toNat ≤ maxDescNum) :
    (chainReader (after block) cfg.sgDescNum.toNat phys).Linked
      (fun i => phys + BitVec.ofNat 64 (i * XdmaDesc.size)) (after block)
      (cfg.sgDescNum.toNat - 1) where
  fetched := by
    intro i bounded
    exact chainReader_fetch (by omega) few
  next := by
    intro i below
    exact (table.chained ⟨i, by omega⟩ (by dsimp only; omega)).next below
  running := by
    intro i below
    have control := (table.chained ⟨i, by omega⟩ (by dsimp only; omega)).control
    dsimp only [chainReader]
    rw [control]
    exact (chainControl_early below).2.2.2
  stopped := by
    have control := (table.chained ⟨cfg.sgDescNum.toNat - 1, by omega⟩ (by dsimp only; omega)).control
    dsimp only [chainReader]
    rw [control, chainControl_last]
    rfl

/-- The card visits the descriptors of a chain once each and in order, and they
transfer the segments of the config. -/
theorem chain_transfers (several : 1 ≤ cfg.sgDescNum.toNat)
    (few : cfg.sgDescNum.toNat ≤ maxDescNum) (allocated : answer state.allocated = some phys) :
    ∃ ready final table visited, xdmaDescAlloc answer cfg state = (.ok ready, final) ∧
      ready.pFirstDesc = some table ∧
      (∀ fuel, cfg.sgDescNum.toNat ≤ fuel →
        (chainReader (final.descs table) cfg.sgDescNum.toNat phys).walk fuel
          ready.firstDescPhyAddr = some visited) ∧
      visited.length = cfg.sgDescNum.toNat ∧
      ∀ i : Fin maxDescNum, ∀ inside : i.val < visited.length, Transfers cfg i visited[i.val] := by
  obtain ⟨descs, ran, table⟩ := xdmaDescAlloc_chain several few allocated
  have count : cfg.sgDescNum.toNat - 1 + 1 = cfg.sgDescNum.toNat := Nat.sub_add_cancel several
  refine ⟨_, _, state.allocated, (List.range cfg.sgDescNum.toNat).map (descs state.allocated),
    ran, rfl, ?_, by simp, ?_⟩
  · intro fuel enough
    have walked := (table.linked several few).walk (Nat.lt_of_lt_of_le (by omega) enough)
    have start : phys + BitVec.ofNat 64 (0 * XdmaDesc.size) = phys := by simp
    rw [start, count] at walked
    exact walked
  · intro i inside
    simp only [List.length_map, List.length_range] at inside
    simp only [List.getElem_map, List.getElem_range]
    exact (table.chained i inside).transfers

/-- A chain of twenty, longer than what one descriptor can grant. -/
def longChain : XdmaCfgInfo := { XdmaCfgInfo.cleared with sgDescNum := 20 }

theorem chain_transfers_longChain :
    ∃ ready final table visited,
      xdmaDescAlloc (fun _ => some 0x100000000) longChain .booted = (.ok ready, final) ∧
      ready.pFirstDesc = some table ∧
      (∀ fuel, longChain.sgDescNum.toNat ≤ fuel →
        (chainReader (final.descs table) longChain.sgDescNum.toNat 0x100000000).walk fuel
          ready.firstDescPhyAddr = some visited) ∧
      visited.length = longChain.sgDescNum.toNat ∧
      ∀ i : Fin maxDescNum, ∀ inside : i.val < visited.length,
        Transfers longChain i visited[i.val] :=
  chain_transfers (by decide) (by decide) rfl

/-- In a chain no descriptor grants more adjacent ones than follow it, only the last
one carries flags, and the card is told of the whole chain. -/
theorem chain_credits {channel : BitVec 8} (several : 1 ≤ cfg.sgDescNum.toNat)
    (few : cfg.sgDescNum.toNat ≤ maxDescNum) (allocated : answer state.allocated = some phys)
    (mapped : xdev.bar 1 = some base) :
    ∃ ready final table, xdmaCreateTransfer answer xdev channel cfg state = (.ok ready, final) ∧
      ready.pFirstDesc = some table ∧
      (∀ i, i < cfg.sgDescNum.toNat →
        let control := (final.descs table i).control
        let extra := (control.extractLsb' 8 6).toNat
        control.extractLsb' 16 16 = 0xAD4B#16 ∧
        extra = (if i < cfg.sgDescNum.toNat - 1 then min 15 (cfg.sgDescNum.toNat - 2 - i) else 0) ∧
        (i < cfg.sgDescNum.toNat - 1 → i + 1 + extra ≤ cfg.sgDescNum.toNat - 1) ∧
        (control.extractLsb' 0 8 ≠ 0 ↔ i = cfg.sgDescNum.toNat - 1)) ∧
      (final.regs base (channelReg (descAdjaReg cfg.direction) (channel - 1))).toNat + 1 =
        cfg.sgDescNum.toNat := by
  obtain ⟨descs, ran, table⟩ := xdmaDescAlloc_chain several few allocated
  obtain ⟨final, ranCofg, same, configured⟩ := @xdmaCofgDesc_configured
    { cfg with pFirstDesc := some state.allocated, firstDescPhyAddr := phys } xdev base channel
    { state with allocated := state.allocated + 1, descs } mapped
  refine ⟨_, final, state.allocated, (bind_ok ran).trans (bind_ok ranCofg), rfl, ?_, ?_⟩
  · intro i inside
    have control := (table.chained ⟨i, by omega⟩ inside).control
    dsimp only at control ⊢
    rw [same]
    dsimp only
    rw [control]
    rcases Nat.lt_or_ge i (cfg.sgDescNum.toNat - 1) with early | late
    · obtain ⟨magic, extra, flags, _⟩ := chainControl_early early
      have left : cfg.sgDescNum.toNat - 1 - 1 - i = cfg.sgDescNum.toNat - 2 - i := by omega
      rw [left] at extra
      refine ⟨magic, ?_, ?_, ?_⟩
      · rw [extra, if_pos early]
      · intro _
        rw [extra]
        omega
      · rw [flags]
        exact ⟨fun some => absurd rfl some, fun final => absurd final (Nat.ne_of_lt early)⟩
    · obtain rfl : i = cfg.sgDescNum.toNat - 1 := Nat.le_antisymm (Nat.le_sub_one_of_lt inside) late
      rw [chainControl_last, if_neg (Nat.lt_irrefl _)]
      refine ⟨by decide, by decide, fun before => absurd before (Nat.lt_irrefl _), ?_⟩
      exact ⟨fun _ => rfl, fun _ => by decide⟩
  · rw [configured.adjacent]
    bv_omega

theorem chain_credits_longChain :
    ∃ ready final table,
      xdmaCreateTransfer (fun _ => some 0x100000000) (XdmaDev.allocated 0 fun _ => some 1) 1 longChain
        .booted = (.ok ready, final) ∧
      ready.pFirstDesc = some table ∧
      (∀ i, i < longChain.sgDescNum.toNat →
        let control := (final.descs table i).control
        let extra := (control.extractLsb' 8 6).toNat
        control.extractLsb' 16 16 = 0xAD4B#16 ∧
        extra = (if i < longChain.sgDescNum.toNat - 1 then
          min 15 (longChain.sgDescNum.toNat - 2 - i) else 0) ∧
        (i < longChain.sgDescNum.toNat - 1 → i + 1 + extra ≤ longChain.sgDescNum.toNat - 1) ∧
        (control.extractLsb' 0 8 ≠ 0 ↔ i = longChain.sgDescNum.toNat - 1)) ∧
      (final.regs 1 (channelReg (descAdjaReg longChain.direction) (1 - 1))).toNat + 1 =
        longChain.sgDescNum.toNat :=
  chain_credits (by decide) (by decide) rfl rfl

end Vi53xx.Driver
