import Vi53xx.Driver.FailedProbeProperties
import Vi53xx.Driver.FreeResource
import Vi53xx.Driver.SetupProperties

/-! The memory that a probe allocates for its channels. No allocation that fails stops
it, and the card is then told of a table that is not there. -/

set_option autoImplicit false

namespace Vi53xx.Driver

open Foundation Foundation.Program

/-- `xdma_probe` with its channels, which it sets up when all before that has succeeded. -/
def probeChannels (outcome : ProbeOutcome) (readReg : BitVec 32 → BitVec 32) (pdev : PciDev)
    (registry : Registry) (answers : Nat → Option (BitVec 64)) (xdev : XdmaDev) :
    KernelM (Int × XdmaDev) :=
  let rv := (xdmaProbe outcome readReg pdev registry).1
  if rv < 0 then pure (rv, xdev)
  else do
    let xdev ← xdmaChannelInit answers xdev
    pure (rv, xdev)

/-- The channel has a buffer and a table, and the card is told where the table is. -/
structure Working (answers : Nat → Option (BitVec 64)) (xdev : XdmaDev) (state : Kernel)
    (dir : Fin 2) (index : Fin xdmaChannelNum) : Prop where
  buffer : ((xdev.cfg dir index).pData 0).isSome
  table : ∃ base table phys, xdev.bar 1 = some base ∧
    (xdev.cfg dir index).pFirstDesc = some table ∧ answers table = some phys ∧
    state.regs base (descLow dir index) = PCI_DMA_L phys ∧
    state.regs base (descHigh dir index) = PCI_DMA_H phys

/-- The block has been allocated between the two states. It is still there in the second
one, since nothing that probes a board frees a block. -/
def Outstanding (answers : Nat → Option (BitVec 64)) (before after : Kernel) (block : Nat) : Prop :=
  before.allocated ≤ block ∧ block < after.allocated ∧ (answers block).isSome

/-- The probe succeeds with working channels, or fails and keeps no block. -/
def ProbesAllOrNothing (answers : Nat → Option (BitVec 64)) (before : Kernel)
    (result : Except Fault (Int × XdmaDev) × Kernel) : Prop :=
  ∃ rv xdev after, result = (.ok (rv, xdev), after) ∧
    if rv = 0 then Working answers xdev after 1 0 ∧ Working answers xdev after 1 1 ∧
      Working answers xdev after 0 0
    else rv < 0 ∧ ∀ block, ¬ Outstanding answers before after block

/-- BAR 1 is mapped, and all six allocations from the given one on succeed. -/
def MemoryForAll (answers : Nat → Option (BitVec 64)) (bars : Fin xdmaBarNum → Option Nat)
    (attempt : Nat) : Prop :=
  (bars 1).isSome ∧ ∀ i < 6, (answers (attempt + i)).isSome

variable {answers : Nat → Option (BitVec 64)} {bars : Fin xdmaBarNum → Option Nat} {idx base : Nat}
  {outcome : ProbeOutcome} {readReg : BitVec 32 → BitVec 32} {pdev : PciDev} {registry : Registry}
  {dir other : Fin 2} {index place : Fin xdmaChannelNum} {before after state final : Kernel}
  {xdev : XdmaDev} {written : BitVec 32 → Prop}

/-! ## Channels -/

theorem descRegs_apart (different : (dir, index) ≠ (other, place)) :
    descLow dir index ∉ setupRegs other place ∧ descHigh dir index ∉ setupRegs other place := by
  revert dir index other place
  decide

theorem Prepared.working_iff
    (prepared : Prepared answers base dir index before (xdev.cfg dir index) after)
    (mapped : xdev.bar 1 = some base) (spares : Spares written after final)
    (low : ¬ written (descLow dir index)) (high : ¬ written (descHigh dir index)) :
    Working answers xdev final dir index ↔
      (answers before.allocated).isSome ∧ (answers (before.allocated + 1)).isSome := by
  have buffer := prepared.setUp.pData
  have table := prepared.tabled.pFirstDesc
  constructor
  · intro working
    refine ⟨by simpa only [buffer, Option.isSome_map] using working.buffer, ?_⟩
    obtain ⟨_, block, _, _, found, _⟩ := working.table
    rw [table, Option.map_eq_some_iff] at found
    obtain ⟨phys, succeeded, _⟩ := found
    exact Option.isSome_iff_exists.mpr ⟨phys, succeeded⟩
  · intro succeed
    obtain ⟨phys, succeeded⟩ := Option.isSome_iff_exists.mp succeed.2
    have told : (xdev.cfg dir index).firstDescPhyAddr = phys := by
      rw [prepared.tabled.phys, succeeded]
      rfl
    refine ⟨by simpa only [buffer, Option.isSome_map] using succeed.1, base,
      before.allocated + 1, phys, mapped, ?_, succeeded, ?_, ?_⟩
    · rw [table, succeeded]
      rfl
    · rw [spares.regs base _ low, prepared.low, told]
    · rw [spares.regs base _ high, prepared.high, told]

theorem xdmaChannelInit_prepared (mapped : bars 1 = some base) (state : Kernel) :
    ∃ xdev first second final,
      xdmaChannelInit answers (XdmaDev.allocated idx bars) state = (.ok xdev, final) ∧
      xdev.idx = idx ∧ xdev.bar = bars ∧ xdev.h2cDmaCfg 1 = unset 0 1 ∧
      Prepared answers base 1 0 state (xdev.c2hDmaCfg 0) first ∧
      Prepared answers base 0 0 first (xdev.h2cDmaCfg 0) second ∧
      Prepared answers base 1 1 second (xdev.c2hDmaCfg 1) final :=
  @xdmaChannelInit_channels answers idx bars (Prepared answers base)
    (fun xdev same dir index before =>
      @setupChannel_prepared xdev answers base dir index before (same ▸ mapped)) state

theorem xdmaChannelInit_unmapped (unmapped : bars 1 = none) (state : Kernel) :
    ∃ stopped, xdmaChannelInit answers (XdmaDev.allocated idx bars) state =
      (.error .nullPointer, stopped) := by
  obtain ⟨stopped, faulty⟩ :=
    @setupChannel_unmapped answers (XdmaDev.allocated idx bars) 1 0 state unmapped
  have first : channelInit answers (XdmaDev.allocated idx bars) 0 state =
      (.error .nullPointer, stopped) := bind_error faulty
  exact ⟨stopped, bind_error first⟩

/-- A later setup writes registers of its own, so each channel works as it was set up. -/
theorem channels_working_iff (mapped : bars 1 = some base) (state : Kernel) :
    ∃ xdev final,
      xdmaChannelInit answers (XdmaDev.allocated idx bars) state = (.ok xdev, final) ∧
      ((Working answers xdev final 1 0 ∧ Working answers xdev final 1 1 ∧
          Working answers xdev final 0 0) ↔
        ∀ i < 6, (answers (state.allocated + i)).isSome) := by
  obtain ⟨xdev, first, second, final, ran, _, same, _, firstC2h, firstH2c, secondC2h⟩ :=
    @xdmaChannelInit_prepared answers bars idx base mapped state
  have bar : xdev.bar 1 = some base := (congrFun same 1).trans mapped
  have later : Spares (fun place => place ∈ setupRegs 0 0 ∨ place ∈ setupRegs 1 1) first final :=
    (firstH2c.spares.mono fun _ => Or.inl).trans (secondC2h.spares.mono fun _ => Or.inr)
  have unspared : Spares (fun _ => False) final final := (WritesRegs.refl final).spares
  obtain ⟨lowFirst, highFirst⟩ := @descRegs_apart 1 0 0 0 (by decide)
  obtain ⟨lowSecond, highSecond⟩ := @descRegs_apart 1 1 0 1 (by decide)
  obtain ⟨lowH2c, highH2c⟩ := @descRegs_apart 0 1 0 1 (by decide)
  have workingFirst := @Prepared.working_iff answers base 1 0 state first final xdev _ firstC2h bar
    later (not_or.mpr ⟨lowFirst, lowSecond⟩) (not_or.mpr ⟨highFirst, highSecond⟩)
  have workingH2c := @Prepared.working_iff answers base 0 0 first second final xdev _ firstH2c bar
    secondC2h.spares lowH2c highH2c
  have workingSecond := @Prepared.working_iff answers base 1 1 second final final xdev _ secondC2h bar
    unspared id id
  rw [firstC2h.allocated] at workingH2c
  rw [firstH2c.allocated, firstC2h.allocated] at workingSecond
  refine ⟨xdev, final, ran, ?_⟩
  rw [workingFirst, workingSecond, workingH2c]
  constructor
  · intro succeed
    obtain ⟨⟨zero, one⟩, ⟨four, five⟩, two, three⟩ := succeed
    intro i below
    match i with
    | 0 => exact zero
    | 1 => exact one
    | 2 => exact two
    | 3 => exact three
    | 4 => exact four
    | 5 => exact five
  · intro succeed
    exact ⟨⟨succeed 0 (by decide), succeed 1 (by decide)⟩, ⟨succeed 4 (by decide),
      succeed 5 (by decide)⟩, succeed 2 (by decide), succeed 3 (by decide)⟩

/-! ## The probe -/

theorem xdmaProbe_succeeds (succeeds : Succeeds outcome readReg registry) :
    (xdmaProbe outcome readReg pdev registry).1 = 0 := by
  by_contra failure
  exact (xdmaProbe_probed rfl).failure failure succeeds

theorem xdmaProbe_fails (fails : ¬ Succeeds outcome readReg registry) :
    (xdmaProbe outcome readReg pdev registry).1 < 0 := by
  cases ran : xdmaProbe outcome readReg pdev registry with
  | mk rv next =>
      have probed := xdmaProbe_probed ran
      cases probed with
      | noMemory => exact (by decide : -ENOMEM < 0)
      | unmapped | refused => exact (by decide : -EINVAL < 0)
      | probed allocated mapped created =>
          have success := (ProbeResult.probed allocated mapped created).success rfl
          exact absurd success.1 fails

theorem probeChannels_fails (fails : ¬ Succeeds outcome readReg registry) :
    ∃ rv, rv < 0 ∧
      probeChannels outcome readReg pdev registry answers xdev state = (.ok (rv, xdev), state) := by
  have negative := @xdmaProbe_fails outcome readReg pdev registry fails
  refine ⟨_, negative, ?_⟩
  simp only [probeChannels, negative, if_true]
  rfl

theorem probeChannels_succeeds (succeeds : Succeeds outcome readReg registry) :
    probeChannels outcome readReg pdev registry answers xdev state =
      (xdmaChannelInit answers xdev >>= fun xdev => pure ((0 : Int), xdev) : KernelM _) state := by
  have zero := @xdmaProbe_succeeds outcome readReg pdev registry succeeds
  simp only [probeChannels, zero, Int.lt_irrefl, if_false]

/-- A probe keeps its promise exactly when it fails before it comes to the channels, or
BAR 1 is mapped and none of the six allocations fails. -/
theorem probe_all_or_nothing_iff :
    ProbesAllOrNothing answers state
        (probeChannels outcome readReg pdev registry answers (XdmaDev.allocated idx bars) state) ↔
      (Succeeds outcome readReg registry → MemoryForAll answers bars state.allocated) := by
  by_cases succeeds : Succeeds outcome readReg registry
  · rw [probeChannels_succeeds succeeds, imp_iff_right succeeds]
    cases mapped : bars 1 with
    | none =>
        obtain ⟨stopped, faulty⟩ := @xdmaChannelInit_unmapped answers bars idx mapped state
        rw [bind_error faulty]
        refine iff_of_false ?_ ?_
        · intro promise
          obtain ⟨_, _, _, same, _⟩ := promise
          cases same
        · intro memory
          exact absurd memory.1 (by simp [mapped])
    | some base =>
        obtain ⟨xdev, final, ran, working⟩ :=
          @channels_working_iff answers bars idx base mapped state
        rw [bind_ok ran]
        constructor
        · intro promise
          obtain ⟨_, _, _, same, promised⟩ := promise
          cases same
          exact ⟨by rw [mapped]; rfl, working.mp promised⟩
        · intro memory
          exact ⟨0, xdev, final, rfl, working.mpr memory.2⟩
  · obtain ⟨rv, negative, ran⟩ := @probeChannels_fails answers outcome readReg pdev registry state
      (XdmaDev.allocated idx bars) succeeds
    rw [ran]
    refine iff_of_true ⟨rv, _, state, rfl, ?_⟩ fun here => absurd here succeeds
    rw [if_neg (Int.ne_of_lt negative)]
    refine ⟨negative, ?_⟩
    intro block outstanding
    obtain ⟨low, high, _⟩ := outstanding
    exact absurd high (Nat.not_lt.mpr low)

/-- Every allocation but that of the table of C2H channel 1 succeeds. -/
def tableMissing (attempt : Nat) : Option (BitVec 64) := if attempt = 1 then none else some 0x10000

/-- The probe answers 0 all the same, and the card is told that the table is at address 0. -/
theorem missing_table_probed :
    ∃ xdev final,
      probeChannels ProbeOutcome.allOk es5341Turn.readReg es5341Turn.pdev
        (Plugged.start ⟨true, true, true⟩ givenMajors).registry tableMissing
        (.allocated 0 fun _ => some 1) .booted = (.ok (0, xdev), final) ∧
      (xdev.cfg 1 0).pFirstDesc = none ∧ final.regs 1 (descLow 1 0) = 0 ∧
      ¬ ProbesAllOrNothing tableMissing .booted (.ok (0, xdev), final) := by
  have succeeds : Succeeds ProbeOutcome.allOk es5341Turn.readReg
      (Plugged.start ⟨true, true, true⟩ givenMajors).registry :=
    ⟨by decide, ⟨"es5341".toList, 0, by decide, by decide⟩, by decide, by decide, by decide⟩
  obtain ⟨xdev, first, second, final, ran, _, _, _, firstC2h, firstH2c, secondC2h⟩ :=
    @xdmaChannelInit_prepared tableMissing (fun _ => some 1) 0 1 rfl .booted
  refine ⟨xdev, final, ?_, firstC2h.tabled.pFirstDesc, ?_, ?_⟩
  · rw [probeChannels_succeeds succeeds, bind_ok ran]
    rfl
  · rw [secondC2h.spares.regs 1 _ (by decide), firstH2c.spares.regs 1 _ (by decide), firstC2h.low,
      firstC2h.tabled.phys]
    rfl
  · intro promise
    obtain ⟨_, _, _, same, promised⟩ := promise
    cases same
    obtain ⟨_, _, _, _, found, _⟩ := promised.1.table
    exact nomatch firstC2h.tabled.pFirstDesc.symm.trans found

end Vi53xx.Driver
