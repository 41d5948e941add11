import Vi53xx.Driver.FreeResourceProperties
import Vi53xx.Driver.SetupProperties

/-! The memory of a board that has been probed is what the setup of its channels has
allocated, by the addresses it has been given. -/

set_option autoImplicit false

namespace Vi53xx.Driver

open Foundation Foundation.Program

/-- The blocks of one channel are those of the two attempts of its setup. -/
structure Supplied (answers : Nat → Option (BitVec 64)) (before : Kernel) (cfg : XdmaCfgInfo)
    (after : Kernel) : Prop where
  buffers : cfg.bufferBlocks = (dmaBlock answers before.allocated).toList
  table : cfg.tableBlock = (dmaBlock answers (before.allocated + 1)).toList
  allocated : after.allocated = before.allocated + 2

variable {answers : Nat → Option (BitVec 64)} {xdev : XdmaDev} {cfg filled : XdmaCfgInfo}
  {state final : Kernel} {base idx : Nat} {bars : Fin xdmaBarNum → Option Nat} {dir : Fin 2}
  {index : Fin xdmaChannelNum}

/-! ## One channel -/

theorem xdmaPhysicalAddressInit_bufferAt (single : cfg.sgDescNum = descNum)
    (fresh : cfg.pData 0 = none)
    (ran : xdmaPhysicalAddressInit answers cfg state = (.ok filled, final)) :
    filled.bufferAt 0 = dmaBlock answers state.allocated := by
  have turns : cfg.sgDescNum.toNat = 1 := by
    rw [single]
    rfl
  unfold xdmaPhysicalAddressInit at ran
  rw [turns] at ran
  cases succeeded : answers state.allocated with
  | none =>
      simp only [physicalAddressLoop, bind_ok (dmaAllocCoherent_run state), succeeded] at ran
      cases ran
      simp [XdmaCfgInfo.bufferAt, dmaBlock, fresh, succeeded]
  | some phys =>
      simp only [physicalAddressLoop, bind_ok (dmaAllocCoherent_run state), succeeded] at ran
      cases ran
      simp [XdmaCfgInfo.bufferAt, dmaBlock, succeeded]

theorem xdmaDescAlloc_bufferAt (single : cfg.sgDescNum = descNum)
    (ran : xdmaDescAlloc answers cfg state = (.ok filled, final)) :
    filled.bufferAt = cfg.bufferAt := by
  cases succeeded : answers state.allocated with
  | none =>
      unfold xdmaDescAlloc at ran
      rw [bind_ok (dmaAllocCoherent_run state), succeeded] at ran
      cases ran
      rfl
  | some phys =>
      have one : cfg.sgDescNum.toNat = 1 := by
        rw [single]
        rfl
      obtain ⟨descs, chained, _⟩ := @xdmaDescAlloc_chain cfg phys state answers
        (Nat.le_of_eq one.symm) (one ▸ by decide) succeeded
      cases ran.symm.trans chained
      rfl

theorem bufferBlocks_single (single : cfg.sgDescNum = descNum) :
    cfg.bufferBlocks = (cfg.bufferAt 0).toList := by
  have one : cfg.sgDescNum.toNat = 1 := by
    rw [single]
    rfl
  have first : (List.finRange maxDescNum).take 1 = [0] := by decide
  rw [XdmaCfgInfo.bufferBlocks, one, first]
  cases found : cfg.bufferAt 0 with
  | none | some block => simp [found]

theorem setupChannel_supplied (dir : Fin 2) (index : Fin xdmaChannelNum) (state : Kernel)
    (mapped : xdev.bar 1 = some base) :
    ∃ ready final, setupChannel answers xdev (unset dir index) state = (.ok ready, final) ∧
      Supplied answers state ready final := by
  obtain ⟨ready, final, ran, prepared⟩ := @setupChannel_prepared xdev answers base dir index state mapped
  refine ⟨ready, final, ran, ?_, ?_, prepared.allocated⟩
  · rw [bufferBlocks_single prepared.setUp.sgDescNum]
    unfold setupChannel xdmaCreateTransfer at ran
    obtain ⟨filled, first, ranInit, ran⟩ := bind_eq_ok ran
    obtain ⟨_, second, _, ran⟩ := bind_eq_ok ran
    obtain ⟨_, third, _, ran⟩ := bind_eq_ok ran
    obtain ⟨described, fourth, ranDesc, ran⟩ := bind_eq_ok ran
    obtain ⟨_, fifth, _, ran⟩ := bind_eq_ok ran
    cases ran
    obtain ⟨_, _, again, filledSetUp, _⟩ := @vi53xxInfoInit_run answers dir index state
    cases ranInit.symm.trans again
    rw [vi53xxInfoInit_unset] at ranInit
    rw [xdmaDescAlloc_bufferAt filledSetUp.sgDescNum ranDesc]
    exact congrArg Option.toList (xdmaPhysicalAddressInit_bufferAt rfl rfl ranInit)
  · rw [XdmaCfgInfo.tableBlock, prepared.tabled.pFirstDesc, prepared.tabled.phys, dmaBlock]
    cases answers (state.allocated + 1) with
    | none | some phys => rfl

/-! ## A board -/

/-- The second H2C channel is never set up. -/
theorem unset_blocks : (unset dir index).bufferBlocks = [] ∧ (unset dir index).tableBlock = [] :=
  ⟨rfl, rfl⟩

theorem dmaTaken_six (advanced : final.allocated = state.allocated + 6) :
    dmaTaken answers state final = (dmaBlock answers state.allocated).toList ++
      (dmaBlock answers (state.allocated + 1)).toList ++
      (dmaBlock answers (state.allocated + 2)).toList ++
      (dmaBlock answers (state.allocated + 3)).toList ++
      (dmaBlock answers (state.allocated + 4)).toList ++
      (dmaBlock answers (state.allocated + 5)).toList := by
  have attempts : List.range' state.allocated (final.allocated - state.allocated) =
      [state.allocated, state.allocated + 1, state.allocated + 2, state.allocated + 3,
        state.allocated + 4, state.allocated + 5] := by
    rw [advanced, Nat.add_sub_cancel_left]
    rfl
  rw [dmaTaken, attempts]
  simp only [List.filterMap_cons, List.filterMap_nil]
  cases dmaBlock answers state.allocated <;> cases dmaBlock answers (state.allocated + 1) <;>
    cases dmaBlock answers (state.allocated + 2) <;> cases dmaBlock answers (state.allocated + 3) <;>
    cases dmaBlock answers (state.allocated + 4) <;> cases dmaBlock answers (state.allocated + 5) <;>
    rfl

theorem xdmaChannelInit_memory
    (ran : xdmaChannelInit answers (.allocated idx bars) state = (.ok xdev, final)) :
    (dmaTaken answers state final).Perm xdev.memory := by
  obtain ⟨ready, advanced⟩ := xdmaChannelInit_ready ran
  obtain ⟨base, mapped⟩ := Option.isSome_iff_exists.mp ready.mapped
  obtain ⟨_, first, second, _, again, _, _, spare, firstC2h, firstH2c, secondC2h⟩ :=
    @xdmaChannelInit_channels answers idx bars
      (fun _ _ before cfg after => Supplied answers before cfg after)
      (fun xdev same dir index before =>
        @setupChannel_supplied answers xdev base dir index before (same ▸ mapped)) state
  cases ran.symm.trans again
  have spared := @unset_blocks 0 1
  rw [← spare] at spared
  have two : first.allocated = state.allocated + 2 := firstC2h.allocated
  have four : second.allocated = state.allocated + 4 := by rw [firstH2c.allocated, two]
  have h2cTable : (xdev.h2cDmaCfg 0).tableBlock = (dmaBlock answers (state.allocated + 3)).toList := by
    rw [firstH2c.table, two]
  have c2hTable : (xdev.c2hDmaCfg 1).tableBlock = (dmaBlock answers (state.allocated + 5)).toList := by
    rw [secondC2h.table, four]
  rw [dmaTaken_six advanced.allocated]
  refine List.perm_iff_count.mpr ?_
  intro block
  simp only [XdmaDev.memory, XdmaDev.cfg, if_true, one_ne_zero, if_false, firstC2h.buffers,
    firstC2h.table, firstH2c.buffers, h2cTable, secondC2h.buffers, c2hTable, spared.1, spared.2, two,
    four, List.count_append, List.count_nil]
  omega

end Vi53xx.Driver
