import Vi53xx.Driver.TransferProperties

/-! What the requests for buffers and registers are answered with: the number of bytes
that their copy leaves out, in an `int`, unless they run into a fault. -/

set_option autoImplicit false

namespace Vi53xx.Driver

open Foundation Foundation.Program

variable {missed : Nat} {transfer : Transfer} {xdev : XdmaDev} {info : XdmaInfo} {state : Kernel}
  {outcome : CopyOutcome} {index : Fin xdmaChannelNum}

/-! ## Numbers of bytes -/

theorem copyResult_eq_zero : copyResult missed = 0 ↔ missed % 2 ^ 32 = 0 := by
  unfold copyResult
  rw [← BitVec.toNat_ofNat]
  constructor
  · intro zero
    have same : BitVec.ofNat 32 missed = 0#32 := BitVec.eq_of_toInt_eq zero
    rw [same]
    rfl
  · intro zero
    have same : BitVec.ofNat 32 missed = 0#32 := BitVec.eq_of_toNat_eq zero
    rw [same]
    rfl

theorem copyResult_neg : copyResult missed < 0 ↔ 2 ^ 31 ≤ missed % 2 ^ 32 := by
  unfold copyResult
  rw [BitVec.toInt_neg_iff, BitVec.toNat_ofNat]
  omega

/-! ## Buffers -/

theorem entryAt_outside {Entry : Type} {table : Fin xdmaChannelNum → Entry} {channel : BitVec 32}
    (outside : ∀ index : Fin xdmaChannelNum, channel ≠ BitVec.ofNat 32 (index.val + 1)) :
    entryAt table (channel.toInt - 1) = none := by
  unfold entryAt
  refine dif_neg ?_
  intro bounds
  obtain ⟨low, high⟩ := bounds
  have index : channel.toInt - 1 = 0 ∨ channel.toInt - 1 = 1 := by
    have small : (channel.toInt - 1).toNat < 2 := high
    omega
  rcases inTable_channel.mp index with first | second
  · exact outside 0 first
  · exact outside 1 second

theorem copy_null : transfer.copy none info missed =
    if info.len.toNat = 0 then pure (copyResult missed) else fault .nullPointer := by
  cases transfer with
  | write | read | dump => rfl

theorem transfer_found (number : info.channel = BitVec.ofNat 32 (index.val + 1))
    (found : ((transfer.cfgs xdev index).pData 0).isSome ∨ info.len = 0) :
    (runCommand xdev transfer.cmd info outcome state).1 = .ok (copyResult outcome.dataMissed) := by
  rw [runCommand_transfer number]
  cases allocated : (transfer.cfgs xdev index).pData 0 with
  | some block =>
      cases transfer with
      | write | read | dump => rfl
  | none =>
      have empty : info.len.toNat = 0 := by
        rcases found with some | none
        · rw [allocated] at some
          cases some
        · rw [none]
          rfl
      rw [copy_null, if_pos empty]
      rfl

/-- Without a buffer, or outside the tables, the driver does not get to answer. -/
theorem transfer_lost
    (lost : ¬ ∃ index : Fin xdmaChannelNum, info.channel = BitVec.ofNat 32 (index.val + 1) ∧
      (((transfer.cfgs xdev index).pData 0).isSome ∨ info.len = 0)) :
    ∃ fault, (runCommand xdev transfer.cmd info outcome state).1 = .error fault := by
  by_cases named : ∃ index : Fin xdmaChannelNum, info.channel = BitVec.ofNat 32 (index.val + 1)
  · obtain ⟨index, number⟩ := named
    obtain ⟨missing, positive⟩ := not_or.mp fun found => lost ⟨index, number, found⟩
    have some : info.len.toNat ≠ 0 := fun zero => positive (BitVec.eq_of_toNat_eq zero)
    refine ⟨.nullPointer, ?_⟩
    rw [runCommand_transfer number, Option.not_isSome_iff_eq_none.mp missing]
    rw [copy_null, if_neg some]
    rfl
  · have outside := fun index number => named ⟨index, number⟩
    refine ⟨.outOfBounds, ?_⟩
    cases transfer with
    | write | dump =>
        exact congrArg Prod.fst (bind_error (h2cDmaCfg_outside (entryAt_outside outside)))
    | read =>
        exact congrArg Prod.fst (bind_error (c2hDmaCfg_outside (entryAt_outside outside)))

/-! ## Registers -/

theorem entryAt_bar {bar : BitVec 32} (passed : bar = 0 ∨ bar = 1) :
    ∃ base, entryAt xdev.bar bar.toInt = some base := by
  rcases passed with rfl | rfl
  · exact ⟨xdev.bar 0, rfl⟩
  · exact ⟨xdev.bar 1, rfl⟩

/-- A register behind a mapped BAR is read and copied, or written without a copy. -/
theorem register_found (mapped : xdev.MappedBar info.bar.toInt)
    (known : info.wr = 0 ∨ (info.wr = 1 ∧ outcome.dataMissed = 0)) :
    (runCommand xdev .reg info outcome state).1 = .ok (copyResult outcome.dataMissed) := by
  obtain ⟨block, entry⟩ := mapped
  have ran : runCommand xdev .reg info outcome state = _ := bind_ok (regBase_entry entry)
  rw [ran]
  rcases known with read | ⟨write, whole⟩
  · rw [if_pos read]
    rfl
  · have other : info.wr ≠ 0 := by
      rw [write]
      decide
    rw [if_neg other, if_pos write, whole]
    rfl

theorem register_lost (passed : info.bar = 0 ∨ info.bar = 1)
    (unmapped : ¬ xdev.MappedBar info.bar.toInt) (known : info.wr = 0 ∨ info.wr = 1) :
    ∃ fault, (runCommand xdev .reg info outcome state).1 = .error fault := by
  obtain ⟨base, entry⟩ := @entryAt_bar xdev _ passed
  cases base with
  | some block => exact absurd ⟨block, entry⟩ unmapped
  | none =>
      have ran : runCommand xdev .reg info outcome state = _ := bind_ok (regBase_entry entry)
      refine ⟨.nullPointer, ?_⟩
      rw [ran]
      rcases known with read | write
      · rw [if_pos read]
        rfl
      · have other : info.wr ≠ 0 := by
          rw [write]
          decide
        rw [if_neg other, if_pos write]
        rfl

end Vi53xx.Driver
