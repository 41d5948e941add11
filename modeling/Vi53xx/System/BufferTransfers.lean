import Vi53xx.Driver.TransferProperties
import Vi53xx.System.TableIndices

/-! Transfers of the library to and from the DMA buffer of a channel. -/

set_option autoImplicit false

namespace Vi53xx.System

open Foundation Driver

def requested (info : XdmaInfo) : Transfer → Lib.Forwarded
  | .write => Lib.vi53xxXdmaWrite (some info)
  | .read => Lib.vi53xxXdmaRead (some info)
  | .dump => Lib.vi53xxXdmaDump (some info)

variable {transfer : Transfer} {info : XdmaInfo} {request : BitVec 32 × XdmaInfo}

theorem bufferRequest_forwards {cmd : XdmaCmd}
    (forwarded : Lib.bufferRequest cmd (some info) = .ok request) :
    request = (rtpcIoctlXdma cmd, info) := by
  simp only [Lib.bufferRequest] at forwarded
  split_ifs at forwarded
  cases forwarded
  rfl

theorem requested_forwards (forwarded : requested info transfer = .ok request) :
    request = (rtpcIoctlXdma transfer.cmd, info) := by
  cases transfer with
  | write => exact bufferRequest_forwards forwarded
  | read => exact bufferRequest_forwards forwarded
  | dump =>
      simp only [requested, Lib.vi53xxXdmaDump] at forwarded
      split_ifs at forwarded
      cases forwarded
      rfl

/-- On a channel with a buffer, a transfer that the library lets through stays in
the buffer, or is turned down, exactly when it fits. -/
theorem transfers_contained_iff {devices : Nat → XdmaDev} {board idx block : Nat}
    {answers : Nat → Option (BitVec 64)} {bars : Fin xdmaBarNum → Option Nat} {before : Kernel}
    {index : Fin xdmaChannelNum} (state : Kernel)
    (probed : Probed answers idx bars before (devices board))
    (forwarded : requested info transfer = .ok request)
    (number : info.channel = BitVec.ofNat 32 (index.val + 1))
    (allocated : (transfer.cfgs (devices board) index).pData 0 = some block) :
    (∀ outcome : CopyOutcome, outcome.dataMissed ≤ info.len.toNat →
      Contained block (transfer.cfgs (devices board) index).size.toNat info state
        (handled devices state ⟨board, .ioctl request.1 request.2 outcome⟩)) ↔
      info.pos.toNat + info.len.toNat ≤ (transfer.cfgs (devices board) index).size.toNat := by
  rw [requested_forwards forwarded]
  constructor
  · intro contained
    exact fits_of_contained number allocated (contained .complete (Nat.zero_le _))
  · intro fits outcome _
    exact transferred_contained number allocated (probed.ready.size_lt allocated) fits

def oneByte (pos : BitVec 64) : XdmaInfo :=
  { XdmaInfo.cleared with channel := 1, buf := 1, pos := pos, len := 1 }

theorem board_probed :
    ∃ xdev final,
      xdmaChannelInit (fun _ => some 0) (.allocated 0 allMapped) .booted = (.ok xdev, final) ∧
      (xdev.h2cDmaCfg 0).pData 0 = some 2 ∧ (xdev.h2cDmaCfg 0).size = 0x2000 := by
  obtain ⟨xdev, final, probed, ready, _⟩ :=
    @xdmaChannelInit_run (fun _ => some 0) 1 0 allMapped .booted rfl
  exact ⟨xdev, final, probed, ready.firstH2c.pData, ready.firstH2c.size⟩

theorem transfers_contained_iff_last :
    ∃ xdev final, Probed (fun _ => some 0) 0 allMapped .booted xdev ∧
      ∀ outcome : CopyOutcome, outcome.dataMissed ≤ 1 →
        Contained 2 (xdev.h2cDmaCfg 0).size.toNat (oneByte 0x1FFF) final
          (handled (fun _ => xdev) final
            ⟨0, .ioctl (rtpcIoctlXdma .init) (oneByte 0x1FFF) outcome⟩) := by
  obtain ⟨xdev, final, ran, allocated, size⟩ := board_probed
  refine ⟨xdev, final, ⟨final, ran⟩, ?_⟩
  refine (@transfers_contained_iff .write (oneByte 0x1FFF) (rtpcIoctlXdma .init, oneByte 0x1FFF)
    (fun _ => xdev) 0 0 2 _ _ _ 0 final ⟨final, ran⟩ (by decide) rfl allocated).mpr ?_
  rw [Transfer.cfgs, size]
  decide

/-- The driver writes the byte behind the last one of the buffer. -/
theorem write_leaves_buffer :
    ∃ xdev final,
      xdmaChannelInit (fun _ => some 0) (.allocated 0 allMapped) .booted = (.ok xdev, final) ∧
      requested (oneByte 0x2000) .write = .ok (rtpcIoctlXdma .init, oneByte 0x2000) ∧
      (xdev.h2cDmaCfg 0).pData 0 = some 2 ∧
      ¬ ∀ outcome : CopyOutcome, outcome.dataMissed ≤ 1 →
        Contained 2 (xdev.h2cDmaCfg 0).size.toNat (oneByte 0x2000) final
          (handled (fun _ => xdev) final
            ⟨0, .ioctl (rtpcIoctlXdma .init) (oneByte 0x2000) outcome⟩) := by
  obtain ⟨xdev, final, ran, allocated, size⟩ := board_probed
  refine ⟨xdev, final, ran, by decide, allocated, ?_⟩
  intro contained
  have fits := @fits_of_contained .write (oneByte 0x2000) final 0 2 _ (fun _ => xdev) 0 rfl
    allocated (contained .complete (Nat.zero_le _))
  rw [size] at fits
  exact absurd fits (by decide)

end Vi53xx.System
