import Vi53xx.Driver.ChannelInitProperties
import Vi53xx.Driver.XdmaCtrlProperties

/-! The bytes of DMA memory that the requests with a buffer touch. The position
is narrowed to an `int`, and neither it nor the length is compared with the size. -/

set_option autoImplicit false

namespace Vi53xx.Driver

open Foundation Foundation.Program

/-- The requests that copy to or from the buffer of a channel. -/
inductive Transfer where
  | write
  | read
  | dump
  deriving DecidableEq, Repr

namespace Transfer

def cmd : Transfer → XdmaCmd
  | .write => .init
  | .read => .print
  | .dump => .dump

def cfgs (xdev : XdmaDev) : Transfer → Fin xdmaChannelNum → XdmaCfgInfo
  | .write | .dump => xdev.h2cDmaCfg
  | .read => xdev.c2hDmaCfg

def tableAccess (index : Int) : Transfer → Access
  | .write | .dump => .h2cDmaCfg index
  | .read => .c2hDmaCfg index

def copy (pData : Option Nat) (info : XdmaInfo) (missed : Nat) : Transfer → KernelM Int
  | .write => copyFromUser pData (posInt info) info.buf info.len.toNat missed
  | .read | .dump => copyToUser pData (posInt info) info.buf info.len.toNat missed

/-- How many bytes of the buffer the copy touches; what it misses on the way in it clears. -/
def touched (info : XdmaInfo) (missed : Nat) : Transfer → Nat
  | .write => info.len.toNat
  | .read | .dump => info.len.toNat - missed

end Transfer

def Access.Within (block size : Nat) : Access → Prop
  | .buffer other start length =>
      ∀ place, start ≤ place → place < start + length → other = block ∧ 0 ≤ place ∧ place < size
  | _ => True

def TurnedDown (state : Kernel) (ran : Except Fault Int × Kernel) : Prop :=
  ∃ ret, ran.1 = .ok ret ∧ ret < 0 ∧ ran.2.buffers = state.buffers ∧ ran.2.user = state.user

/-- The request stays inside the buffer, and one that asks for more is turned down. -/
def Contained (block size : Nat) (info : XdmaInfo) (state : Kernel)
    (ran : Except Fault Int × Kernel) : Prop :=
  (∀ access ∈ ran.2.trace, access.Within block size) ∧
    (size < info.pos.toNat + info.len.toNat → TurnedDown state ran)

variable {transfer : Transfer} {xdev : XdmaDev} {info : XdmaInfo} {state : Kernel}
  {outcome : CopyOutcome} {index : Fin xdmaChannelNum} {block size missed : Nat}
  {answers : Nat → Option (BitVec 64)} {attempt idx : Nat} {bars : Fin xdmaBarNum → Option Nat}

theorem copy_answer :
    ∃ after, transfer.copy (some block) info missed state = (.ok (copyResult missed), after) ∧
      after.trace = .buffer block (posInt info) (transfer.touched info missed) :: state.trace := by
  cases transfer with
  | write | read | dump => exact ⟨_, rfl, rfl⟩

theorem entryAt_channel {Entry : Type} {table : Fin xdmaChannelNum → Entry} {channel : BitVec 32}
    (number : channel = BitVec.ofNat 32 (index.val + 1)) :
    entryAt table (channel.toInt - 1) = some (table index) := by
  subst number
  match index with
  | 0 => rfl
  | 1 => rfl

theorem runCommand_transfer (number : info.channel = BitVec.ofNat 32 (index.val + 1)) :
    runCommand xdev transfer.cmd info outcome state =
      transfer.copy ((transfer.cfgs xdev index).pData 0) info outcome.dataMissed
        { state with trace := transfer.tableAccess (info.channel.toInt - 1) :: state.trace } := by
  cases transfer with
  | write => exact bind_ok (h2cDmaCfg_run (entryAt_channel number))
  | read => exact bind_ok (c2hDmaCfg_run (entryAt_channel number))
  | dump => exact bind_ok (h2cDmaCfg_run (entryAt_channel number))

theorem answer_ioctl {cmd : XdmaCmd} (copied : outcome.infoMissed = 0) :
    answer xdev (.ioctl (rtpcIoctlXdma cmd) info outcome) = runCommand xdev cmd info outcome := by
  have read : copyResult outcome.infoMissed.val = 0 := copyResult_infoMissed.mpr copied
  simp [answer, vi53xxIoctl, vi53xxIoctlXdma, read]

theorem answer_unread {cmd : XdmaCmd} (missed : outcome.infoMissed ≠ 0) :
    answer xdev (.ioctl (rtpcIoctlXdma cmd) info outcome) =
      pure (copyResult outcome.infoMissed.val) := by
  have unread : copyResult outcome.infoMissed.val ≠ 0 := fun read =>
    missed (copyResult_infoMissed.mp read)
  simp [answer, vi53xxIoctl, vi53xxIoctlXdma, unread]

/-! ## Sizes -/

theorem Ready.size_lt (ready : Ready answers attempt idx bars xdev)
    (allocated : (transfer.cfgs xdev index).pData 0 = some block) :
    (transfer.cfgs xdev index).size.toNat < 2 ^ 31 := by
  have toCard : ∀ index, (xdev.h2cDmaCfg index).pData 0 = some block →
      (xdev.h2cDmaCfg index).size.toNat < 2 ^ 31 := by
    intro index allocated
    match index with
    | 0 =>
        rw [ready.firstH2c.size]
        decide
    -- Channel 2 to the card has no buffer.
    | 1 =>
        rw [ready.secondH2c] at allocated
        cases allocated
  have fromCard : ∀ index, (xdev.c2hDmaCfg index).size.toNat < 2 ^ 31 := by
    intro index
    match index with
    | 0 =>
        rw [ready.firstC2h.size]
        decide
    | 1 =>
        rw [ready.secondC2h.size]
        decide
  cases transfer with
  | write | dump => exact toCard index allocated
  | read => exact fromCard index

theorem posInt_eq (small : info.pos.toNat < 2 ^ 31) : posInt info = info.pos.toNat := by
  have kept : (info.pos.setWidth 32).toNat = info.pos.toNat := by
    rw [BitVec.toNat_setWidth, Nat.mod_eq_of_lt (by omega)]
  unfold posInt
  rw [BitVec.toInt_eq_toNat_of_lt (by omega), kept]

theorem touched_le : transfer.touched info missed ≤ info.len.toNat := by
  cases transfer with
  | write => exact Nat.le_refl _
  | read | dump => exact Nat.sub_le _ _

/-! ## Requests that fit -/

theorem copy_contained (narrow : size < 2 ^ 31) (fits : info.pos.toNat + info.len.toNat ≤ size) :
    (Access.buffer block (posInt info) (transfer.touched info missed)).Within block size := by
  intro place low high
  rw [posInt_eq (by omega)] at low high
  have least := @touched_le transfer info missed
  exact ⟨rfl, by omega, by omega⟩

variable {devices : Nat → XdmaDev} {board : Nat}

def transferred (devices : Nat → XdmaDev) (state : Kernel) (board : Nat) (transfer : Transfer)
    (info : XdmaInfo) (outcome : CopyOutcome) : Except Fault Int × Kernel :=
  handled devices state ⟨board, .ioctl (rtpcIoctlXdma transfer.cmd) info outcome⟩

theorem transferred_trace (number : info.channel = BitVec.ofNat 32 (index.val + 1))
    (allocated : (transfer.cfgs (devices board) index).pData 0 = some block)
    (copied : outcome.infoMissed = 0) :
    ∃ after, transferred devices state board transfer info outcome =
        (.ok (copyResult outcome.dataMissed), after) ∧
      after.trace = [.buffer block (posInt info) (transfer.touched info outcome.dataMissed),
        transfer.tableAccess (info.channel.toInt - 1)] := by
  unfold transferred handled
  rw [answer_ioctl copied, runCommand_transfer number, allocated]
  exact copy_answer

theorem tableAccess_within {place : Int} : (transfer.tableAccess place).Within block size := by
  cases transfer with
  | write | read | dump => trivial

theorem transferred_contained (number : info.channel = BitVec.ofNat 32 (index.val + 1))
    (allocated : (transfer.cfgs (devices board) index).pData 0 = some block)
    (narrow : size < 2 ^ 31) (fits : info.pos.toNat + info.len.toNat ≤ size) :
    Contained block size info state (transferred devices state board transfer info outcome) := by
  refine ⟨?_, fun larger => absurd fits (Nat.not_le_of_lt larger)⟩
  by_cases copied : outcome.infoMissed = 0
  · obtain ⟨after, ran, trace⟩ := transferred_trace number allocated copied
    rw [ran]
    intro access member
    rw [trace] at member
    rcases List.mem_cons.mp member with rfl | rest
    · exact copy_contained narrow fits
    · rw [List.mem_singleton.mp rest]
      exact tableAccess_within
  · unfold transferred handled
    rw [answer_unread copied]
    intro access member
    cases member

/-- A copy that leaves nothing out answers 0, however much it was asked for. -/
theorem fits_of_contained (number : info.channel = BitVec.ofNat 32 (index.val + 1))
    (allocated : (transfer.cfgs (devices board) index).pData 0 = some block)
    (contained : Contained block size info state
      (transferred devices state board transfer info .complete)) :
    info.pos.toNat + info.len.toNat ≤ size := by
  -- A request that is too large must be refused, but a complete copy answers 0.
  by_contra larger
  obtain ⟨ret, refused, negative, _⟩ := contained.2 (Nat.lt_of_not_le larger)
  obtain ⟨after, ran, _⟩ :=
    @transferred_trace transfer info state .complete index block devices board number allocated rfl
  rw [ran] at refused
  cases refused
  exact absurd negative (by decide)

end Vi53xx.Driver
