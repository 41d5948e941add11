import Vi53xx.Driver.BufferStoreProperties
import Vi53xx.Driver.FrameProperties
import Vi53xx.Driver.StartProperties
import Vi53xx.System.RegisterRequests
import Vi53xx.System.Stack

/-! What the driver makes of a call about a board: it always answers, and what changes is
the register or the bytes that the call writes. -/

set_option autoImplicit false

namespace Vi53xx.System

open Foundation Foundation.Program Driver

/-! ## The driver -/

/-- Both BARs of registers are mapped, where `bases` says. -/
def BarsMapped (bases : BitVec 32 → Nat) (xdev : XdmaDev) : Prop :=
  ∀ bar : BitVec 32, bar = 0 ∨ bar = 1 → entryAt xdev.bar bar.toInt = some (some (bases bar))

/-- No channel has a chain of descriptors. -/
def Unchained (xdev : XdmaDev) : Prop := ∀ dir index, ¬ 1 < (xdev.cfg dir index).sgDescNum

/-- The size of the buffer for what the first channel sends. -/
def dataSize : Nat := (chAddr 0 1).size.toNat

/-- The sizes of the buffers for what the card sends. -/
def cardSize (index : Fin xdmaChannelNum) : Nat := (chAddr 1 index.succ).size.toNat

/-- The register is aligned, and inside a BAR of the length. -/
def RegisterInside (length : BitVec 64) (offset : BitVec 32) : Prop :=
  4 ∣ offset.toNat ∧ InBar length offset

instance (length : BitVec 64) (offset : BitVec 32) : Decidable (RegisterInside length offset) :=
  inferInstanceAs (Decidable (_ ∧ _))

/-- What a call that the library passes on needs of a board with BARs of these lengths: bytes
inside its buffers, registers inside its BARs, and a channel. -/
def BoardCall.Usable (length : BitVec 32 → BitVec 64) (outcome : CopyOutcome) : BoardCall → Prop
  | .transfer (.buffer .write channel _ pos len) =>
      channel = 1 ∧ pos.toNat + len.toNat ≤ dataSize ∧ outcome.dataMissed = 0
  | .transfer (.buffer .read channel _ pos len) => ∃ index : Fin xdmaChannelNum,
      channel = BitVec.ofNat 32 (index.val + 1) ∧ pos.toNat + len.toNat ≤ cardSize index
  | .transfer (.buffer .dump channel _ pos len) => channel = 1 ∧ pos.toNat + len.toNat ≤ dataSize
  | .transfer (.readRegister bar offset _) | .transfer (.writeRegister bar offset _) =>
      RegisterInside (length bar) offset
  | .start channel direction => channel = 1 ∧ InBar (length 1) (engineReg channel direction)
  | .stop channel direction => channel ≠ 0 ∧ InBar (length 1) (engineReg channel direction)

def BoardCall.Passed : BoardCall → Prop
  | .transfer call => call.Passed
  | .start channel direction | .stop channel direction => ChannelPassed channel direction

def BoardCall.cmd : BoardCall → XdmaCmd
  | .transfer call => call.cmd
  | .start _ _ => .start
  | .stop _ _ => .stop

def BoardCall.info (stack : XdmaInfo) : BoardCall → XdmaInfo
  | .transfer call => call.info stack
  | .start channel direction | .stop channel direction => Lib.channelInfo stack channel direction

def BoardCall.forwarded (stack : XdmaInfo) : BoardCall → Lib.Forwarded
  | .transfer call => call.forwarded stack
  | .start channel direction => Lib.xdmaStart (some (Lib.channelInfo stack channel direction))
  | .stop channel direction => Lib.xdmaStop (some (Lib.channelInfo stack channel direction))

/-- The registers after a write, if there is one. -/
def written (bases : BitVec 32 → Nat) (regs : Nat → BitVec 32 → BitVec 32) :
    Option RegWrite → Nat → BitVec 32 → BitVec 32
  | none => regs
  | some (bar, offset, val) => fun block place =>
      if block = bases bar ∧ place = offset then val else regs block place

variable {bases : BitVec 32 → Nat} {xdev : XdmaDev} {kernel final : Kernel} {stack : XdmaInfo}
  {length : BitVec 32 → BitVec 64} {lengths : Fin xdmaBarNum → BitVec 64} {outcome : CopyOutcome}
  {call : BoardCall} {bar offset val channel direction : BitVec 32}

/-! ### Buffers -/

def KeepsRegs (before after : Kernel) : Prop := after.regs = before.regs

theorem keepsRegs_trans {first second third : Kernel} (before : KeepsRegs first second)
    (after : KeepsRegs second third) : KeepsRegs first third :=
  after.trans before

theorem keepsRegs_transfer {transfer : Transfer} {pData : Option Nat} {info : XdmaInfo} {missed : Nat} :
    Respects KeepsRegs (transfer.copy pData info missed) := by
  have given : Respects KeepsRegs (copyToUser pData (posInt info) info.buf info.len.toNat missed) :=
    respects_copyToUser (fun _ => rfl) keepsRegs_trans (fun _ _ _ => rfl) fun _ _ => rfl
  cases transfer with
  | read | dump => exact given
  | write =>
      intro state
      cases pData with
      | none =>
          dsimp only [Transfer.copy, copyFromUser]
          split <;> rfl
      | some block => rfl

theorem buffer_regs {transfer : Transfer} {buff pos len : BitVec 64} (copied : outcome.infoMissed = 0)
    (found : (TransferCall.buffer transfer channel buff pos len).Found xdev) :
    ∃ ret final, answer xdev (.ioctl (rtpcIoctlXdma transfer.cmd)
        (Lib.bufferInfo stack channel buff pos len) outcome) kernel = (.ok ret, final) ∧
      final.regs = kernel.regs := by
  obtain ⟨index, number, buffer⟩ := found
  rw [answer_ioctl copied]
  have ran := @runCommand_transfer transfer xdev (Lib.bufferInfo stack channel buff pos len) kernel
    outcome index number
  have answered := @transfer_found transfer xdev (Lib.bufferInfo stack channel buff pos len) kernel
    outcome index number buffer
  refine ⟨_, _, Prod.ext answered rfl, ?_⟩
  rw [ran]
  exact keepsRegs_transfer _

/-! ### Registers -/

theorem regBase_mapped (mapped : BarsMapped bases xdev) (known : bar = 0 ∨ bar = 1) :
    regBase xdev bar.toInt kernel = (.ok (some (bases bar)), kernel.logged (.bar bar.toInt true)) :=
  regBase_entry (mapped bar known)

theorem readRegister_regs {addr : BitVec 64} (mapped : BarsMapped bases xdev) (known : bar = 0 ∨ bar = 1)
    (copied : outcome.infoMissed = 0) :
    ∃ ret final, answer xdev (.ioctl (rtpcIoctlXdma .reg)
        ((TransferCall.readRegister bar offset addr).info stack) outcome) kernel = (.ok ret, final) ∧
      final.regs = kernel.regs ∧
      (outcome.dataMissed = 0 → wordAt final.user addr = kernel.regs (bases bar) offset) := by
  have ran : answer xdev (.ioctl (rtpcIoctlXdma .reg)
      ((TransferCall.readRegister bar offset addr).info stack) outcome) kernel =
      copyValueToUser (kernel.regs (bases bar) offset) addr outcome.dataMissed
        (kernel.logged (.bar bar.toInt true)) := by
    rw [answer_ioctl copied]
    exact (bind_ok (regBase_mapped mapped known)).trans rfl
  refine ⟨_, _, ran, rfl, ?_⟩
  intro whole
  rw [whole]
  exact copied_word _

theorem writeRegister_regs (mapped : BarsMapped bases xdev) (known : bar = 0 ∨ bar = 1)
    (copied : outcome.infoMissed = 0) :
    ∃ ret final, answer xdev (.ioctl (rtpcIoctlXdma .reg)
        ((TransferCall.writeRegister bar offset val).info stack) outcome) kernel = (.ok ret, final) ∧
      final.regs = written bases kernel.regs (some (bar, offset, val)) := by
  rw [answer_ioctl copied]
  exact ⟨_, _, (bind_ok (regBase_mapped mapped known)).trans rfl, rfl⟩

theorem xdmaStop_regs (mapped : BarsMapped bases xdev) {number dir : BitVec 8} :
    ∃ final, Driver.xdmaStop xdev number dir kernel = (.ok (), final) ∧
      final.regs = written bases kernel.regs
        (some (1, channelReg (controlReg dir) (number - 1), DMA_STOP)) :=
  ⟨_, (bind_ok (regBase_mapped mapped (.inr rfl))).trans rfl, rfl⟩

theorem xdmaStart_regs (mapped : BarsMapped bases xdev) {number dir : BitVec 8} :
    ∃ final, Driver.xdmaStart xdev number dir kernel = (.ok (), final) ∧
      final.regs = written bases kernel.regs
        (some (1, channelReg (controlReg dir) (number - 1), engineStart)) :=
  ⟨_, (bind_ok (regBase_mapped mapped (.inr rfl))).trans rfl, rfl⟩

theorem direction_cases {dir : BitVec 8} (directed : dir ≤ 1) : dir = H2C_DIR ∨ dir = C2H_DIR := by
  unfold H2C_DIR C2H_DIR
  bv_omega

theorem startCfg_found {dir : BitVec 8} {uninitialised : XdmaCfgInfo} (unchained : Unchained xdev)
    (directed : dir ≤ 1) :
    ∃ cfg final, startCfg xdev 1 dir uninitialised kernel = (.ok cfg, final) ∧
      ¬ 1 < cfg.sgDescNum ∧ final.regs = kernel.regs := by
  rcases direction_cases directed with rfl | rfl
  · exact ⟨_, _, h2cDmaCfg_run rfl, unchained 0 1, rfl⟩
  · exact ⟨_, _, c2hDmaCfg_run rfl, unchained 1 1, rfl⟩

theorem start_regs (mapped : BarsMapped bases xdev) (unchained : Unchained xdev)
    (known : channel = 1) (directed : direction.setWidth 8 ≤ (1 : BitVec 8))
    (copied : outcome.infoMissed = 0) :
    ∃ ret final, answer xdev (.ioctl (rtpcIoctlXdma .start)
        (Lib.channelInfo stack channel direction) outcome) kernel = (.ok ret, final) ∧
      final.regs = written bases kernel.regs
        (some (1, engineReg channel direction, engineStart)) := by
  subst known
  rw [answer_ioctl copied]
  obtain ⟨cfg, first, found, single, same⟩ := @startCfg_found xdev kernel (direction.setWidth 8)
    outcome.uninitialised unchained directed
  have described : xdmaStartDesc xdev ((1 : BitVec 32).setWidth 8) cfg first =
      (.ok (), first.logged (.bar 1 true)) := by
    refine (bind_ok (regBase_mapped mapped (.inr rfl))).trans ?_
    simp only [single, if_false]
    rfl
  obtain ⟨final, started, regs⟩ := @xdmaStart_regs bases xdev (first.logged (.bar 1 true)) mapped
    ((1 : BitVec 32).setWidth 8) (direction.setWidth 8)
  refine ⟨0, final, (bind_ok found).trans ((bind_ok described).trans ((bind_ok started).trans rfl)), ?_⟩
  have before : (first.logged (.bar 1 true)).regs = kernel.regs := same
  rw [regs, before]
  rfl

/-! ### Any call -/

theorem boardCall_sent {state : Lib.LibState} {boardId : BitVec 32} :
    call.sent state stack boardId = Lib.sendTo state boardId (call.forwarded stack) := by
  cases call with
  | transfer sent => exact sent_eq
  | start channel direction => rfl
  | stop channel direction => rfl

theorem channelRequest_passed {cmd : XdmaCmd} (passed : ChannelPassed channel direction) :
    Lib.channelRequest cmd (some (Lib.channelInfo stack channel direction)) =
      .ok (rtpcIoctlXdma cmd, Lib.channelInfo stack channel direction) := by
  obtain ⟨known, directed⟩ := passed
  have inside : ¬ (direction.setWidth 8 < 0 ∨ 1 < direction.setWidth 8) := by bv_omega
  exact (if_neg known).trans (if_neg inside)

theorem channelRequest_refused {cmd : XdmaCmd} (refused : ¬ ChannelPassed channel direction) :
    Lib.channelRequest cmd (some (Lib.channelInfo stack channel direction)) = .error (-1) := by
  by_cases known : Lib.channelRefused channel
  · exact if_pos known
  · refine (if_neg known).trans (if_pos (.inr ?_))
    have beyond : ¬ direction.setWidth 8 ≤ (1 : BitVec 8) := fun directed => refused ⟨known, directed⟩
    exact BitVec.not_le.mp beyond

theorem boardCall_passed (passed : call.Passed) :
    call.forwarded stack = .ok (rtpcIoctlXdma call.cmd, call.info stack) := by
  cases call with
  | transfer sent => exact forwarded_passed passed
  | start channel direction | stop channel direction => exact channelRequest_passed passed

theorem boardCall_refused (refused : ¬ call.Passed) : call.forwarded stack = .error (-1) := by
  cases call with
  | transfer sent => exact forwarded_refused refused
  | start channel direction | stop channel direction => exact channelRequest_refused refused

theorem write_passed {write : RegWrite} (writes : call.write = some write) : call.Passed := by
  cases call with
  | transfer sent =>
      cases sent with
      | writeRegister bar offset val =>
          by_contra refused
          exact absurd (writes.symm.trans (if_neg refused)) (by simp)
      | readRegister | buffer => cases writes
  | start channel direction | stop channel direction =>
      by_contra refused
      exact absurd (writes.symm.trans (if_neg refused)) (by simp)

theorem write_bar {write : RegWrite} (writes : call.write = some write) :
    write.1 = 0 ∨ write.1 = 1 := by
  have passed := write_passed writes
  cases call with
  | transfer sent =>
      cases sent with
      | writeRegister bar offset val =>
          have same : some (bar, offset, val) = some write := (if_pos passed).symm.trans writes
          cases same
          exact passed
      | readRegister | buffer => cases writes
  | start channel direction | stop channel direction =>
      have same := (if_pos passed).symm.trans writes
      cases same
      exact .inr rfl

/-- What a call leaves behind in the registers and in the buffer of the first channel. -/
structure Leaves (bases : BitVec 32 → Nat) (block : Nat) (call : BoardCall) (before after : Kernel) :
    Prop where
  regs : after.regs = written bases before.regs call.write
  cells : ∀ place : Nat, after.buffers block place =
    cellsAfter (fun place => before.buffers block place) (call.piece before.user) place
  others : ∀ other, other ≠ block → after.buffers other = before.buffers other

theorem answer_buffers {cmd : XdmaCmd} {info : XdmaInfo} {ret : Int} (other : cmd ≠ .init)
    (ran : answer xdev (.ioctl (rtpcIoctlXdma cmd) info outcome) kernel = (.ok ret, final)) :
    final.buffers = kernel.buffers := by
  have kept := @request_keeps xdev info outcome cmd kernel kernel.user other
  have same : (request xdev cmd info outcome kernel.user kernel).2 = final := congrArg Prod.snd ran
  rw [same] at kept
  exact kept

theorem leaves_kept {block : Nat} {ret : Int} (other : call.cmd ≠ .init)
    (ran : answer xdev (.ioctl (rtpcIoctlXdma call.cmd) (call.info stack) outcome) kernel = (.ok ret, final))
    (regs : final.regs = written bases kernel.regs call.write) : Leaves bases block call kernel final := by
  have kept := answer_buffers other ran
  have nothing : call.piece kernel.user = none := by
    cases call with
    | transfer sent =>
        cases sent with
        | buffer kind channel buff pos len =>
            cases kind with
            | write => exact absurd rfl other
            | read | dump => rfl
        | readRegister | writeRegister => rfl
    | start | stop => rfl
  refine ⟨regs, ?_, fun _ _ => by rw [kept]⟩
  intro place
  rw [nothing, kept]
  rfl

theorem leaves_written {attempt : Nat} {buff pos len : BitVec 64} (buffered : Buffered attempt xdev)
    (sized : (xdev.h2cDmaCfg 0).size.toNat = dataSize) (pointed : buff ≠ 0)
    (inRange : pos.toNat + len.toNat ≤ dataSize) (copied : outcome.infoMissed = 0)
    (whole : outcome.dataMissed = 0) :
    ∃ ret final, answer xdev (.ioctl (rtpcIoctlXdma .init) (Lib.bufferInfo stack 1 buff pos len) outcome)
        kernel = (.ok ret, final) ∧
      Leaves bases (attempt + 2) (.transfer (.buffer .write 1 buff pos len)) kernel final := by
  have inside : InRange xdev (Lib.bufferInfo stack 1 buff pos len) := ⟨rfl, by rwa [sized]⟩
  obtain ⟨final, ran, cells, others⟩ :=
    @request_init xdev (Lib.bufferInfo stack 1 buff pos len) outcome kernel kernel.user attempt buffered
      inside copied whole
  have found : (TransferCall.buffer .write 1 buff pos len).Found xdev :=
    ⟨0, rfl, .inl (by rw [Transfer.cfgs, buffered.h2c, Option.isSome_some])⟩
  obtain ⟨ret, reached, again, kept⟩ := @buffer_regs xdev kernel stack outcome 1 .write buff pos len
    copied found
  obtain ⟨_, rfl⟩ := Prod.mk.inj (again.symm.trans ran)
  refine ⟨0, reached, ran, kept, ?_, others⟩
  have sent : (BoardCall.transfer (.buffer .write 1 buff pos len)).piece kernel.user =
      some (piece (Lib.bufferInfo stack 1 buff pos len) kernel.user) := if_neg pointed
  intro place
  rw [sent]
  exact cells place

/-- A call that the library passes on and the driver reads is answered, and leaves behind
what it should. -/
theorem boardCall_answer {attempt : Nat} (mapped : BarsMapped bases xdev) (unchained : Unchained xdev)
    (buffered : Buffered attempt xdev) (sized : (xdev.h2cDmaCfg 0).size.toNat = dataSize)
    (usable : call.Usable length outcome) (passed : call.Passed) (copied : outcome.infoMissed = 0) :
    ∃ ret final, answer xdev (.ioctl (rtpcIoctlXdma call.cmd) (call.info stack) outcome) kernel =
        (.ok ret, final) ∧ Leaves bases (attempt + 2) call kernel final := by
  cases call with
  | transfer sent =>
      cases sent with
      | buffer kind channel buff pos len =>
          cases kind with
          | write =>
              obtain ⟨rfl, inRange, whole⟩ := usable
              exact leaves_written buffered sized passed inRange copied whole
          | read =>
              obtain ⟨index, number, _⟩ := usable
              have found : (TransferCall.buffer .read channel buff pos len).Found xdev :=
                ⟨index, number, .inl (by rw [Transfer.cfgs, buffered.c2h, Option.isSome_some])⟩
              obtain ⟨ret, final, ran, regs⟩ := buffer_regs copied found
              exact ⟨ret, final, ran, leaves_kept (by rintro ⟨⟩) ran regs⟩
          | dump =>
              have found : (TransferCall.buffer .dump channel buff pos len).Found xdev :=
                ⟨0, usable.1, .inl (by rw [Transfer.cfgs, buffered.h2c, Option.isSome_some])⟩
              obtain ⟨ret, final, ran, regs⟩ := buffer_regs copied found
              exact ⟨ret, final, ran, leaves_kept (by rintro ⟨⟩) ran regs⟩
      | readRegister bar offset addr =>
          obtain ⟨ret, final, ran, regs, _⟩ := @readRegister_regs bases xdev kernel stack outcome
            bar offset addr mapped passed copied
          exact ⟨ret, final, ran, leaves_kept (by rintro ⟨⟩) ran regs⟩
      | writeRegister bar offset val =>
          have writes : (BoardCall.transfer (.writeRegister bar offset val)).write =
              some (bar, offset, val) := if_pos passed
          obtain ⟨ret, final, ran, regs⟩ := @writeRegister_regs bases xdev kernel stack outcome
            bar offset val mapped passed copied
          exact ⟨ret, final, ran, leaves_kept (by rintro ⟨⟩) ran (by rw [writes, regs])⟩
  | start channel direction =>
      have writes : (BoardCall.start channel direction).write =
          some (1, engineReg channel direction, engineStart) := if_pos passed
      obtain ⟨ret, final, ran, regs⟩ := @start_regs bases xdev kernel stack outcome channel direction
        mapped unchained usable.1 passed.2 copied
      exact ⟨ret, final, ran, leaves_kept (by rintro ⟨⟩) ran (by rw [writes, regs])⟩
  | stop channel direction =>
      have writes : (BoardCall.stop channel direction).write =
          some (1, engineReg channel direction, DMA_STOP) := if_pos passed
      obtain ⟨final, stopped, regs⟩ := @xdmaStop_regs bases xdev kernel mapped
        (channel.setWidth 8) (direction.setWidth 8)
      have ran : answer xdev (.ioctl (rtpcIoctlXdma .stop) (Lib.channelInfo stack channel direction)
          outcome) kernel = (.ok 0, final) := by
        rw [answer_ioctl copied]
        exact (bind_ok stopped).trans rfl
      exact ⟨0, final, ran, leaves_kept (by rintro ⟨⟩) ran (by rw [writes]; exact regs)⟩

/-! ### Bounds -/

/-- The lengths of the two BARs of registers. -/
def BarLengths (length : BitVec 32 → BitVec 64) (lengths : Fin xdmaBarNum → BitVec 64) : Prop :=
  lengths 0 = length 0 ∧ lengths 1 = length 1

theorem BarLengths.at (agree : BarLengths length lengths) (known : bar = 0 ∨ bar = 1)
    {idx : Fin xdmaBarNum} (named : bar = BitVec.ofNat 32 idx.val) : lengths idx = length bar := by
  rcases known with rfl | rfl
  · have first : idx = 0 := by
      revert named
      revert idx
      decide
    rw [first, agree.1]
  · have second : idx = 1 := by
      revert named
      revert idx
      decide
    rw [second, agree.2]

theorem cardSize_small (index : Fin xdmaChannelNum) : cardSize index < 2 ^ 31 := by
  revert index
  decide

theorem channelFits_of_range {cfgs : Fin xdmaChannelNum → XdmaCfgInfo} (index : Fin xdmaChannelNum)
    {buff pos len : BitVec 64} {bytes size : Nat} (number : channel = BitVec.ofNat 32 (index.val + 1))
    (sized : (cfgs index).size.toNat = size) (small : size < 2 ^ 31)
    (inRange : pos.toNat + len.toNat ≤ size) (part : bytes ≤ len.toNat) :
    ChannelFits cfgs (Lib.bufferInfo stack channel buff pos len) bytes := by
  intro other named
  have same : other = index := by
    have numbers : BitVec.ofNat 32 (index.val + 1) = BitVec.ofNat 32 (other.val + 1) :=
      number.symm.trans named
    clear named number sized
    revert index other
    decide
  subst same
  have position : posInt (Lib.bufferInfo stack channel buff pos len) = pos.toNat :=
    posInt_eq (show pos.toNat < 2 ^ 31 by omega)
  rw [InBuffer, position, sized]
  omega

theorem start_inside (unchained : Unchained xdev) (directed : direction.setWidth 8 ≤ (1 : BitVec 8))
    (reached : InBar (lengths 1) (engineReg 1 direction)) :
    CommandInside xdev lengths (Lib.channelInfo stack 1 direction) outcome .start := by
  intro offset member
  rcases List.mem_cons.mp member with rfl | chained
  · exact reached
  · have plain {cfg : XdmaCfgInfo} (single : ¬ 1 < cfg.sgDescNum) : descRegs 1 cfg = [] := if_neg single
    have started : ∃ cfg, startedCfg xdev (Lib.channelInfo stack 1 direction) outcome.uninitialised =
        some cfg ∧ ¬ 1 < cfg.sgDescNum := by
      unfold startedCfg
      rcases direction_cases directed with host | card
      · exact ⟨_, if_pos host, unchained 0 1⟩
      · refine ⟨_, (if_neg ?_).trans (if_pos card), unchained 1 1⟩
        intro host
        cases card.symm.trans host
    obtain ⟨cfg, started, single⟩ := started
    have none : descRegs ((1 : BitVec 32).setWidth 8) cfg = [] := plain single
    have listed : offset ∈ (some cfg).elim [] (descRegs ((1 : BitVec 32).setWidth 8)) := started ▸ chained
    rw [Option.elim_some, none] at listed
    cases listed

/-- A call that the board can be used for stays inside its buffers and BARs. -/
theorem boardCall_inside (agree : BarLengths length lengths) (unchained : Unchained xdev)
    (sized : (xdev.h2cDmaCfg 0).size.toNat = dataSize)
    (sizes : ∀ index, (xdev.c2hDmaCfg index).size.toNat = cardSize index)
    (usable : call.Usable length outcome) (passed : call.Passed) :
    CommandInside xdev lengths (call.info stack) outcome call.cmd := by
  cases call with
  | transfer sent =>
      cases sent with
      | buffer kind channel buff pos len =>
          cases kind with
          | write =>
              exact channelFits_of_range 0 usable.1 sized (by decide) usable.2.1 le_rfl
          | read =>
              obtain ⟨index, number, inRange⟩ := usable
              exact channelFits_of_range index number (sizes index) (cardSize_small index) inRange
                (Nat.sub_le ..)
          | dump =>
              exact channelFits_of_range 0 usable.1 sized (by decide) usable.2 (Nat.sub_le ..)
      | readRegister bar offset addr =>
          intro _ idx named
          rw [agree.at passed named]
          exact usable.2
      | writeRegister bar offset val =>
          intro _ idx named
          rw [agree.at passed named]
          exact usable.2
  | start channel direction =>
      obtain ⟨rfl, reached⟩ := usable
      rw [← agree.2] at reached
      exact start_inside unchained passed.2 reached
  | stop channel direction =>
      have reached := usable.2
      rw [← agree.2] at reached
      exact reached

end Vi53xx.System
