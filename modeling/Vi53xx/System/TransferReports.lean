import Vi53xx.Driver.AnswerProperties
import Vi53xx.Lib.BoardRequests
import Vi53xx.System.BufferTransfers

/-! What a transfer returns to the caller. The driver answers with the number of
bytes that a copy has left out, narrowed to an `int`, and the library hands on
what it gets, so that it returns an error only where bit 31 of that number is set. -/

set_option autoImplicit false

namespace Vi53xx.System

open Foundation Driver

inductive TransferCall where
  | buffer (transfer : Transfer) (channel : BitVec 32) (buff pos len : BitVec 64)
  | readRegister (bar offset : BitVec 32) (val : BitVec 64)
  | writeRegister (bar offset val : BitVec 32)
  deriving DecidableEq

namespace TransferCall

def sent (state : Lib.LibState) (stack : XdmaInfo) (boardId : BitVec 32) : TransferCall → Lib.Sent
  | .buffer .write channel buff pos len =>
      Lib.vi53xxXdmaSetChBuff state stack boardId channel buff pos len
  | .buffer .read channel buff pos len =>
      Lib.vi53xxXdmaGetChBuff state stack boardId channel buff pos len
  | .buffer .dump channel buff pos len =>
      Lib.vi53xxXdmaDumpChData state stack boardId channel buff pos len
  | .readRegister bar offset val => Lib.vi53xxReadRegister state stack boardId bar offset val
  | .writeRegister bar offset val => Lib.vi53xxWriteRegister state stack boardId bar offset val

/-- The size of the copy that follows that of the argument; a write to a register has none. -/
def dataSize : TransferCall → Nat
  | .buffer _ _ _ _ len => len.toNat
  | .readRegister _ _ _ => 4
  | .writeRegister _ _ _ => 0

def cmd : TransferCall → XdmaCmd
  | .buffer transfer _ _ _ _ => transfer.cmd
  | .readRegister _ _ _ | .writeRegister _ _ _ => .reg

def info (stack : XdmaInfo) : TransferCall → XdmaInfo
  | .buffer _ channel buff pos len => Lib.bufferInfo stack channel buff pos len
  | .readRegister bar offset val => { stack with bar, offset, wr := Lib.RTPC_READ, rVal := val }
  | .writeRegister bar offset val => { stack with bar, offset, wr := Lib.RTPC_WRITE, wVal := val }

/-- What the checks of the library let through. -/
def Passed : TransferCall → Prop
  | .buffer .write _ buff _ _ | .buffer .read _ buff _ _ => buff ≠ 0
  | .buffer .dump channel buff _ _ => buff ≠ 0 ∧ ¬ Lib.channelRefused channel
  | .readRegister bar _ _ | .writeRegister bar _ _ => bar = 0 ∨ bar = 1

/-- The driver finds what the request is about: a buffer of the channel, if there are
bytes to copy, or a mapped BAR. -/
def Found (xdev : XdmaDev) : TransferCall → Prop
  | .buffer transfer channel _ _ len =>
      ∃ index : Fin xdmaChannelNum, channel = BitVec.ofNat 32 (index.val + 1) ∧
        (((transfer.cfgs xdev index).pData 0).isSome ∨ len = 0)
  | .readRegister bar _ _ | .writeRegister bar _ _ => xdev.MappedBar bar.toInt

end TransferCall

/-- What the library function returns, if the driver does not fault; `device` is the
device whose file each descriptor is open on. -/
def returned (device : Int → XdmaDev) (kernel : Kernel) (outcome : CopyOutcome) :
    Lib.Sent → Except Fault Int
  | .error ret => .ok ret
  | .ok (fd, cmd, info) =>
      ((answer (device fd) (.ioctl cmd info outcome) kernel).1).map Lib.ioctlReturn

/-- The function returns 0 exactly when the request has been sent and copied whole, and
a negative value otherwise. -/
def Reported (sent : Lib.Sent) (outcome : CopyOutcome) (result : Except Fault Int) : Prop :=
  ∃ ret, result = .ok ret ∧
    (ret = 0 ↔ sent.isOk = true ∧ outcome.infoMissed = 0 ∧ outcome.dataMissed = 0) ∧
    (ret ≠ 0 → ret < 0)

/-- The number of bytes left out is 0 or, as an `int`, negative. -/
def AnsweredTruly (missed : Nat) : Prop := missed = 0 ∨ 2 ^ 31 ≤ missed % 2 ^ 32

/-- A request that is sent must be read whole, find what it is about, and leave out a
number of bytes that the answer shows to be 0 or not. -/
def Reportable (xdev : XdmaDev) (call : TransferCall) (outcome : CopyOutcome) : Prop :=
  outcome.infoMissed = 0 ∧ call.Found xdev ∧ AnsweredTruly outcome.dataMissed

variable {missed : Nat} {call : TransferCall} {state : Lib.LibState} {stack : XdmaInfo}
  {boardId : BitVec 32} {outcome : CopyOutcome} {xdev : XdmaDev} {kernel : Kernel}

/-! ## What a caller reads -/

theorem ioctlReturn_eq_zero {ret : Int} : Lib.ioctlReturn ret = 0 ↔ ret = 0 := by
  unfold Lib.ioctlReturn
  split
  · omega
  · exact Iff.rfl

theorem ioctlReturn_neg {ret : Int} : Lib.ioctlReturn ret < 0 ↔ ret < 0 := by
  unfold Lib.ioctlReturn
  split
  · omega
  · exact Iff.rfl

theorem answeredTruly_iff :
    ((Lib.ioctlReturn (copyResult missed) = 0 ↔ missed = 0) ∧
      (Lib.ioctlReturn (copyResult missed) ≠ 0 → Lib.ioctlReturn (copyResult missed) < 0)) ↔
      AnsweredTruly missed := by
  rw [Ne, ioctlReturn_eq_zero, ioctlReturn_neg, copyResult_eq_zero, copyResult_neg]
  unfold AnsweredTruly
  omega

/-! ## What the library sends -/

/-- The request that a call on an open board passes on. -/
def TransferCall.forwarded (stack : XdmaInfo) (call : TransferCall) : Lib.Forwarded :=
  match call with
  | .buffer transfer _ _ _ _ => requested (call.info stack) transfer
  | .readRegister _ _ _ | .writeRegister _ _ _ => Lib.vi53xxXdmaReadWriteReg (some (call.info stack))

variable {handle : Lib.DevHandle}

theorem sent_eq : call.sent state stack boardId =
    Lib.sendTo state boardId (call.forwarded stack) := by
  cases call with
  | buffer transfer channel buff pos len =>
      cases transfer with
      | write | read | dump => rfl
  | readRegister bar offset val => rfl
  | writeRegister bar offset val => rfl

theorem bar_passed {bar : BitVec 32} :
    ¬ (bar.toInt < 0 ∨ 1 < bar.toInt) ↔ bar = 0 ∨ bar = 1 := by
  rw [← inTable_index]
  omega

theorem register_forwarded {reg : XdmaInfo} (known : reg.wr = Lib.RTPC_READ ∨ reg.wr = Lib.RTPC_WRITE) :
    Lib.vi53xxXdmaReadWriteReg (some reg) =
      if reg.bar = 0 ∨ reg.bar = 1 then .ok (rtpcIoctlXdma .reg, reg) else .error (-1) := by
  have passed : ¬ (reg.wr.toInt < 0 ∨ 1 < reg.wr.toInt) := by
    rcases known with read | write
    · rw [read]
      decide
    · rw [write]
      decide
  unfold Lib.vi53xxXdmaReadWriteReg Lib.xdmaCallIoctl
  dsimp only
  rw [if_neg passed]
  by_cases inside : reg.bar = 0 ∨ reg.bar = 1
  · rw [if_pos inside, if_neg (bar_passed.mpr inside)]
  · rw [if_neg inside, if_pos (not_not.mp (mt bar_passed.mp inside))]

theorem bufferRequest_eq {cmd : XdmaCmd} {info : XdmaInfo} :
    Lib.bufferRequest cmd (some info) =
      if info.buf = 0 then .error (-1) else .ok (rtpcIoctlXdma cmd, info) := by
  simp [Lib.bufferRequest, Lib.xdmaCallIoctl]

theorem vi53xxXdmaDump_eq {info : XdmaInfo} :
    Lib.vi53xxXdmaDump (some info) =
      if info.buf = 0 then .error (-1)
      else if Lib.channelRefused info.channel then .error (-1)
      else .ok (rtpcIoctlXdma .dump, info) := by
  simp [Lib.vi53xxXdmaDump, Lib.xdmaCallIoctl]

theorem forwarded_passed (passed : call.Passed) :
    call.forwarded stack = .ok (rtpcIoctlXdma call.cmd, call.info stack) := by
  cases call with
  | buffer transfer channel buff pos len =>
      cases transfer with
      | write | read => exact bufferRequest_eq.trans (if_neg passed)
      | dump => exact vi53xxXdmaDump_eq.trans ((if_neg passed.1).trans (if_neg passed.2))
  | readRegister bar offset val => exact (register_forwarded (.inl rfl)).trans (if_pos passed)
  | writeRegister bar offset val => exact (register_forwarded (.inr rfl)).trans (if_pos passed)

theorem forwarded_refused (refused : ¬ call.Passed) : call.forwarded stack = .error (-1) := by
  cases call with
  | buffer transfer channel buff pos len =>
      cases transfer with
      | write | read => exact bufferRequest_eq.trans (if_pos (not_not.mp refused))
      | dump =>
          refine vi53xxXdmaDump_eq.trans ?_
          by_cases null : buff = 0
          · exact if_pos null
          · refine (if_neg null).trans (if_pos ?_)
            by_contra inside
            exact refused ⟨null, inside⟩
  | readRegister bar offset val => exact (register_forwarded (.inl rfl)).trans (if_neg refused)
  | writeRegister bar offset val => exact (register_forwarded (.inr rfl)).trans (if_neg refused)

/-! ## Whole requests -/

theorem answered_found (copied : outcome.infoMissed = 0)
    (bounded : outcome.dataMissed ≤ call.dataSize) (found : call.Found xdev) :
    (answer xdev (.ioctl (rtpcIoctlXdma call.cmd) (call.info stack) outcome) kernel).1 =
      .ok (copyResult outcome.dataMissed) := by
  rw [answer_ioctl copied]
  cases call with
  | buffer transfer channel buff pos len =>
      obtain ⟨index, number, buffer⟩ := found
      exact transfer_found number buffer
  | readRegister bar offset val => exact register_found found (.inl rfl)
  | writeRegister bar offset val =>
      exact register_found found (.inr ⟨rfl, Nat.le_zero.mp bounded⟩)

theorem answered_unread (missed : outcome.infoMissed ≠ 0) :
    (answer xdev (.ioctl (rtpcIoctlXdma call.cmd) (call.info stack) outcome) kernel).1 =
      .ok (copyResult outcome.infoMissed.val) := by
  rw [answer_unread missed]
  rfl

theorem answered_lost (copied : outcome.infoMissed = 0) (passed : call.Passed)
    (lost : ¬ call.Found xdev) :
    ∃ fault, (answer xdev (.ioctl (rtpcIoctlXdma call.cmd) (call.info stack) outcome) kernel).1 =
      .error fault := by
  rw [answer_ioctl copied]
  cases call with
  | buffer transfer channel buff pos len => exact transfer_lost lost
  | readRegister bar offset val => exact register_lost passed lost (.inl rfl)
  | writeRegister bar offset val => exact register_lost passed lost (.inr rfl)

theorem reported_ok {sent : Lib.Sent} {ret : Int} :
    Reported sent outcome (.ok ret) ↔
      (ret = 0 ↔ sent.isOk = true ∧ outcome.infoMissed = 0 ∧ outcome.dataMissed = 0) ∧
        (ret ≠ 0 → ret < 0) := by
  constructor
  · intro reported
    obtain ⟨_, same, both⟩ := reported
    cases same
    exact both
  · intro reported
    exact ⟨ret, rfl, reported⟩

theorem not_reported_fault {sent : Lib.Sent} {fault : Fault} :
    ¬ Reported sent outcome (.error fault) := by
  intro reported
  obtain ⟨_, same, _⟩ := reported
  cases same

theorem reported_refused {device : Int → XdmaDev} :
    Reported (.error (-1)) outcome (returned device kernel outcome (.error (-1))) := by
  refine ⟨-1, rfl, iff_of_false (by decide) ?_, fun _ => by decide⟩
  intro whole
  cases whole.1

theorem reported_sent_iff {device : Int → XdmaDev} {fd : Int} (passed : call.Passed)
    (bounded : outcome.dataMissed ≤ call.dataSize) :
    Reported (.ok (fd, rtpcIoctlXdma call.cmd, call.info stack)) outcome
        (returned device kernel outcome (.ok (fd, rtpcIoctlXdma call.cmd, call.info stack))) ↔
      Reportable (device fd) call outcome := by
  by_cases copied : outcome.infoMissed = 0
  · by_cases found : call.Found (device fd)
    · have ran : returned device kernel outcome (.ok (fd, rtpcIoctlXdma call.cmd, call.info stack)) =
          .ok (Lib.ioctlReturn (copyResult outcome.dataMissed)) :=
        congrArg (Except.map Lib.ioctlReturn) (answered_found copied bounded found)
      have sent : (Except.ok (fd, rtpcIoctlXdma call.cmd, call.info stack) : Lib.Sent).isOk = true :=
        rfl
      rw [ran, reported_ok]
      simp only [sent, copied, true_and]
      rw [answeredTruly_iff]
      exact ⟨fun error => ⟨copied, found, error⟩, fun reportable => reportable.2.2⟩
    · obtain ⟨fault, faulty⟩ :=
        @answered_lost call stack outcome (device fd) kernel copied passed found
      have ran : returned device kernel outcome (.ok (fd, rtpcIoctlXdma call.cmd, call.info stack)) =
          .error fault := congrArg (Except.map Lib.ioctlReturn) faulty
      rw [ran]
      exact iff_of_false not_reported_fault fun reportable => found reportable.2.1
  -- An argument that is not read whole is answered with a small positive number.
  · have ran : returned device kernel outcome (.ok (fd, rtpcIoctlXdma call.cmd, call.info stack)) =
        .ok (Lib.ioctlReturn (copyResult outcome.infoMissed.val)) :=
      congrArg (Except.map Lib.ioctlReturn) (answered_unread copied)
    rw [ran, reported_ok]
    refine iff_of_false ?_ fun reportable => copied reportable.1
    intro reported
    obtain ⟨exact, negative⟩ := reported
    have some : outcome.infoMissed.val ≠ 0 := fun zero => copied (Fin.ext zero)
    have few : outcome.infoMissed.val < 57 := outcome.infoMissed.isLt
    have error : AnsweredTruly outcome.infoMissed.val := by
      refine answeredTruly_iff.mp ⟨?_, negative⟩
      exact iff_of_false (fun zero => copied (exact.mp zero).2.1) some
    unfold AnsweredTruly at error
    omega

/-- A request on an open board returns 0 exactly when both its copies are complete, and
a negative value otherwise, if and only if the library turns it down or it is reportable. -/
theorem transfer_reported_iff (device : Int → XdmaDev) (kernel : Kernel) (stack : XdmaInfo)
    (isOpen : Lib.getDevHandle state boardId = some handle)
    (bounded : outcome.dataMissed ≤ call.dataSize) :
    Reported (call.sent state stack boardId) outcome
        (returned device kernel outcome (call.sent state stack boardId)) ↔
      (call.Passed → Reportable (device handle.devHandle) call outcome) := by
  have forwards : call.sent state stack boardId =
      (call.forwarded stack).map fun request => (handle.devHandle, request) := by
    rw [sent_eq]
    unfold Lib.sendTo
    rw [isOpen]
  rw [forwards]
  by_cases passed : call.Passed
  · rw [forwarded_passed passed]
    exact (reported_sent_iff passed bounded).trans ⟨fun reportable _ => reportable, fun all => all passed⟩
  · rw [forwarded_refused passed]
    exact iff_of_true reported_refused fun sent => absurd sent passed

def oneOpen : Lib.LibState :=
  { Lib.LibState.loaded with
    availableBoardCount := 1
    devHandleList := Slots.empty.store 0 ⟨3, 7, []⟩ }

theorem oneOpen_handle : Lib.getDevHandle oneOpen 7 = some ⟨3, 7, []⟩ := by
  decide

def setOneByte : TransferCall := .buffer .write 1 1 0 1

theorem transfer_reported_iff_whole :
    ∃ xdev final,
      xdmaChannelInit (fun _ => some 0) (.allocated 0 allMapped) .booted = (.ok xdev, final) ∧
      Reported (setOneByte.sent oneOpen .cleared 7) .complete
        (returned (fun _ => xdev) final .complete (setOneByte.sent oneOpen .cleared 7)) := by
  obtain ⟨xdev, final, ran, allocated, _⟩ := board_probed
  refine ⟨xdev, final, ran, ?_⟩
  refine (transfer_reported_iff (fun _ => xdev) final .cleared oneOpen_handle (Nat.zero_le _)).mpr ?_
  exact fun _ => ⟨rfl, ⟨0, rfl, .inl (Option.isSome_iff_exists.mpr ⟨2, allocated⟩)⟩, .inl rfl⟩

/-- The byte is not copied, and the function returns 1. -/
theorem missed_byte_returned :
    ∃ xdev final,
      xdmaChannelInit (fun _ => some 0) (.allocated 0 allMapped) .booted = (.ok xdev, final) ∧
      returned (fun _ => xdev) final ⟨0, 1, .cleared⟩ (setOneByte.sent oneOpen .cleared 7) = .ok 1 ∧
      ¬ Reported (setOneByte.sent oneOpen .cleared 7) ⟨0, 1, .cleared⟩
        (returned (fun _ => xdev) final ⟨0, 1, .cleared⟩ (setOneByte.sent oneOpen .cleared 7)) := by
  obtain ⟨xdev, final, ran, allocated, _⟩ := board_probed
  have sent : setOneByte.sent oneOpen .cleared 7 =
      .ok (3, rtpcIoctlXdma .init, setOneByte.info .cleared) := by
    decide
  have found : setOneByte.Found xdev :=
    ⟨0, rfl, .inl (Option.isSome_iff_exists.mpr ⟨2, allocated⟩)⟩
  have one : returned (fun _ => xdev) final ⟨0, 1, .cleared⟩ (setOneByte.sent oneOpen .cleared 7) =
      .ok 1 := by
    rw [sent]
    exact congrArg (Except.map Lib.ioctlReturn) (answered_found rfl (Nat.le_refl 1) found)
  refine ⟨xdev, final, ran, one, ?_⟩
  rw [one, reported_ok]
  intro reported
  have negative := reported.2
  exact absurd (negative (by decide)) (by decide)

end Vi53xx.System
