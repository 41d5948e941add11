import Vi53xx.Driver.KernelProperties
import Vi53xx.Driver.Requests

/-! The table indices of the requests. No command checks the channel, the
direction or the BAR that its argument names. -/

set_option autoImplicit false

namespace Vi53xx.Driver

open Foundation Foundation.Program

def Access.InTable : Access → Prop
  | .h2cDmaCfg index => index = 0 ∨ index = 1
  | .c2hDmaCfg index => index = 0 ∨ index = 1
  | .bar index mapped => 0 ≤ index ∧ index ≤ 5 ∧ mapped = true
  | _ => True

def Kernel.InTables (state : Kernel) : Prop := ∀ access ∈ state.trace, access.InTable

def XdmaDev.MappedBar (xdev : XdmaDev) (index : Int) : Prop :=
  ∃ base, entryAt xdev.bar index = some (some base)

def ChannelNumber (channel : BitVec 32) : Prop := channel = 1 ∨ channel = 2

instance (channel : BitVec 32) : Decidable (ChannelNumber channel) :=
  inferInstanceAs (Decidable (_ ∨ _))

/-- What a command must find in its argument to stay inside the tables. -/
def CommandNames (xdev : XdmaDev) (info : XdmaInfo) : XdmaCmd → Prop
  | .init | .print | .exit | .dump => ChannelNumber info.channel
  | .start =>
      (info.dir = H2C_DIR ∨ info.dir = C2H_DIR → info.channel = 0 ∨ info.channel = 1) ∧
        xdev.MappedBar 1
  | .stop => xdev.MappedBar 1
  | .reg => xdev.MappedBar info.bar.toInt
  | .setting => True

/-- The request names entries of the tables, or its argument is not read. -/
def NamesEntries (devices : Nat → XdmaDev) (state : Kernel) (call : DriverCall) : Prop :=
  match call.request with
  | .ioctl cmd info outcome =>
      IOC_TYPE cmd = rtpcIoctlTypeXdma → outcome.infoMissed = 0 →
        ∀ known, XdmaCmd.ofNr (IOC_NR cmd) = some known →
          CommandNames (devices call.board) info known
  | .mmap _ => ChannelNumber state.xdmaSetting.channel

def Refused (state : Kernel) (ran : Except Fault Int × Kernel) : Prop :=
  ∃ ret, ran.1 = .ok ret ∧ ret < 0 ∧ ran.2.regs = state.regs ∧ ran.2.buffers = state.buffers

/-- The request stays inside the tables, and one that would not is refused. -/
def Confined (devices : Nat → XdmaDev) (state : Kernel) (call : DriverCall) : Prop :=
  (handled devices state call).2.InTables ∧
    (¬ NamesEntries devices state call → Refused state (handled devices state call))

variable {devices : Nat → XdmaDev} {xdev : XdmaDev} {state : Kernel} {info : XdmaInfo}
  {outcome : CopyOutcome} {cmd : XdmaCmd} {index : Int} {cfg : XdmaCfgInfo}

theorem inTables_of_logs {after : Kernel} (logs : Logs Access.InTable state.untraced after) :
    after.InTables := by
  obtain ⟨new, grown, each⟩ := logs
  intro access member
  rw [grown] at member
  rcases List.mem_append.mp member with recent | old
  · exact each access recent
  · cases old

/-! ## Table entries -/

theorem inTable_channel {channel : BitVec 32} :
    (channel.toInt - 1 = 0 ∨ channel.toInt - 1 = 1) ↔ ChannelNumber channel := by
  constructor
  · rintro (first | second)
    · exact .inl (BitVec.eq_of_toInt_eq (by simpa using Int.sub_eq_zero.mp first))
    · exact .inr (BitVec.eq_of_toInt_eq (by rw [Int.sub_eq_iff_eq_add.mp second]; decide))
  · rintro (rfl | rfl)
    · decide
    · decide

theorem inTable_index {channel : BitVec 32} :
    (channel.toInt = 0 ∨ channel.toInt = 1) ↔ channel = 0 ∨ channel = 1 := by
  constructor
  · rintro (first | second)
    · exact .inl (BitVec.eq_of_toInt_eq (by rw [first]; decide))
    · exact .inr (BitVec.eq_of_toInt_eq (by rw [second]; decide))
  · rintro (rfl | rfl)
    · decide
    · decide

theorem entryAt_inTable {Entry : Type} {table : Fin 2 → Entry}
    (bounded : index = 0 ∨ index = 1) : ∃ entry, entryAt table index = some entry := by
  rcases bounded with rfl | rfl
  · exact ⟨table 0, rfl⟩
  · exact ⟨table 1, rfl⟩

theorem entryAt_bounds {size : Nat} {Entry : Type} {table : Fin size → Entry} {entry : Entry}
    (found : entryAt table index = some entry) : 0 ≤ index ∧ index.toNat < size := by
  unfold entryAt at found
  split at found
  · assumption
  · cases found

theorem barAccess_inTable : (barAccess xdev index).InTable ↔ xdev.MappedBar index := by
  unfold barAccess Access.InTable XdmaDev.MappedBar
  constructor
  · rintro ⟨_, _, mapped⟩
    obtain ⟨base, found⟩ := Option.isSome_iff_exists.mp mapped
    exact ⟨base, Option.join_eq_some_iff.mp found⟩
  · rintro ⟨base, found⟩
    obtain ⟨low, high⟩ := entryAt_bounds found
    refine ⟨low, Int.toNat_le.mp (Nat.le_of_lt_succ high), ?_⟩
    rw [found]
    rfl

theorem copyResult_infoMissed {missed : Fin (XdmaInfo.size + 1)} :
    copyResult missed.val = 0 ↔ missed = 0 := by
  revert missed
  decide

/-! ## Requests that name entries -/

theorem logs_getXdmaCfg (bounded : info.channel.toInt - 1 = 0 ∨ info.channel.toInt - 1 = 1) :
    Respects (Logs Access.InTable) (getXdmaCfg xdev info) := by
  unfold getXdmaCfg
  split
  · exact logs_h2cDmaCfg bounded
  · exact logs_c2hDmaCfg bounded

theorem logs_vi53xxXdmaStart (names : CommandNames xdev info .start) :
    Respects (Logs Access.InTable)
      (vi53xxXdmaStart xdev info.channel info.dir outcome.uninitialised) := by
  obtain ⟨channel, mapped⟩ := names
  have bar := barAccess_inTable.mpr mapped
  refine Logs.bind ?_ ?_
  · unfold startCfg
    split
    · next host => exact logs_h2cDmaCfg (inTable_index.mpr (channel (.inl host)))
    · split
      · next card => exact logs_c2hDmaCfg (inTable_index.mpr (channel (.inr card)))
      · exact respects_pure Logs.refl
  · intro cfg
    refine Logs.bind (logs_xdmaStartDesc bar) ?_
    intro _
    exact Logs.bind (logs_xdmaStart bar) fun _ => respects_pure Logs.refl

theorem logs_runCommand (names : CommandNames xdev info cmd) :
    Respects (Logs Access.InTable) (runCommand xdev cmd info outcome) := by
  cases cmd with
  | init =>
      refine Logs.bind (logs_h2cDmaCfg (inTable_channel.mpr names)) ?_
      exact fun cfg => logs_copyFromUser fun _ _ => trivial
  | start => exact logs_vi53xxXdmaStart names
  | stop =>
      refine Logs.bind (logs_xdmaStop (barAccess_inTable.mpr names)) ?_
      exact fun _ => respects_pure Logs.refl
  | reg =>
      refine Logs.bind (logs_regBase (barAccess_inTable.mpr names)) ?_
      intro base
      split
      · exact Logs.bind logs_readReg fun _ => logs_copyValueToUser
      · split
        · exact Logs.bind logs_writeReg fun _ => respects_pure Logs.refl
        · exact respects_pure Logs.refl
  | print =>
      refine Logs.bind (logs_c2hDmaCfg (inTable_channel.mpr names)) ?_
      exact fun cfg => logs_copyToUser fun _ _ => trivial
  | setting =>
      intro state
      exact Logs.of_same rfl
  | exit =>
      refine Logs.bind (logs_getXdmaCfg (inTable_channel.mpr names)) ?_
      exact fun _ => respects_pure Logs.refl
  | dump =>
      refine Logs.bind (logs_h2cDmaCfg (inTable_channel.mpr names)) ?_
      exact fun cfg => logs_copyToUser fun _ _ => trivial

theorem logs_answer {call : DriverCall} (names : NamesEntries devices state call) :
    Logs Access.InTable state.untraced (handled devices state call).2 := by
  unfold handled
  cases request : call.request with
  | ioctl cmd info outcome =>
      simp only [NamesEntries, request] at names
      dsimp only [answer]
      revert names
      fun_cases vi53xxIoctl (devices call.board) cmd info outcome with
      | case1 xdma =>
          intro names
          fun_cases vi53xxIoctlXdma (devices call.board) (IOC_NR cmd) info outcome with
          | case1 unknown => exact Logs.refl _
          | case2 known found missed => exact Logs.refl _
          | case3 known found copied =>
              have read := copyResult_infoMissed.mp (not_not.mp copied)
              exact logs_runCommand (names xdma read known found) _
      | case2 other =>
          intro _
          exact Logs.refl _
  | mmap outcome =>
      simp only [NamesEntries, request] at names
      have cfg := @logs_getXdmaCfg (devices call.board) _ (inTable_channel.mpr names)
      exact Logs.bind cfg (fun cfg => logs_xdmaMmap trivial trivial) _

/-! ## Requests that do not -/

theorem getXdmaCfg_names {rest : XdmaCfgInfo → KernelM Int}
    (tail : ∀ cfg, Respects (Logs fun _ => True) (rest cfg))
    (inside : ((getXdmaCfg xdev info >>= rest) state).2.InTables) : ChannelNumber info.channel := by
  refine inTable_channel.mp ?_
  by_cases host : info.dir = H2C_DIR
  · have selected : getXdmaCfg xdev info = h2cDmaCfg xdev (info.channel.toInt - 1) := if_pos host
    rw [selected] at inside
    exact inside _ (logged_first h2cDmaCfg_logged tail)
  · have selected : getXdmaCfg xdev info = c2hDmaCfg xdev (info.channel.toInt - 1) := if_neg host
    rw [selected] at inside
    exact inside _ (logged_first c2hDmaCfg_logged tail)

theorem startCfg_names {rest : XdmaCfgInfo → KernelM Int}
    (tail : ∀ cfg, Respects (Logs fun _ => True) (rest cfg))
    (inside : ((startCfg xdev info.channel info.dir cfg >>= rest) state).2.InTables) :
    (info.dir = H2C_DIR ∨ info.dir = C2H_DIR → info.channel.toInt = 0 ∨ info.channel.toInt = 1) ∧
      ∃ selected middle, startCfg xdev info.channel info.dir cfg state = (.ok selected, middle) := by
  by_cases host : info.dir = H2C_DIR
  · have selected : startCfg xdev info.channel info.dir cfg = h2cDmaCfg xdev info.channel.toInt :=
      if_pos host
    rw [selected] at inside ⊢
    have bounded := inside _ (logged_first h2cDmaCfg_logged tail)
    obtain ⟨entry, found⟩ := entryAt_inTable bounded
    exact ⟨fun _ => bounded, entry, _, h2cDmaCfg_run found⟩
  · by_cases card : info.dir = C2H_DIR
    · have selected : startCfg xdev info.channel info.dir cfg = c2hDmaCfg xdev info.channel.toInt :=
        (if_neg host).trans (if_pos card)
      rw [selected] at inside ⊢
      have bounded := inside _ (logged_first c2hDmaCfg_logged tail)
      obtain ⟨entry, found⟩ := entryAt_inTable bounded
      exact ⟨fun _ => bounded, entry, _, c2hDmaCfg_run found⟩
    -- In any other direction the config is whatever the stack holds.
    · have selected : startCfg xdev info.channel info.dir cfg = pure cfg :=
        (if_neg host).trans (if_neg card)
      rw [selected]
      exact ⟨fun known => absurd known (not_or.mpr ⟨host, card⟩), cfg, state, rfl⟩

/-- A start takes its config by the channel itself, and then uses BAR 1. -/
theorem vi53xxXdmaStart_names
    (inside : (vi53xxXdmaStart xdev info.channel info.dir cfg state).2.InTables) :
    CommandNames xdev info .start := by
  have started : ∀ _ : Unit, Respects (Logs fun _ => True) (do
      xdmaStart xdev (info.channel.setWidth 8) info.dir
      pure (0 : Int)) := fun _ =>
    Logs.bind (logs_xdmaStart trivial) fun _ => respects_pure Logs.refl
  have described := fun cfg =>
    @logs_xdmaStartDesc (fun _ => True) xdev (info.channel.setWidth 8) cfg trivial
  obtain ⟨bounded, selected, middle, ran⟩ :=
    startCfg_names (fun cfg => Logs.bind (described cfg) started) inside
  refine ⟨fun known => inTable_index.mp (bounded known), ?_⟩
  -- The config has been found, so that the run goes on to BAR 1.
  have continued : vi53xxXdmaStart xdev info.channel info.dir cfg state = _ := bind_ok ran
  rw [continued] at inside
  refine barAccess_inTable.mp (inside _ (logged_first (logged_first regBase_logged ?_) started))
  intro base
  split
  · exact logs_writeReg
  · exact respects_pure Logs.refl

theorem runCommand_names (inside : (runCommand xdev cmd info outcome state).2.InTables) :
    CommandNames xdev info cmd := by
  cases cmd with
  | init =>
      refine inTable_channel.mp (inside _ (logged_first h2cDmaCfg_logged ?_))
      exact fun cfg => logs_copyFromUser fun _ _ => trivial
  | start => exact vi53xxXdmaStart_names inside
  | stop =>
      refine barAccess_inTable.mp (inside _ (logged_first (logged_first regBase_logged ?_) ?_))
      · exact fun _ => logs_writeReg
      · exact fun _ => respects_pure Logs.refl
  | reg =>
      refine barAccess_inTable.mp (inside _ (logged_first regBase_logged ?_))
      intro base
      split
      · exact Logs.bind logs_readReg fun _ => logs_copyValueToUser
      · split
        · exact Logs.bind logs_writeReg fun _ => respects_pure Logs.refl
        · exact respects_pure Logs.refl
  | print =>
      refine inTable_channel.mp (inside _ (logged_first c2hDmaCfg_logged ?_))
      exact fun cfg => logs_copyToUser fun _ _ => trivial
  | setting => trivial
  | exit => exact getXdmaCfg_names (fun _ => respects_pure Logs.refl) inside
  | dump =>
      refine inTable_channel.mp (inside _ (logged_first h2cDmaCfg_logged ?_))
      exact fun cfg => logs_copyToUser fun _ _ => trivial

/-- No command checks what it is given, so that a request leaves the tables
whenever its argument does. -/
theorem handled_inTables_iff {call : DriverCall} :
    (handled devices state call).2.InTables ↔ NamesEntries devices state call := by
  constructor
  · intro inside
    unfold NamesEntries
    unfold handled at inside
    cases request : call.request with
    | ioctl cmd info outcome =>
        intro xdma read known found
        have copied : copyResult outcome.infoMissed.val = 0 := copyResult_infoMissed.mpr read
        have ran : answer (devices call.board) (.ioctl cmd info outcome) =
            runCommand (devices call.board) known info outcome := by
          simp [answer, vi53xxIoctl, vi53xxIoctlXdma, xdma, found, copied]
        rw [request, ran] at inside
        exact runCommand_names inside
    | mmap outcome =>
        rw [request] at inside
        exact getXdmaCfg_names (fun _ => logs_xdmaMmap trivial trivial) inside
  · intro names
    exact inTables_of_logs (logs_answer names)

theorem confined_iff {call : DriverCall} :
    Confined devices state call ↔ NamesEntries devices state call := by
  constructor
  · intro confined
    exact handled_inTables_iff.mp confined.1
  · intro names
    exact ⟨handled_inTables_iff.mpr names, fun other => absurd names other⟩

end Vi53xx.Driver
