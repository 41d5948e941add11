import Vi53xx.Driver.Bounds
import Vi53xx.Driver.FrameProperties
import Vi53xx.Driver.ProbeMemory

/-! What a request that stays inside the buffers and the BARs of its board comes to: bytes
of these buffers and registers of these BARs, one by one. A probe stays inside the BARs that
it asks for. -/

set_option autoImplicit false

namespace Vi53xx.Driver

open Foundation Foundation.Program

/-- The access is to bytes inside a buffer of the device. A mapping is of the given
length, from the start of the buffer on. -/
def Access.Inside (xdev : XdmaDev) (mapping : Nat) : Access → Prop
  | .h2cDmaCfg _ | .c2hDmaCfg _ | .bar _ _ | .setMemoryUc _ => True
  | .buffer block start bytes => ∃ dir index, xdev.buffer dir index = some block ∧
      InBuffer (xdev.cfg dir index).size start bytes
  | .dmaCommonMmap pData => ∀ block, pData = some block → ∃ dir index,
      xdev.buffer dir index = some block ∧ mapping ≤ (xdev.cfg dir index).size.toNat

/-- The place is inside a buffer of the device. -/
def XdmaDev.HasByte (xdev : XdmaDev) (block : Nat) (place : Int) : Prop :=
  ∃ dir index, xdev.buffer dir index = some block ∧
    0 ≤ place ∧ place < (xdev.cfg dir index).size.toNat

/-- The register is inside a BAR of the device, of the given lengths. -/
def XdmaDev.HasReg (xdev : XdmaDev) (length : Fin xdmaBarNum → BitVec 64) (base : Nat)
    (offset : BitVec 32) : Prop :=
  ∃ index, xdev.bar index = some base ∧ InBar (length index) offset

structure StaysInside (xdev : XdmaDev) (length : Fin xdmaBarNum → BitVec 64) (mapping : Nat)
    (before after : Kernel) : Prop where
  regs : ∀ base offset, ¬ xdev.HasReg length base offset →
    after.regs base offset = before.regs base offset
  bytes : ∀ block place, ¬ xdev.HasByte block place →
    after.buffers block place = before.buffers block place
  logs : Logs (Access.Inside xdev mapping) before after

/-- The mapping is no longer than the buffer that the setting names. -/
def SettingFits (xdev : XdmaDev) (setting : XdmaInfo) (mapping : Nat) : Prop :=
  ∀ index : Fin xdmaChannelNum, setting.channel = BitVec.ofNat 32 (index.val + 1) →
    mapping ≤ (if setting.dir = H2C_DIR then xdev.h2cDmaCfg index else xdev.c2hDmaCfg index).size.toNat

instance (xdev : XdmaDev) (setting : XdmaInfo) (mapping : Nat) :
    Decidable (SettingFits xdev setting mapping) :=
  inferInstanceAs (Decidable (∀ _, _))

variable {xdev : XdmaDev} {length : Fin xdmaBarNum → BitVec 64} {mapping : Nat}
  {first second third : Kernel} {index start : Int} {block : Nat} {offset value : BitVec 32}
  {buf : BitVec 64} {size missed : Nat} {channel direction : BitVec 8} {cfg : XdmaCfgInfo}
  {info : XdmaInfo} {outcome : CopyOutcome} {cmd : XdmaCmd} {pData base : Option Nat}
  {dir : Fin 2} {place : Fin xdmaChannelNum}

theorem StaysInside.refl (state : Kernel) : StaysInside xdev length mapping state state :=
  ⟨fun _ _ _ => rfl, fun _ _ _ => rfl, Logs.refl state⟩

theorem StaysInside.trans (before : StaysInside xdev length mapping first second)
    (after : StaysInside xdev length mapping second third) :
    StaysInside xdev length mapping first third where
  regs := fun base offset foreign =>
    (after.regs base offset foreign).trans (before.regs base offset foreign)
  bytes := fun block place foreign =>
    (after.bytes block place foreign).trans (before.bytes block place foreign)
  logs := before.logs.trans after.logs

theorem StaysInside.bind {Value Other : Type} {program : KernelM Value} {next : Value → KernelM Other}
    (head : Respects (StaysInside xdev length mapping) program)
    (tail : ∀ value, Respects (StaysInside xdev length mapping) (next value)) :
    Respects (StaysInside xdev length mapping) (program >>= next) :=
  Respects.bind StaysInside.trans head tail

theorem StaysInside.of_logs (regs : second.regs = first.regs) (buffers : second.buffers = first.buffers)
    (logs : Logs (Access.Inside xdev mapping) first second) :
    StaysInside xdev length mapping first second where
  regs := fun base offset _ => congrFun (congrFun regs base) offset
  bytes := fun block place _ => congrFun (congrFun buffers block) place
  logs := logs

/-- An index that is an entry's is the number of the entry. -/
theorem entryAt_number {Entry : Type} {entries : Nat} {table : Fin entries → Entry} {entry : Entry}
    {number : BitVec 32} (shift : Nat) (found : entryAt table (number.toInt - shift) = some entry) :
    ∃ place : Fin entries, number = BitVec.ofNat 32 (place.val + shift) ∧ table place = entry := by
  unfold entryAt at found
  split at found
  · next bounds =>
    refine ⟨_, ?_, Option.some.inj found⟩
    have signed := BitVec.toInt_eq_toNat_cond number
    have below := number.isLt
    have same : (number.toInt - shift).toNat + shift = number.toNat := by
      split at signed
      · omega
      · omega
    rw [same, BitVec.ofNat_toNat, BitVec.setWidth_eq]
  · cases found

/-! ## Primitives -/

theorem inside_logAccess {access : Access} (allowed : access.Inside xdev mapping) :
    Respects (StaysInside xdev length mapping) (logAccess access) :=
  fun state => StaysInside.of_logs rfl rfl (logs_logAccess allowed state)

theorem inside_pure {Value : Type} {value : Value} :
    Respects (StaysInside xdev length mapping) (pure value : KernelM Value) :=
  respects_pure StaysInside.refl

theorem inside_readReg : Respects (StaysInside xdev length mapping) (readReg base offset) :=
  respects_readReg StaysInside.refl

theorem inside_writeReg (own : ∀ one, base = some one → xdev.HasReg length one offset) :
    Respects (StaysInside xdev length mapping) (writeReg base offset value) := by
  cases base with
  | none => exact respects_fault StaysInside.refl
  | some one =>
      intro state
      refine ⟨?_, fun _ _ _ => rfl, Logs.of_same rfl⟩
      intro other place foreign
      refine if_neg ?_
      rintro ⟨rfl, rfl⟩
      exact foreign (own _ rfl)

/-- What a lookup in a table gives is the entry with the number that the index names. -/
theorem inside_entry {Entry Value : Type} {entries : Nat} {table : Fin entries → Entry}
    {number : BitVec 32} (shift : Nat) {lookup : KernelM Entry} {next : Entry → KernelM Value}
    (looks : Respects (StaysInside xdev length mapping) lookup)
    (finds : ∀ {state entry final}, lookup state = (.ok entry, final) →
      entryAt table (number.toInt - shift) = some entry)
    (tail : ∀ place : Fin entries, number = BitVec.ofNat 32 (place.val + shift) →
      Respects (StaysInside xdev length mapping) (next (table place))) :
    Respects (StaysInside xdev length mapping) (lookup >>= next) := by
  refine Respects.bind_result StaysInside.trans looks
    (fun _ _ _ ran => entryAt_number shift (finds ran)) ?_
  rintro _ ⟨place, named, rfl⟩
  exact tail place named

theorem inside_regBase {Value : Type} (number : BitVec 32) {next : Option Nat → KernelM Value}
    (tail : ∀ bar : Fin xdmaBarNum, number = BitVec.ofNat 32 bar.val →
      Respects (StaysInside xdev length mapping) (next (xdev.bar bar))) :
    Respects (StaysInside xdev length mapping) (regBase xdev number.toInt >>= next) :=
  inside_entry 0 (respects_regBase StaysInside.refl StaysInside.trans (inside_logAccess trivial))
    (fun ran => (congrArg _ (sub_zero _)).trans (regBase_found ran)) tail

theorem inside_h2cDmaCfg {Value : Type} {number : BitVec 32} {next : XdmaCfgInfo → KernelM Value}
    (tail : ∀ place : Fin xdmaChannelNum, number = BitVec.ofNat 32 (place.val + 1) →
      Respects (StaysInside xdev length mapping) (next (xdev.h2cDmaCfg place))) :
    Respects (StaysInside xdev length mapping) (h2cDmaCfg xdev (number.toInt - 1) >>= next) :=
  inside_entry 1 (respects_h2cDmaCfg StaysInside.refl StaysInside.trans (inside_logAccess trivial))
    h2cDmaCfg_found tail

theorem inside_c2hDmaCfg {Value : Type} {number : BitVec 32} {next : XdmaCfgInfo → KernelM Value}
    (tail : ∀ place : Fin xdmaChannelNum, number = BitVec.ofNat 32 (place.val + 1) →
      Respects (StaysInside xdev length mapping) (next (xdev.c2hDmaCfg place))) :
    Respects (StaysInside xdev length mapping) (c2hDmaCfg xdev (number.toInt - 1) >>= next) :=
  inside_entry 1 (respects_c2hDmaCfg StaysInside.refl StaysInside.trans (inside_logAccess trivial))
    c2hDmaCfg_found tail

theorem inside_copyFromUser
    (own : ∀ block, pData = some block → ∃ dir place, xdev.buffer dir place = some block ∧
      InBuffer (xdev.cfg dir place).size start size) :
    Respects (StaysInside xdev length mapping) (copyFromUser pData start buf size missed) := by
  cases pData with
  | none =>
      dsimp only [copyFromUser]
      split
      · exact inside_pure
      · exact respects_fault StaysInside.refl
  | some block =>
      obtain ⟨dir, place, buffer, fits⟩ := own block rfl
      refine StaysInside.bind (inside_logAccess ⟨dir, place, buffer, fits⟩) ?_
      refine fun _ => StaysInside.bind ?_ fun _ => inside_pure
      intro state
      refine ⟨fun _ _ _ => rfl, ?_, Logs.of_same rfl⟩
      intro other byte foreign
      refine if_neg ?_
      rintro ⟨rfl, low, high⟩
      refine foreign ⟨dir, place, buffer, ?_⟩
      rcases fits with none | ⟨lower, upper⟩
      · omega
      · omega

theorem inside_copyToUser
    (own : ∀ block, pData = some block → ∃ dir place, xdev.buffer dir place = some block ∧
      InBuffer (xdev.cfg dir place).size start (size - missed)) :
    Respects (StaysInside xdev length mapping) (copyToUser pData start buf size missed) :=
  respects_copyToUser StaysInside.refl StaysInside.trans
    (fun block same => inside_logAccess (own block same))
    fun _ _ => StaysInside.of_logs rfl rfl (Logs.of_same rfl)

theorem inside_copyValueToUser :
    Respects (StaysInside xdev length mapping) (copyValueToUser value buf missed) :=
  fun _ => StaysInside.of_logs rfl rfl (Logs.of_same rfl)

/-! ## Requests -/

theorem ChannelFits.own {cfgs : Fin xdmaChannelNum → XdmaCfgInfo} {bytes : Nat} (dir : Fin 2)
    (fits : ChannelFits cfgs info bytes) (named : info.channel = BitVec.ofNat 32 (place.val + 1))
    (table : cfgs = xdev.cfg dir) :
    ∀ block, (cfgs place).pData 0 = some block → ∃ dir place, xdev.buffer dir place = some block ∧
      InBuffer (xdev.cfg dir place).size (posInt info) bytes := by
  intro block buffer
  subst table
  exact ⟨dir, place, buffer, fits place named⟩

theorem inside_controlReg (reached : InBar (length 1) offset) :
    ∀ one, xdev.bar 1 = some one → xdev.HasReg length one offset :=
  fun _ held => ⟨1, held, reached⟩

theorem inside_bar {Value : Type} {next : Option Nat → KernelM Value}
    (tail : Respects (StaysInside xdev length mapping) (next (xdev.bar 1))) :
    Respects (StaysInside xdev length mapping) (regBase xdev 1 >>= next) := by
  refine inside_regBase 1 ?_
  intro bar named
  have first : bar = 1 := by
    revert named
    revert bar
    decide
  rw [first]
  exact tail

theorem inside_xdmaStart (reached : InBar (length 1) (channelReg (controlReg direction) (channel - 1))) :
    Respects (StaysInside xdev length mapping) (xdmaStart xdev channel direction) :=
  inside_bar (StaysInside.bind (inside_writeReg (inside_controlReg reached)) fun _ =>
    StaysInside.bind inside_readReg fun _ => inside_pure)

theorem inside_xdmaStop (reached : InBar (length 1) (channelReg (controlReg direction) (channel - 1))) :
    Respects (StaysInside xdev length mapping) (xdmaStop xdev channel direction) :=
  inside_bar (inside_writeReg (inside_controlReg reached))

theorem inside_xdmaStartDesc (reached : ∀ offset ∈ descRegs channel cfg, InBar (length 1) offset) :
    Respects (StaysInside xdev length mapping) (xdmaStartDesc xdev channel cfg) := by
  refine inside_bar ?_
  split
  · next chain =>
    refine inside_writeReg (inside_controlReg (reached _ ?_))
    rw [descRegs, if_pos chain]
    exact List.mem_singleton.mpr rfl
  · exact inside_pure

theorem startCfg_started {state final : Kernel} {uninitialised : XdmaCfgInfo}
    (ran : startCfg xdev info.channel info.dir uninitialised state = (.ok cfg, final)) :
    startedCfg xdev info uninitialised = some cfg := by
  unfold startCfg at ran
  unfold startedCfg
  split at ran
  · next host =>
    rw [if_pos host]
    exact h2cDmaCfg_found ran
  · next card =>
    rw [if_neg card]
    split at ran
    · next away =>
      rw [if_pos away]
      exact c2hDmaCfg_found ran
    · next unknown =>
      rw [if_neg unknown]
      cases ran
      rfl

theorem inside_startCfg {number : BitVec 32} :
    Respects (StaysInside xdev length mapping) (startCfg xdev number direction cfg) := by
  unfold startCfg
  split
  · exact respects_h2cDmaCfg StaysInside.refl StaysInside.trans (inside_logAccess trivial)
  · split
    · exact respects_c2hDmaCfg StaysInside.refl StaysInside.trans (inside_logAccess trivial)
    · exact inside_pure

theorem inside_vi53xxXdmaReg (reached : CommandInside xdev length info outcome .reg) :
    Respects (StaysInside xdev length mapping) (vi53xxXdmaReg xdev info missed) := by
  refine inside_regBase info.bar ?_
  intro bar named
  split
  · exact StaysInside.bind inside_readReg fun _ => inside_copyValueToUser
  · split
    · next written =>
      refine StaysInside.bind (inside_writeReg ?_) fun _ => inside_pure
      exact fun one held => ⟨bar, held, reached (.inr written) bar named⟩
    · exact inside_pure

theorem inside_runCommand (inside : CommandInside xdev length info outcome cmd) :
    Respects (StaysInside xdev length mapping) (runCommand xdev cmd info outcome) := by
  cases cmd with
  | init =>
      refine inside_h2cDmaCfg ?_
      intro place named
      exact inside_copyFromUser (ChannelFits.own 0 inside named rfl)
  | start =>
      refine Respects.bind_result StaysInside.trans inside_startCfg
        (fun _ _ _ ran => startCfg_started ran) ?_
      intro cfg started
      have chain : ∀ offset ∈ descRegs (info.channel.setWidth 8) cfg, InBar (length 1) offset := by
        intro offset member
        refine inside offset (List.mem_cons_of_mem _ ?_)
        rw [started]
        exact member
      exact StaysInside.bind (inside_xdmaStartDesc chain) fun _ =>
        StaysInside.bind (inside_xdmaStart (inside _ (List.mem_cons_self ..))) fun _ => inside_pure
  | stop => exact StaysInside.bind (inside_xdmaStop inside) fun _ => inside_pure
  | reg => exact inside_vi53xxXdmaReg inside
  | print =>
      refine inside_c2hDmaCfg ?_
      intro place named
      exact inside_copyToUser (ChannelFits.own 1 inside named rfl)
  | setting => exact fun _ => StaysInside.of_logs rfl rfl (Logs.of_same rfl)
  | exit =>
      refine StaysInside.bind ?_ fun _ => inside_pure
      unfold getXdmaCfg
      split
      · exact respects_h2cDmaCfg StaysInside.refl StaysInside.trans (inside_logAccess trivial)
      · exact respects_c2hDmaCfg StaysInside.refl StaysInside.trans (inside_logAccess trivial)
  | dump =>
      refine inside_h2cDmaCfg ?_
      intro place named
      exact inside_copyToUser (ChannelFits.own 0 inside named rfl)

theorem inside_xdmaMmap {ret : Int}
    (own : Access.Inside xdev mapping (.dmaCommonMmap (cfg.pData 0))) :
    Respects (StaysInside xdev length mapping) (xdmaMmap xdev cfg ret) := by
  unfold xdmaMmap
  split
  · intro state
    rw [read_bind]
    have mapped : Respects (StaysInside xdev length mapping) (logAccess (.dmaCommonMmap (cfg.pData 0))) :=
      inside_logAccess own
    have returned : Respects (StaysInside xdev length mapping) (pure ret : KernelM Int) := inside_pure
    have answered := StaysInside.bind mapped fun _ => returned
    split
    · have uncached : Respects (StaysInside xdev length mapping) (logAccess (.setMemoryUc (cfg.pData 0))) :=
        inside_logAccess trivial
      refine StaysInside.bind uncached (fun _ => ?_) state
      exact StaysInside.bind (fun _ => StaysInside.of_logs rfl rfl (Logs.of_same rfl)) fun _ => answered
    · exact answered state
  · exact respects_fault StaysInside.refl

theorem inside_vi53xxXdmaMmap {ret : Int} {state : Kernel}
    (fits : SettingFits xdev state.xdmaSetting mapping) :
    StaysInside xdev length mapping state (vi53xxXdmaMmap xdev ret state).2 := by
  unfold vi53xxXdmaMmap
  rw [read_bind]
  unfold getXdmaCfg
  split
  · next host =>
    refine inside_h2cDmaCfg (fun place named => inside_xdmaMmap ?_) state
    intro block buffer
    have small := fits place named
    rw [if_pos host] at small
    exact ⟨0, place, buffer, small⟩
  · next card =>
    refine inside_c2hDmaCfg (fun place named => inside_xdmaMmap ?_) state
    intro block buffer
    have small := fits place named
    rw [if_neg card] at small
    exact ⟨1, place, buffer, small⟩

/-- A request that stays inside, with a mapping no longer than its buffer, comes to bytes
and registers inside the buffers and the BARs of the board. -/
theorem inside_answer {request : Request} {state : Kernel} (inside : request.Inside xdev length state)
    (fits : ∀ outcome, request = .mmap outcome → SettingFits xdev state.xdmaSetting mapping) :
    StaysInside xdev length mapping state (answer xdev request state).2 := by
  cases request with
  | ioctl cmd info outcome =>
      dsimp only [answer, vi53xxIoctl]
      split
      · next xdma =>
        unfold vi53xxIoctlXdma
        cases number : XdmaCmd.ofNr (IOC_NR cmd) with
        | none => exact StaysInside.refl state
        | some known =>
            dsimp only
            split
            · exact StaysInside.refl state
            · next copied =>
              exact inside_runCommand (inside xdma (copyResult_infoMissed.mp (not_not.mp copied))
                known number) state
      · exact StaysInside.refl state
  | mmap outcome => exact inside_vi53xxXdmaMmap (fits outcome rfl)

/-! ## Probing -/

theorem InBar.lower {length : BitVec 64} {lower : BitVec 32} (reached : InBar length offset)
    (below : lower.toNat ≤ offset.toNat) : InBar length lower :=
  Nat.le_trans (Nat.add_le_add_right below 4) reached

theorem initDeviceInfo_inside {length : BitVec 64} {readReg other : BitVec 32 → BitVec 32}
    (reached : InBar length deviceBoardType)
    (same : ∀ offset, InBar length offset → readReg offset = other offset) :
    initDeviceInfo readReg = initDeviceInfo other := by
  have low : ∀ offset : BitVec 32, offset.toNat ≤ deviceBoardType.toNat → readReg offset = other offset :=
    fun offset below => same offset (reached.lower below)
  funext boardInst
  simp only [initDeviceInfo, low deviceBoardType (Nat.le_refl _), low deviceBoardId (by decide),
    low deviceMdlVersion (by decide), low deviceFpgaVersion (by decide), low deviceLedBlink (by decide)]

/-- With a BAR 0 that has the register of the board type, a probe depends on none behind it. -/
theorem xdmaProbe_inside {length : BitVec 64} {outcome : ProbeOutcome}
    {readReg other : BitVec 32 → BitVec 32} {pdev : PciDev} {registry : Registry}
    (reached : InBar length deviceBoardType)
    (same : ∀ offset, InBar length offset → readReg offset = other offset) :
    xdmaProbe outcome readReg pdev registry = xdmaProbe outcome other pdev registry := by
  have created : createCdev outcome readReg = createCdev outcome other := by
    funext xpdev pdev registry
    simp only [createCdev, same deviceBoardType reached, initDeviceInfo_inside reached same]
  simp only [xdmaProbe, created]

theorem channelInitRegs_setup :
    channelInitRegs = setupRegs 1 0 ++ setupRegs 0 0 ++ setupRegs 1 1 := rfl

/-- With a BAR 1 that has the registers of the setup, no register behind it is written. -/
theorem xdmaChannelInit_inside {answers : Nat → Option (BitVec 64)} {idx base : Nat}
    {bars : Fin xdmaBarNum → Option Nat} (mapped : bars 1 = some base)
    (reached : ChannelInitInside (length 1)) (state : Kernel) :
    ∃ xdev final, xdmaChannelInit answers (XdmaDev.allocated idx bars) state = (.ok xdev, final) ∧
      ∀ block offset, ¬ InBar (length 1) offset →
        final.regs block offset = state.regs block offset := by
  obtain ⟨xdev, first, second, final, ran, _, _, _, firstC2h, firstH2c, secondC2h⟩ :=
    @xdmaChannelInit_prepared answers bars idx base mapped state
  refine ⟨xdev, final, ran, ?_⟩
  intro block offset behind
  have outside : offset ∉ setupRegs 1 0 ++ setupRegs 0 0 ++ setupRegs 1 1 := by
    rw [← channelInitRegs_setup]
    exact fun member => behind (reached offset member)
  simp only [List.mem_append, not_or] at outside
  rw [secondC2h.spares.regs block offset outside.2, firstH2c.spares.regs block offset outside.1.2,
    firstC2h.spares.regs block offset outside.1.1]

end Vi53xx.Driver
