import Vi53xx.Driver.MmapProperties

/-! The config that each command takes for a channel. The tables are indexed from 0
and channels are numbered from 1; `START` takes the number for the index. -/

set_option autoImplicit false

namespace Vi53xx.Driver

open Foundation Foundation.Program

/-- The fields that `init_dma_cfg` fills in, in every entry. -/
def XdmaDev.Numbered (xdev : XdmaDev) : Prop :=
  ∀ (dir : Fin 2) (index : Fin xdmaChannelNum),
    (xdev.cfg dir index).direction = BitVec.ofNat 8 dir.val ∧
      (xdev.cfg dir index).channel = index.val + 1

variable {xdev : XdmaDev} {info : XdmaInfo} {outcome : CopyOutcome} {state : Kernel} {dir : Fin 2}
  {index : Fin xdmaChannelNum} {cmd : XdmaCmd} {uninitialised : XdmaCfgInfo}
  {answers : Nat → Option (BitVec 64)} {idx : Nat} {bars : Fin xdmaBarNum → Option Nat}

theorem Probed.numbered (probed : Probed answers idx bars state xdev) : xdev.Numbered := by
  intro dir index
  exact probed.ready.numbered

/-! ## Lookups -/

/-- The commands that take a config, with how they look it up. -/
def lookup (xdev : XdmaDev) (info : XdmaInfo) (outcome : CopyOutcome) :
    XdmaCmd → Option (KernelM XdmaCfgInfo)
  | .init | .dump => some (h2cDmaCfg xdev (info.channel.toInt - 1))
  | .print => some (c2hDmaCfg xdev (info.channel.toInt - 1))
  | .exit => some (getXdmaCfg xdev info)
  | .start => some (startCfg xdev info.channel info.dir outcome.uninitialised)
  | .stop | .reg | .setting => none

theorem runCommand_lookup {found : KernelM XdmaCfgInfo}
    (looks : lookup xdev info outcome cmd = some found) :
    ∃ next, runCommand xdev cmd info outcome = found >>= next := by
  cases cmd with
  | init | start | print | exit | dump =>
      cases looks
      exact ⟨_, rfl⟩
  | stop | reg | setting => cases looks

/-- The commands besides `START` that take the config of a channel in a direction. -/
def ServesDirection (dir : Fin 2) : XdmaCmd → Prop
  | .init | .dump => dir = 0
  | .print => dir = 1
  | .exit => True
  | .start | .stop | .reg | .setting => False

/-- The other commands take the entry of the channel they name. -/
theorem lookup_own (names : Names info dir index) (serves : ServesDirection dir cmd) :
    ∃ found, lookup xdev info outcome cmd = some found ∧
      (found state).1 = .ok (xdev.cfg dir index) := by
  cases cmd with
  | init | dump =>
      subst serves
      exact ⟨_, rfl, congrArg Prod.fst (h2cDmaCfg_run (entryAt_channel names.2))⟩
  | print =>
      subst serves
      exact ⟨_, rfl, congrArg Prod.fst (c2hDmaCfg_run (entryAt_channel names.2))⟩
  | exit => exact ⟨_, rfl, congrArg Prod.fst (getXdmaCfg_run names)⟩
  | start | stop | reg | setting => exact serves.elim

/-! ## `START` -/

theorem startCfg_table (names : Names info dir index) :
    startCfg xdev info.channel info.dir uninitialised =
      if dir = 0 then h2cDmaCfg xdev info.channel.toInt else c2hDmaCfg xdev info.channel.toInt := by
  have direction := names.1
  match dir with
  | 0 => exact if_pos direction
  | 1 =>
      have host : info.dir ≠ H2C_DIR := by
        rw [direction]
        decide
      exact (if_neg host).trans (if_pos direction)

/-- For channel 1 it is the entry of channel 2. -/
theorem startCfg_first (names : Names info dir 0) :
    (startCfg xdev info.channel info.dir uninitialised state).1 = .ok (xdev.cfg dir 1) := by
  have number : info.channel.toInt = 1 := by
    rw [names.2]
    rfl
  rw [startCfg_table names, number]
  match dir with
  | 0 | 1 => rfl

/-- For channel 2 there is none. -/
theorem startCfg_second (names : Names info dir 1) :
    (startCfg xdev info.channel info.dir uninitialised state).1 = .error .outOfBounds := by
  have number : info.channel.toInt = 2 := by
    rw [names.2]
    rfl
  rw [startCfg_table names, number]
  match dir with
  | 0 | 1 => rfl

/-- The register that `start_desc` writes the credits to. -/
def creditReg (channel direction : BitVec 8) : BitVec 32 :=
  channelReg (if direction = H2C_DIR then H2C_SGDMA_DESC_ADD_REG else C2H_SGDMA_DESC_ADD_REG)
    (channel - 1)

theorem xdmaStartDesc_credits {cfg : XdmaCfgInfo} {block : Nat} {channel : BitVec 8}
    (mapped : xdev.bar 1 = some block) (several : 1 < cfg.sgDescNum) :
    (xdmaStartDesc xdev channel cfg state).2.regs block (creditReg channel cfg.direction) =
      cfg.sgDescNum.setWidth 32 := by
  simp only [xdmaStartDesc, bind_ok (regBase_run state), mapped, if_pos several]
  exact if_pos ⟨rfl, rfl⟩

/-- `START` passes on the entry with the direction and the channel of the request,
which is the one the other commands and `mmap` take. -/
def StartsOwn (xdev : XdmaDev) (info : XdmaInfo) (outcome : CopyOutcome) (dir : Fin 2)
    (state : Kernel) : Prop :=
  ∃ cfg, (startCfg xdev info.channel info.dir outcome.uninitialised state).1 = .ok cfg ∧
    cfg.direction = info.dir ∧ cfg.channel = info.channel.toInt ∧
    (getXdmaCfg xdev info state).1 = .ok cfg ∧
    ∀ cmd, ServesDirection dir cmd →
      ∃ found, lookup xdev info outcome cmd = some found ∧ (found state).1 = .ok cfg

/-- Whatever `START` passes on is the config of another channel. -/
theorem startCfg_other {cfg : XdmaCfgInfo} (numbered : xdev.Numbered)
    (names : Names info dir index)
    (started : (startCfg xdev info.channel info.dir uninitialised state).1 = .ok cfg) :
    cfg.channel ≠ info.channel.toInt := by
  match index with
  | 0 =>
      rw [startCfg_first names] at started
      cases started
      rw [(numbered dir 1).2, names.2]
      decide
  | 1 =>
      rw [startCfg_second names] at started
      cases started

/-- No start of a channel passes on the config of that channel. -/
theorem start_never_own (numbered : xdev.Numbered) (names : Names info dir index) :
    ¬ StartsOwn xdev info outcome dir state := by
  intro own
  obtain ⟨cfg, started, _, channel, _⟩ := own
  exact startCfg_other numbered names started channel

/-- A board whose channels from the card have chains of four and of two descriptors. -/
def twoChains : XdmaDev where
  idx := 0
  bar := fun index => if index = 1 then some 1 else none
  c2hDmaCfg := fun index =>
    { unset 1 index with sgDescNum := if index = 0 then 4 else 2 }
  h2cDmaCfg := fun index => { unset 0 index with sgDescNum := descNum }

def startFirst : XdmaInfo := { XdmaInfo.cleared with channel := 1, dir := C2H_DIR }

theorem twoChains_numbered : twoChains.Numbered := by
  intro dir index
  match dir, index with
  | 0, 0 | 0, 1 | 1, 0 | 1, 1 => exact ⟨rfl, rfl⟩

/-- A start of channel 1 gives it the credits of the chain of channel 2. -/
theorem first_chain_miscounted :
    ¬ StartsOwn twoChains startFirst .complete 1 .booted ∧
      (vi53xxXdmaStart twoChains startFirst.channel startFirst.dir .cleared .booted).2.regs 1
        (creditReg 1 C2H_DIR) = 2 ∧ (twoChains.c2hDmaCfg 0).sgDescNum = 4 := by
  refine ⟨?_, by decide, rfl⟩
  intro own
  obtain ⟨cfg, started, _, channel, _⟩ := own
  cases started
  exact absurd channel (by decide)

theorem start_never_own_twoChains : ¬ StartsOwn twoChains startFirst .complete 1 .booted :=
  @start_never_own _ _ _ _ 1 0 twoChains_numbered ⟨rfl, rfl⟩

end Vi53xx.Driver
