import Vi53xx.Driver.ChannelInit
import Vi53xx.Driver.KernelProperties

/-! What a probe leaves in the channel tables of a board. -/

set_option autoImplicit false

namespace Vi53xx.Driver

open Foundation Foundation.Program

def Probed (answer : Nat → Option (BitVec 64)) (idx : Nat) (bar : Fin xdmaBarNum → Option Nat)
    (state : Kernel) (xdev : XdmaDev) : Prop :=
  ∃ final, xdmaChannelInit answer (XdmaDev.allocated idx bar) state = (.ok xdev, final)

/-- The config of a channel after its setup, whose buffer is from the given attempt. -/
structure SetUp (answer : Nat → Option (BitVec 64)) (attempt : Nat) (dir : Fin 2)
    (index : Fin xdmaChannelNum) (cfg : XdmaCfgInfo) : Prop where
  direction : cfg.direction = BitVec.ofNat 8 dir.val
  channel : cfg.channel = index.val + 1
  size : cfg.size = (chAddr dir index.succ).size.setWidth 64
  sgDescNum : cfg.sgDescNum = descNum
  pData : cfg.pData 0 = (answer attempt).map fun _ => attempt

/-- What a part of the setup leaves, after the given number of attempts to allocate. -/
structure Advanced (attempts : Nat) (before after : Kernel) : Prop where
  allocated : after.allocated = before.allocated + attempts
  fmap : after.fmap = before.fmap

variable {answer : Nat → Option (BitVec 64)} {xdev : XdmaDev} {state : Kernel} {cfg : XdmaCfgInfo}
  {attempt base : Nat} {dir : Fin 2} {index : Fin xdmaChannelNum}

theorem Advanced.trans {early late : Nat} {first second third : Kernel}
    (before : Advanced early first second) (after : Advanced late second third) :
    Advanced (early + late) first third where
  allocated := by rw [after.allocated, before.allocated, Nat.add_assoc]
  fmap := after.fmap.trans before.fmap

theorem dmaAllocCoherent_run (state : Kernel) :
    dmaAllocCoherent answer state =
      (.ok ((answer state.allocated).map fun phys => (state.allocated, phys)),
        { state with allocated := state.allocated + 1 }) := rfl

theorem xdmaPhysicalAddressInit_run (state : Kernel) (single : cfg.sgDescNum = descNum) :
    ∃ filled final, xdmaPhysicalAddressInit answer cfg state = (.ok filled, final) ∧
      filled.direction = cfg.direction ∧ filled.channel = cfg.channel ∧ filled.size = cfg.size ∧
      filled.sgDescNum = cfg.sgDescNum ∧
      (cfg.pData 0 = none →
        filled.pData 0 = (answer state.allocated).map fun _ => state.allocated) ∧
      Advanced 1 state final := by
  have turns : cfg.sgDescNum.toNat = 1 := by
    rw [single]
    rfl
  unfold xdmaPhysicalAddressInit
  rw [turns]
  cases succeeded : answer state.allocated with
  | none =>
      simp only [physicalAddressLoop, bind_ok (dmaAllocCoherent_run state), succeeded]
      exact ⟨cfg, _, rfl, rfl, rfl, rfl, rfl, id, rfl, rfl⟩
  | some phys =>
      simp only [physicalAddressLoop, bind_ok (dmaAllocCoherent_run state), succeeded]
      exact ⟨_, _, rfl, rfl, rfl, rfl, rfl, fun _ => rfl, rfl, rfl⟩

/-- The config of a channel as its setup meets it. -/
def unset (dir : Fin 2) (index : Fin xdmaChannelNum) : XdmaCfgInfo :=
  initDmaCfg .cleared (BitVec.ofNat 8 dir.val) index

theorem vi53xxInfoInit_unset (dir : Fin 2) (index : Fin xdmaChannelNum) :
    vi53xxInfoInit answer (unset dir index) =
      xdmaPhysicalAddressInit answer ((unset dir index).withAddr (chAddr dir index.succ)) := by
  have direction : (unset dir index).direction.toNat = dir.val := by
    revert dir
    decide +revert
  have channel : (unset dir index).channel.toNat = index.val + 1 := rfl
  have bounded : (unset dir index).direction.toNat < 2 ∧ 0 ≤ (unset dir index).channel ∧
      (unset dir index).channel.toNat < 3 := by
    rw [direction, channel]
    exact ⟨dir.isLt, Int.natCast_nonneg (index.val + 1), Nat.succ_lt_succ index.isLt⟩
  have entry : chAddr ⟨_, bounded.1⟩ ⟨_, bounded.2.2⟩ = chAddr dir index.succ :=
    congrArg₂ chAddr (Fin.ext direction) (Fin.ext channel)
  rw [← entry]
  exact dif_pos bounded

theorem vi53xxInfoInit_run (dir : Fin 2) (index : Fin xdmaChannelNum) (state : Kernel) :
    ∃ filled final, vi53xxInfoInit answer (unset dir index) state = (.ok filled, final) ∧
      SetUp answer state.allocated dir index filled ∧ Advanced 1 state final := by
  obtain ⟨filled, final, ran, direction, channel, size, single, pData, advanced⟩ :=
    @xdmaPhysicalAddressInit_run answer ((unset dir index).withAddr (chAddr dir index.succ)) state rfl
  rw [vi53xxInfoInit_unset]
  exact ⟨filled, final, ran, ⟨direction, channel, size, single, pData rfl⟩, advanced⟩

/-! ## Register setup -/

theorem regBase_run (state : Kernel) :
    regBase xdev 1 state =
      (.ok (xdev.bar 1), { state with trace := .bar 1 (xdev.bar 1).isSome :: state.trace }) := rfl

theorem xdmaPollInit_run (channel : Int) (direction : BitVec 8) (state : Kernel)
    (mapped : xdev.bar 1 = some base) :
    ∃ final, xdmaPollInit xdev channel direction state = (.ok (), final) ∧
      Advanced 0 state final := by
  simp only [xdmaPollInit, bind_ok (regBase_run state), mapped]
  exact ⟨_, rfl, rfl, rfl⟩

theorem xdmaStop_run (channel direction : BitVec 8) (state : Kernel)
    (mapped : xdev.bar 1 = some base) :
    ∃ final, xdmaStop xdev channel direction state = (.ok (), final) ∧
      Advanced 0 state final := by
  simp only [xdmaStop, bind_ok (regBase_run state), mapped]
  exact ⟨_, rfl, rfl, rfl⟩

theorem xdmaDescAlloc_run (state : Kernel) (ready : SetUp answer attempt dir index cfg) :
    ∃ described final, xdmaDescAlloc answer cfg state = (.ok described, final) ∧
      SetUp answer attempt dir index described ∧ Advanced 1 state final := by
  have turns : cfg.sgDescNum.toNat - 1 = 0 := by
    rw [ready.sgDescNum]
    rfl
  unfold xdmaDescAlloc
  rw [bind_ok (dmaAllocCoherent_run state), turns]
  cases answer state.allocated with
  | none => exact ⟨cfg, _, rfl, ready, rfl, rfl⟩
  | some phys =>
      exact ⟨_, _, rfl,
        ⟨ready.direction, ready.channel, ready.size, ready.sgDescNum, ready.pData⟩, rfl, rfl⟩

theorem xdmaCofgDesc_run (channel : BitVec 8) (state : Kernel) (mapped : xdev.bar 1 = some base)
    (ready : SetUp answer attempt dir index cfg) :
    ∃ final, xdmaCofgDesc xdev channel cfg state = (.ok (), final) ∧
      Advanced 0 state final := by
  have single : ¬ 1 < cfg.sgDescNum := by
    rw [ready.sgDescNum]
    decide
  simp only [xdmaCofgDesc, bind_ok (regBase_run state), mapped, single, if_false]
  exact ⟨_, rfl, rfl, rfl⟩

/-! ## Channels -/

/-- A channel takes two blocks, the first of which is its buffer. -/
theorem setupChannel_run (dir : Fin 2) (index : Fin xdmaChannelNum) (state : Kernel)
    (mapped : xdev.bar 1 = some base) :
    ∃ ready final, setupChannel answer xdev (unset dir index) state = (.ok ready, final) ∧
      SetUp answer state.allocated dir index ready ∧ Advanced 2 state final := by
  obtain ⟨filled, first, ranInit, ready, counted⟩ := @vi53xxInfoInit_run answer dir index state
  obtain ⟨second, ranPoll, samePoll⟩ :=
    xdmaPollInit_run filled.channel filled.direction first mapped
  obtain ⟨third, ranStop, sameStop⟩ :=
    xdmaStop_run (BitVec.ofInt 8 filled.channel) filled.direction second mapped
  obtain ⟨described, fourth, ranDesc, readyDesc, countedDesc⟩ := xdmaDescAlloc_run third ready
  obtain ⟨final, ranCofg, sameCofg⟩ :=
    xdmaCofgDesc_run (BitVec.ofInt 8 filled.channel) fourth mapped readyDesc
  refine ⟨described, final, ?_, readyDesc, ?_⟩
  · unfold setupChannel xdmaCreateTransfer
    rw [bind_ok ranInit, bind_ok ranPoll, bind_ok ranStop, bind_ok ranDesc, bind_ok ranCofg]
    rfl
  · exact (((counted.trans samePoll).trans sameStop).trans countedDesc).trans sameCofg

theorem setupChannel_unmapped (dir : Fin 2) (index : Fin xdmaChannelNum) (state : Kernel)
    (unmapped : xdev.bar 1 = none) :
    ∃ final, setupChannel answer xdev (unset dir index) state = (.error .nullPointer, final) := by
  obtain ⟨filled, first, ranInit, _⟩ := @vi53xxInfoInit_run answer dir index state
  have ranPoll : xdmaPollInit xdev filled.channel filled.direction first =
      (.error .nullPointer, { first with trace := .bar 1 false :: first.trace }) := by
    simp only [xdmaPollInit, bind_ok (regBase_run first), unmapped]
    rfl
  exact ⟨_, (bind_ok ranInit).trans (bind_error ranPoll)⟩

variable {idx : Nat} {bar : Fin xdmaBarNum → Option Nat}

/-- What a probe leaves in the tables. Channel 2 to the card is never set up. -/
structure Ready (answer : Nat → Option (BitVec 64)) (attempt idx : Nat)
    (bars : Fin xdmaBarNum → Option Nat) (xdev : XdmaDev) : Prop where
  idx : xdev.idx = idx
  bar : xdev.bar = bars
  mapped : (bars 1).isSome = true
  firstC2h : SetUp answer attempt 1 0 (xdev.c2hDmaCfg 0)
  firstH2c : SetUp answer (attempt + 2) 0 0 (xdev.h2cDmaCfg 0)
  secondC2h : SetUp answer (attempt + 4) 1 1 (xdev.c2hDmaCfg 1)
  secondH2c : xdev.h2cDmaCfg 1 = unset 0 1

def XdmaDev.withChannel (xdev : XdmaDev) (index : Fin xdmaChannelNum) (c2h h2c : XdmaCfgInfo) :
    XdmaDev :=
  { xdev with
    c2hDmaCfg := fun other => if other = index then c2h else xdev.c2hDmaCfg other
    h2cDmaCfg := fun other => if other = index then h2c else xdev.h2cDmaCfg other }

/-- The setups of one turn of the loop; channel 2 to the card is left out. -/
theorem channelInit_turn (channel : Fin xdmaChannelNum) (state : Kernel)
    (fresh : xdev.c2hDmaCfg channel = .cleared ∧ xdev.h2cDmaCfg channel = .cleared)
    {c2h h2c : XdmaCfgInfo} {middle final : Kernel}
    (ranC2h : setupChannel answer xdev (unset 1 channel) state = (.ok c2h, middle))
    (ranH2c : setupH2cChannel answer
      { xdev with c2hDmaCfg := fun other => if other = channel then c2h else xdev.c2hDmaCfg other }
      (unset 0 channel) middle = (.ok h2c, final)) :
    channelInit answer xdev channel state = (.ok (xdev.withChannel channel c2h h2c), final) := by
  unfold channelInit
  rw [fresh.1]
  refine (bind_ok ranC2h).trans ?_
  dsimp only
  rw [fresh.2]
  exact bind_ok ranH2c

/-- What every setup of a channel achieves, the probe achieves for the channels it sets
up, one after the other. -/
theorem xdmaChannelInit_channels
    {post : Fin 2 → Fin xdmaChannelNum → Kernel → XdmaCfgInfo → Kernel → Prop}
    (each : ∀ xdev : XdmaDev, xdev.bar = bar → ∀ dir index state, ∃ ready final,
      setupChannel answer xdev (unset dir index) state = (.ok ready, final) ∧
        post dir index state ready final) (state : Kernel) :
    ∃ xdev first second final,
      xdmaChannelInit answer (XdmaDev.allocated idx bar) state = (.ok xdev, final) ∧
      xdev.idx = idx ∧ xdev.bar = bar ∧ xdev.h2cDmaCfg 1 = unset 0 1 ∧
      post 1 0 state (xdev.c2hDmaCfg 0) first ∧ post 0 0 first (xdev.h2cDmaCfg 0) second ∧
      post 1 1 second (xdev.c2hDmaCfg 1) final := by
  obtain ⟨c2h, first, ranC2h, firstC2h⟩ := each (XdmaDev.allocated idx bar) rfl 1 0 state
  obtain ⟨h2c, second, ranH2c, firstH2c⟩ := each { XdmaDev.allocated idx bar with
    c2hDmaCfg := fun other => if other = 0 then c2h else .cleared } rfl 0 0 first
  obtain ⟨other, final, ranSecond, secondC2h⟩ :=
    each ((XdmaDev.allocated idx bar).withChannel 0 c2h h2c) rfl 1 1 second
  have ranFirst := @channelInit_turn answer (XdmaDev.allocated idx bar) 0 state ⟨rfl, rfl⟩ c2h h2c
    first second ranC2h ranH2c
  have ranLast := @channelInit_turn answer ((XdmaDev.allocated idx bar).withChannel 0 c2h h2c) 1
    second ⟨rfl, rfl⟩ other (unset 0 1) final final ranSecond rfl
  exact ⟨_, first, second, final, (bind_ok ranFirst).trans ranLast, rfl, rfl, rfl, firstC2h,
    firstH2c, secondC2h⟩

theorem xdmaChannelInit_run (state : Kernel) (mapped : bar 1 = some base) :
    ∃ xdev final, xdmaChannelInit answer (XdmaDev.allocated idx bar) state = (.ok xdev, final) ∧
      Ready answer state.allocated idx bar xdev ∧ Advanced 6 state final := by
  obtain ⟨xdev, first, second, final, ran, same, bars, secondH2c, ⟨firstC2h, counted⟩,
      ⟨firstH2c, countedH2c⟩, secondC2h, countedSecond⟩ :=
    @xdmaChannelInit_channels answer idx bar
      (fun dir index before ready after =>
        SetUp answer before.allocated dir index ready ∧ Advanced 2 before after)
      (fun xdev bars dir index before =>
        @setupChannel_run answer xdev base dir index before (bars ▸ mapped)) state
  rw [counted.allocated] at firstH2c
  rw [(counted.trans countedH2c).allocated] at secondC2h
  exact ⟨xdev, final, ran, ⟨same, bars, by rw [mapped]; rfl, firstC2h, firstH2c, secondC2h,
    secondH2c⟩, (counted.trans countedH2c).trans countedSecond⟩

theorem xdmaChannelInit_ready {final : Kernel}
    (ran : xdmaChannelInit answer (XdmaDev.allocated idx bar) state = (.ok xdev, final)) :
    Ready answer state.allocated idx bar xdev ∧ Advanced 6 state final := by
  unfold xdmaChannelInit at ran
  cases mapped : bar 1 with
  -- Without BAR 1 the first access to a register faults.
  | none =>
      obtain ⟨stopped, faulty⟩ :=
        @setupChannel_unmapped answer (XdmaDev.allocated idx bar) 1 0 state mapped
      have first : channelInit answer (XdmaDev.allocated idx bar) 0 state =
          (.error .nullPointer, stopped) := bind_error faulty
      rw [bind_error first] at ran
      cases ran
  | some base =>
      obtain ⟨device, last, succeeded, ready, advanced⟩ :=
        @xdmaChannelInit_run answer base idx bar state mapped
      unfold xdmaChannelInit at succeeded
      rw [succeeded] at ran
      cases ran
      exact ⟨ready, advanced⟩

theorem Probed.ready (probed : Probed answer idx bar state xdev) :
    Ready answer state.allocated idx bar xdev := by
  obtain ⟨final, ran⟩ := probed
  exact (xdmaChannelInit_ready ran).1

end Vi53xx.Driver
