import Vi53xx.Driver.AnswerProperties
import Vi53xx.Driver.BufferStoreProperties
import Vi53xx.Driver.MachineProperties
import Vi53xx.Driver.MmapProperties
import Vi53xx.Driver.RecordProperties
import Vi53xx.Driver.StartProperties

/-! Which calls bring the driver down: for each state that it comes to and each call that
can come next, exactly when the call runs into a NULL pointer, an index outside a table, the
end of a BAR or of a buffer, or a record that has been freed. -/

set_option autoImplicit false

namespace Vi53xx.Driver

open Foundation Foundation.Program

/-- The transfer has a buffer, or nothing to copy. -/
def Transfer.Serves (transfer : Transfer) (xdev : XdmaDev) (info : XdmaInfo) : Prop :=
  ∃ index : Fin xdmaChannelNum, info.channel = BitVec.ofNat 32 (index.val + 1) ∧
    (((transfer.cfgs xdev index).pData 0).isSome ∨ info.len = 0)

/-- The command, with its argument copied, runs into a fault. -/
def CommandCrashes (xdev : XdmaDev) (info : XdmaInfo) : XdmaCmd → Prop
  | .init => ¬ Transfer.write.Serves xdev info
  | .print => ¬ Transfer.read.Serves xdev info
  | .dump => ¬ Transfer.dump.Serves xdev info
  | .start => (info.dir = H2C_DIR ∨ info.dir = C2H_DIR) ∧ info.channel ≠ 0 ∧ info.channel ≠ 1
  | .stop | .setting => False
  | .reg => ¬ xdev.MappedBar info.bar.toInt ∧ (info.bar.toNat < xdmaBarNum → info.wr = 0 ∨ info.wr = 1)
  | .exit => ¬ ChannelNumber info.channel

def Request.Crashes (xdev : XdmaDev) (state : Kernel) : Request → Prop
  | .ioctl cmd info outcome => IOC_TYPE cmd = rtpcIoctlTypeXdma ∧ outcome.infoMissed = 0 ∧
      ∃ known, XdmaCmd.ofNr (IOC_NR cmd) = some known ∧ CommandCrashes xdev info known
  | .mmap _ => ¬ ChannelNumber state.xdmaSetting.channel

/-- The kernel gives the driver everything that it maps a device with. -/
structure Maps (env : DeviceMapEnv) : Prop where
  xdevAlloc : env.xdevAlloc = true
  enableDevice : env.enableDevice = 0
  requestRegions : env.requestRegions = 0
  bars : ∀ idx, ¬ Rejected env.bars idx
  dmaMask : setDmaMask env = 0

/-- The probe gets as far as a register that the BAR does not have, if it has any. -/
def ProbeEnv.Crashes (env : ProbeEnv) : Prop :=
  env.outcome.xpdevAlloc = true ∧ Maps env.map ∧
    (¬ InBar (env.map.bars.length 0) deviceBoardType ∨
      (¬ ChannelInitInside (env.map.bars.length 1) ∧
        getBoardName (env.readReg deviceBoardType) ≠ none ∧ env.outcome.Registers))

def MachineCall.Crashes (state : Machine) : MachineCall → Prop
  | .probe env _ => env.Crashes
  | .remove pdev intact => state.plugged.drvdata pdev ≠ none ∧ intact = false
  | .request xpdev asked => (xpdev ∈ state.plugged.removed ∧ asked.OfBoard) ∨
      ∃ board, state.boards xpdev = some board ∧ (asked.Crashes board.xdev state.kernel ∨
        ¬ asked.Inside board.xdev board.length state.kernel)
  | .deviceWrite name _ => ∃ xpdev ∈ state.plugged.removed,
      ⟨name, .device xpdev⟩ ∈ state.plugged.registry.procEntries
  | .timerIsr xpdev => xpdev ∈ state.plugged.removed

/-- No device is probed that has a driver, no timer goes off that is not pending, and a
file that a process holds is of a board that is there or has been. -/
def MachineCall.Possible (state : Machine) : MachineCall → Prop
  | .probe _ pdev => state.plugged.drvdata pdev = none
  | .request xpdev _ => (state.boards xpdev).isSome ∨ xpdev ∈ state.plugged.removed
  | .timerIsr xpdev => state.plugged.ledTimers xpdev = true
  | .remove _ _ | .deviceWrite _ _ => True

variable {answers : Nat → Option (BitVec 64)} {attempt idx base : Nat}
  {bars : Fin xdmaBarNum → Option Nat} {xdev : XdmaDev} {info : XdmaInfo} {outcome : CopyOutcome}
  {state : Kernel} {transfer : Transfer} {index : Int}

/-! ## Tables -/

theorem entryAt_channels {Entry : Type} {table : Fin xdmaChannelNum → Entry} :
    entryAt table index = none ↔ index ≠ 0 ∧ index ≠ 1 := by
  unfold entryAt
  rw [dite_eq_right_iff]
  constructor
  · intro outside
    constructor <;> rintro rfl <;> exact absurd (outside (by decide)) (Option.some_ne_none _)
  · rintro ⟨first, second⟩ ⟨low, high⟩
    have small : index.toNat < 2 := high
    omega

theorem h2cDmaCfg_fails : Fails (h2cDmaCfg xdev index) state ↔ index ≠ 0 ∧ index ≠ 1 := by
  rw [← @entryAt_channels index _ xdev.h2cDmaCfg]
  cases found : entryAt xdev.h2cDmaCfg index with
  | none => exact iff_of_true ⟨_, congrArg Prod.fst (h2cDmaCfg_outside found)⟩ rfl
  | some cfg => exact iff_of_false (not_fails (h2cDmaCfg_run found)) (Option.some_ne_none cfg)

theorem c2hDmaCfg_fails : Fails (c2hDmaCfg xdev index) state ↔ index ≠ 0 ∧ index ≠ 1 := by
  rw [← @entryAt_channels index _ xdev.c2hDmaCfg]
  cases found : entryAt xdev.c2hDmaCfg index with
  | none => exact iff_of_true ⟨_, congrArg Prod.fst (c2hDmaCfg_outside found)⟩ rfl
  | some cfg => exact iff_of_false (not_fails (c2hDmaCfg_run found)) (Option.some_ne_none cfg)

theorem channel_named {channel : BitVec 32} :
    (channel.toInt - 1 ≠ 0 ∧ channel.toInt - 1 ≠ 1) ↔ ¬ ChannelNumber channel := by
  rw [← inTable_channel, not_or]

theorem getXdmaCfg_fails : Fails (getXdmaCfg xdev info) state ↔ ¬ ChannelNumber info.channel := by
  unfold getXdmaCfg
  split
  · rw [h2cDmaCfg_fails, channel_named]
  · rw [c2hDmaCfg_fails, channel_named]

theorem startCfg_fails {dir : BitVec 8} {channel : BitVec 32} {uninitialised : XdmaCfgInfo} :
    Fails (startCfg xdev channel dir uninitialised) state ↔
      (dir = H2C_DIR ∨ dir = C2H_DIR) ∧ channel ≠ 0 ∧ channel ≠ 1 := by
  have outside : (channel.toInt ≠ 0 ∧ channel.toInt ≠ 1) ↔ channel ≠ 0 ∧ channel ≠ 1 := by
    rw [← not_or, inTable_index, not_or]
  unfold startCfg
  split
  · next host =>
      rw [h2cDmaCfg_fails, outside]
      exact (and_iff_right (Or.inl host)).symm
  · next other =>
      split
      · next card =>
          rw [c2hDmaCfg_fails, outside]
          exact (and_iff_right (Or.inr card)).symm
      · next neither =>
          refine iff_of_false (not_fails rfl) ?_
          rintro ⟨host | card, _⟩
          · exact other host
          · exact neither card

/-! ## Commands -/

theorem transfer_fails : Fails (runCommand xdev transfer.cmd info outcome) state ↔
    ¬ transfer.Serves xdev info := by
  constructor
  · rintro ⟨fault, failed⟩ ⟨index, number, found⟩
    rw [transfer_found number found] at failed
    cases failed
  · intro lost
    obtain ⟨fault, failed⟩ := @transfer_lost transfer xdev info state outcome lost
    exact ⟨fault, failed⟩

theorem entryAt_bars : entryAt xdev.bar info.bar.toInt = none ↔ ¬ info.bar.toNat < xdmaBarNum := by
  unfold entryAt
  rw [dite_eq_right_iff]
  have size : info.bar.toNat < 2 ^ 32 := info.bar.isLt
  rw [BitVec.toInt_eq_toNat_cond]
  constructor
  · intro outside small
    have low : info.bar.toNat < 6 := small
    rw [if_pos (by omega)] at outside
    exact absurd (outside ⟨Int.natCast_nonneg _, low⟩) (Option.some_ne_none _)
  · intro large inside
    exfalso
    obtain ⟨positive, low⟩ := inside
    have bound : ¬ info.bar.toNat < 6 := large
    split at positive
    · next small =>
        rw [if_pos small] at low
        exact large low
    · omega

theorem register_fails : Fails (runCommand xdev .reg info outcome) state ↔
    CommandCrashes xdev info .reg := by
  cases entry : entryAt xdev.bar info.bar.toInt with
  | none =>
      refine iff_of_true ?_ ⟨?_, fun inside => absurd inside (entryAt_bars.mp entry)⟩
      · refine fails_bind_of_fails ⟨.outOfBounds, ?_⟩
        simp only [regBase, entry]
        rfl
      · rintro ⟨block, mapped⟩
        rw [entry] at mapped
        cases mapped
  | some base =>
      have inside : info.bar.toNat < xdmaBarNum := by
        by_contra outside
        rw [entryAt_bars.mpr outside] at entry
        cases entry
      have ran : Fails (runCommand xdev .reg info outcome) state ↔ _ :=
        fails_bind_ok (regBase_entry entry)
      rw [ran]
      cases base with
      | none =>
          have unmapped : ¬ xdev.MappedBar info.bar.toInt := by
            rintro ⟨block, mapped⟩
            rw [entry] at mapped
            cases mapped
          rw [CommandCrashes, and_iff_right unmapped, forall_prop_of_true inside]
          by_cases read : info.wr = 0
          · rw [if_pos read]
            exact iff_of_true (fails_bind_of_fails fails_fault) (.inl read)
          · rw [if_neg read]
            by_cases write : info.wr = 1
            · rw [if_pos write]
              exact iff_of_true (fails_bind_of_fails fails_fault) (.inr write)
            · rw [if_neg write]
              exact iff_of_false (not_fails rfl) (not_or.mpr ⟨read, write⟩)
      | some block =>
          have mapped : xdev.MappedBar info.bar.toInt := ⟨block, entry⟩
          refine iff_of_false ?_ fun crashes => crashes.1 mapped
          split
          · exact not_fails rfl
          · split
            · exact not_fails rfl
            · exact not_fails rfl

theorem start_fails (mapped : xdev.bar 1 = some base) :
    Fails (runCommand xdev .start info outcome) state ↔ CommandCrashes xdev info .start := by
  by_cases failed : Fails (startCfg xdev info.channel info.dir outcome.uninitialised) state
  · exact iff_of_true (fails_bind_of_fails failed) (startCfg_fails.mp failed)
  · refine iff_of_false ?_ fun crashes => failed (startCfg_fails.mpr crashes)
    obtain ⟨cfg, middle, selected⟩ := not_fails_iff.mp failed
    obtain ⟨later, described⟩ :=
      @xdmaStartDesc_completes xdev middle base (info.channel.setWidth 8) cfg mapped
    obtain ⟨final, started⟩ :=
      @xdmaStart_completes xdev later base (info.channel.setWidth 8) info.dir mapped
    have ran : runCommand xdev .start info outcome state = _ := bind_ok selected
    have next : runCommand xdev .start info outcome state = (.ok 0, final) := by
      rw [ran, bind_ok described, bind_ok started]
      rfl
    exact not_fails next

theorem command_fails (mapped : xdev.bar 1 = some base) (cmd : XdmaCmd) :
    Fails (runCommand xdev cmd info outcome) state ↔ CommandCrashes xdev info cmd := by
  cases cmd with
  | init => exact @transfer_fails xdev info outcome state .write
  | print => exact @transfer_fails xdev info outcome state .read
  | dump => exact @transfer_fails xdev info outcome state .dump
  | start => exact start_fails mapped
  | reg => exact register_fails
  | setting => exact iff_of_false (not_fails rfl) id
  | stop =>
      obtain ⟨final, stopped, _⟩ := xdmaStop_run (info.channel.setWidth 8) info.dir state mapped
      have ran : runCommand xdev .stop info outcome state = (.ok 0, final) := bind_ok stopped
      exact iff_of_false (not_fails ran) id
  | exit =>
      by_cases failed : Fails (getXdmaCfg xdev info) state
      · exact iff_of_true (fails_bind_of_fails failed) (getXdmaCfg_fails.mp failed)
      · refine iff_of_false ?_ fun crashes => failed (getXdmaCfg_fails.mpr crashes)
        obtain ⟨cfg, middle, found⟩ := not_fails_iff.mp failed
        have ran : runCommand xdev .exit info outcome state = (.ok 0, middle) := bind_ok found
        exact not_fails ran

/-! ## Requests -/

theorem entryAt_some {size : Nat} {Entry : Type} {table : Fin size → Entry} {entry : Entry}
    (found : entryAt table index = some entry) : ∃ place, entry = table place := by
  unfold entryAt at found
  split at found
  · cases found
    exact ⟨_, rfl⟩
  · cases found

/-- The config that a request names, once it is found, is one of the board. -/
theorem getXdmaCfg_own {cfg : XdmaCfgInfo} {middle : Kernel}
    (found : getXdmaCfg xdev info state = (.ok cfg, middle)) :
    ∃ dir place, cfg = xdev.cfg dir place := by
  unfold getXdmaCfg at found
  split at found
  · cases entry : entryAt xdev.h2cDmaCfg (info.channel.toInt - 1) with
    | none =>
        rw [h2cDmaCfg_outside entry] at found
        cases found
    | some other =>
        rw [h2cDmaCfg_run entry] at found
        cases found
        obtain ⟨place, same⟩ := entryAt_some entry
        exact ⟨0, place, same⟩
  · cases entry : entryAt xdev.c2hDmaCfg (info.channel.toInt - 1) with
    | none =>
        rw [c2hDmaCfg_outside entry] at found
        cases found
    | some other =>
        rw [c2hDmaCfg_run entry] at found
        cases found
        obtain ⟨place, same⟩ := entryAt_some entry
        exact ⟨1, place, same⟩

theorem mmap_fails {ret : Int} (ready : Ready answers attempt idx bars xdev) :
    Fails (vi53xxXdmaMmap xdev ret) state ↔ ¬ ChannelNumber state.xdmaSetting.channel := by
  rw [← @getXdmaCfg_fails xdev state.xdmaSetting state]
  by_cases failed : Fails (getXdmaCfg xdev state.xdmaSetting) state
  · have bound : Fails (getXdmaCfg xdev state.xdmaSetting >>= fun cfg => xdmaMmap xdev cfg ret) state :=
      fails_bind_of_fails failed
    exact iff_of_true bound failed
  · refine iff_of_false ?_ failed
    obtain ⟨cfg, middle, found⟩ := not_fails_iff.mp failed
    obtain ⟨dir, place, rfl⟩ := getXdmaCfg_own found
    obtain ⟨direction, channel⟩ := ready.numbered
    have ran : vi53xxXdmaMmap xdev ret state = xdmaMmap xdev (xdev.cfg dir place) ret middle :=
      bind_ok found
    rw [xdmaMmap_run direction channel] at ran
    exact not_fails ran

theorem answer_fails (ready : Ready answers attempt idx bars xdev) (request : Request) :
    Fails (answer xdev request) state ↔ request.Crashes xdev state := by
  obtain ⟨base, there⟩ := Option.isSome_iff_exists.mp ready.mapped
  have mapped : xdev.bar 1 = some base := by
    rw [ready.bar]
    exact there
  cases request with
  | mmap ret => exact mmap_fails ready
  | ioctl cmd info outcome =>
      simp only [answer, vi53xxIoctl, Request.Crashes]
      by_cases typed : IOC_TYPE cmd = rtpcIoctlTypeXdma
      · rw [if_pos typed, vi53xxIoctlXdma, and_iff_right typed]
        cases known : XdmaCmd.ofNr (IOC_NR cmd) with
        | none => exact iff_of_false (not_fails rfl) (by simp)
        | some cmd =>
            dsimp only
            by_cases copied : outcome.infoMissed = 0
            · rw [if_neg (not_not.mpr (copyResult_infoMissed.mpr copied)), command_fails mapped]
              simp [copied]
            · rw [if_pos fun none_missed => copied (copyResult_infoMissed.mp none_missed)]
              exact iff_of_false (not_fails rfl) fun crashes => copied crashes.1
      · rw [if_neg typed]
        exact iff_of_false (not_fails rfl) fun crashes => typed crashes.1

/-! ## Probing -/

variable {env : ProbeEnv} {mapEnv : DeviceMapEnv} {pdev : PciDev} {xpdev : Nat} {ledger : Holdings}
  {hold : BusHold} {readReg : BitVec 32 → BitVec 32} {registry : Registry} {machine : Machine}

theorem present_none {bar : BarEnv} {place : Fin xdmaBarNum} (accepted : ¬ Rejected bar place) :
    present bar place = none ↔ bar.length place = 0 := by
  unfold present
  split
  · next absent => exact iff_of_true rfl absent
  · next there =>
      refine iff_of_false ?_ there
      intro missing
      exact accepted ⟨there, .inl missing⟩

theorem xdmaDeviceMap_some {after : Holdings}
    (mapped : xdmaDeviceMap mapEnv xpdev pdev ledger = (some hold, after)) :
    Maps mapEnv ∧ hold.bar = present mapEnv.bars := by
  have accepted : (mapBars mapEnv.bars .zeroed).1 = 0 → ∀ place, ¬ Rejected mapEnv.bars place := by
    intro zero place rejected
    obtain ⟨addresses, failed⟩ := mapBars_rejected rejected
    rw [failed] at zero
    exact absurd zero (by decide : -EINVAL ≠ 0)
  unfold xdmaDeviceMap requestRegions at mapped
  split at mapped
  · cases mapped
  · next allocated =>
      dsimp only at mapped
      split at mapped
      · cases mapped
      · next enabled =>
          by_cases free : mapEnv.requestRegions = 0
          · rw [if_neg (not_not.mpr free)] at mapped
            dsimp only at mapped
            split at mapped
            · next busy => exact absurd rfl busy
            · split at mapped
              · cases mapped
              · next zero =>
                  have unrejected := accepted (not_not.mp zero)
                  split at mapped
                  · cases mapped
                  · next masked =>
                      cases mapped
                      rw [mapBars_accepted unrejected]
                      refine ⟨⟨by simpa using allocated, not_not.mp enabled, free, unrejected,
                        not_not.mp masked⟩, ?_⟩
                      funext place
                      simp [mappedUpTo]
          · rw [if_pos free] at mapped
            dsimp only at mapped
            rw [if_pos free] at mapped
            cases mapped

theorem xdmaDeviceMap_maps (maps : Maps mapEnv) :
    (xdmaDeviceMap mapEnv xpdev pdev ledger).1 ≠ none := by
  simp [xdmaDeviceMap, requestRegions, maps.xdevAlloc, maps.enableDevice, maps.requestRegions,
    mapBars_accepted maps.bars, maps.dmaMask]

theorem known_iff {begun : List (BitVec 32)} (counters : registry.boardNameList = countedList begun) :
    (∃ name n, Known readReg registry name n) ↔ getBoardName (readReg deviceBoardType) ≠ none := by
  constructor
  · rintro ⟨name, n, known⟩
    rw [known.named]
    exact Option.some_ne_none name
  · intro named
    obtain ⟨name, found⟩ := Option.ne_none_iff_exists'.mp named
    obtain ⟨n, type, _⟩ := getBoardName_eq found
    refine ⟨name, n, found, ?_⟩
    simp only [counted, counters, getBoardInstance_list]
    rw [type]
    exact getMajorIdx_counted n

/-- A device that has been mapped is given its character device when its type is known
and the kernel registers it. -/
theorem xdmaProbe_zero_iff {begun : List (BitVec 32)}
    (counters : registry.boardNameList = countedList begun) (allocated : env.outcome.xpdevAlloc = true) :
    (xdmaProbe (env.mapped true) env.readReg pdev registry).1 = 0 ↔
      getBoardName (env.readReg deviceBoardType) ≠ none ∧ env.outcome.Registers := by
  rw [← @known_iff env.readReg registry begun counters]
  cases ran : xdmaProbe (env.mapped true) env.readReg pdev registry with
  | mk rv after =>
      have probed := xdmaProbe_probed ran
      dsimp only
      constructor
      · intro zero
        obtain ⟨succeeds, _⟩ := probed.success zero
        exact ⟨succeeds.known, succeeds.registers⟩
      · rintro ⟨known, registers⟩
        by_contra failure
        refine probed.failure failure ⟨?_, known, registers⟩
        simp [Asks, ProbeEnv.mapped, allocated]

theorem xdmaChannelInit_error_iff {idx : Nat} {bars : Fin xdmaBarNum → Option Nat} {kernel : Kernel} :
    Fails (xdmaChannelInit answers (.allocated idx bars)) kernel ↔ bars 1 = none := by
  cases there : bars 1 with
  | none =>
      refine iff_of_true ?_ rfl
      by_contra fine
      obtain ⟨xdev, final, ran⟩ := not_fails_iff.mp fine
      have mapped := (xdmaChannelInit_ready ran).1.mapped
      rw [there] at mapped
      cases mapped
  | some base =>
      obtain ⟨xdev, final, ran, _⟩ := xdmaChannelInit_run kernel there
      exact iff_of_false (not_fails ran) (Option.some_ne_none base)

theorem probeMapped_none_iff {begun : List (BitVec 32)}
    (counters : machine.plugged.registry.boardNameList = countedList begun)
    (allocated : env.outcome.xpdevAlloc = true) :
    probeMapped answers env pdev hold ledger machine = none ↔
      (hold.bar 0 = none ∨ ¬ InBar (env.map.bars.length 0) deviceBoardType) ∨
        ((hold.bar 1 = none ∨ ¬ ChannelInitInside (env.map.bars.length 1)) ∧
          getBoardName (env.readReg deviceBoardType) ≠ none ∧ env.outcome.Registers) := by
  have zero := @xdmaProbe_zero_iff env pdev machine.plugged.registry begun counters allocated
  have setUp := @xdmaChannelInit_error_iff answers machine.plugged.registry.allocated hold.bar
    (machine.kernel.xpdevAlloc machine.plugged.registry.allocated)
  unfold probeMapped
  dsimp only
  by_cases first : hold.bar 0 = none ∨ ¬ InBar (env.map.bars.length 0) deviceBoardType
  · rw [if_pos (by simpa using first)]
    exact iff_of_true rfl (.inl first)
  · rw [if_neg (by simpa using first), or_iff_right first]
    by_cases negative :
        (xdmaProbe (env.mapped true) env.readReg pdev machine.plugged.registry).1 < 0
    · rw [if_pos negative]
      refine iff_of_false (Option.some_ne_none _) ?_
      rintro ⟨_, succeeds⟩
      rw [zero.mpr succeeds] at negative
      exact absurd negative (by decide)
    · rw [if_neg negative, and_iff_left (zero.mp (xdmaProbe_not_neg negative)), ← setUp, Fails]
      by_cases inside : ChannelInitInside (env.map.bars.length 1)
      · rw [if_neg (not_not.mpr inside), or_iff_left (not_not.mpr inside)]
        split
        · next failed => simp [failed]
        · next failed => simp [failed]
      · rw [if_pos inside]
        exact iff_of_true rfl (.inr inside)

/-- A BAR that has a register is there. -/
theorem missing_iff {bar : BarEnv} {place : Fin xdmaBarNum} {reaches : Prop}
    (accepted : ¬ Rejected bar place) (empty : bar.length place = 0 → ¬ reaches) :
    (present bar place = none ∨ ¬ reaches) ↔ ¬ reaches := by
  rw [present_none accepted]
  exact ⟨fun either => either.elim empty id, .inr⟩

theorem probeMachine_none_iff {begun : List (BitVec 32)}
    (counters : machine.plugged.registry.boardNameList = countedList begun) :
    probeMachine answers env pdev machine = none ↔ env.Crashes := by
  unfold probeMachine ProbeEnv.Crashes
  dsimp only
  by_cases allocated : env.outcome.xpdevAlloc = true
  · rw [if_pos allocated, and_iff_right allocated]
    cases mapped : xdmaDeviceMap env.map machine.plugged.registry.allocated pdev
        (machine.ledger.take [.xpdev machine.plugged.registry.allocated]) with
    | mk found after =>
        cases found with
        | none =>
            refine iff_of_false (Option.some_ne_none _) ?_
            rintro ⟨maps, _⟩
            exact xdmaDeviceMap_maps maps (congrArg Prod.fst mapped)
        | some hold =>
            obtain ⟨maps, bars⟩ := xdmaDeviceMap_some mapped
            dsimp only
            have typed : env.map.bars.length 0 = 0 →
                ¬ InBar (env.map.bars.length 0) deviceBoardType := by
              intro zero
              rw [zero]
              decide
            have channels : env.map.bars.length 1 = 0 →
                ¬ ChannelInitInside (env.map.bars.length 1) := by
              intro zero
              rw [zero]
              decide
            rw [probeMapped_none_iff counters allocated, bars, missing_iff (maps.bars 0) typed,
              missing_iff (maps.bars 1) channels, and_iff_right maps]
  · rw [if_neg allocated]
    exact iff_of_false (Option.some_ne_none _) fun crashes => allocated crashes.1

/-! ## Every call -/

theorem machine_recorded {procs : ProcOutcome} {major : Fin boardTepeNum → BitVec 32}
    {kernel : Kernel} {calls : List MachineCall}
    (ran : runFrom (machineStep answers) (Machine.start procs major kernel) calls = some machine) :
    Recorded machine.plugged := by
  obtain ⟨plugCalls, plugged⟩ := machine_run_plugged ran
  exact recorded_run plugged

/-- A board whose removal has returned has no device. -/
theorem Recorded.unboarded {stuck : List Resource} (recorded : Recorded machine.plugged)
    (accounted : Accounted answers stuck machine) (removed : xpdev ∈ machine.plugged.removed) :
    machine.boards xpdev = none := by
  cases found : machine.boards xpdev with
  | none => rfl
  | some board =>
      exact absurd (accounted.whole xpdev board found).1 (recorded.gone xpdev removed).2.1

theorem requestMachine_none_iff {stuck : List Resource} {request : Request}
    (recorded : Recorded machine.plugged) (accounted : Accounted answers stuck machine)
    (possible : (MachineCall.request xpdev request).Possible machine) :
    requestMachine xpdev request machine = none ↔
      (MachineCall.request xpdev request).Crashes machine := by
  unfold requestMachine
  cases found : machine.boards xpdev with
  | none =>
      have gone : xpdev ∈ machine.plugged.removed := possible.resolve_left (by simp [found])
      simp [MachineCall.Crashes, found, gone]
  | some board =>
      obtain ⟨attempt, ready⟩ := (accounted.whole xpdev board found).2.ready
      have live : xpdev ∉ machine.plugged.removed := by
        intro removed
        rw [recorded.unboarded accounted removed] at found
        cases found
      have crashes : (MachineCall.request xpdev request).Crashes machine ↔
          Fails (answer board.xdev request) machine.kernel ∨
            ¬ request.Inside board.xdev board.length machine.kernel := by
        simp [MachineCall.Crashes, live, found, answer_fails ready]
      rw [crashes, Fails]
      dsimp only
      by_cases inside : request.Inside board.xdev board.length machine.kernel
      · rw [if_pos inside, or_iff_left (not_not.mpr inside)]
        split
        · next failed => simp [failed]
        · next failed => simp [failed]
      · rw [if_neg inside]
        exact iff_of_true rfl (.inr inside)

theorem deviceWrite_none_iff {plugged : Plugged} {name : List Char} {on : Bool}
    (recorded : Recorded plugged) :
    deviceWrite name on plugged = none ↔
      ∃ xpdev ∈ plugged.removed, ⟨name, .device xpdev⟩ ∈ plugged.registry.procEntries := by
  have missing {xpdev : Nat} (entry : ⟨name, .device xpdev⟩ ∈ plugged.registry.procEntries) :
      plugged.registry.xpdevs xpdev = none ↔ xpdev ∈ plugged.removed := by
    constructor
    · intro freed
      rcases recorded.filed xpdev ⟨_, entry, rfl⟩ with listed | removed
      · exact absurd freed (recorded.live xpdev listed)
      · exact removed
    · exact fun removed => (recorded.gone xpdev removed).2.2
  unfold deviceWrite
  constructor
  · intro stuck
    split at stuck
    · next other xpdev found =>
        have same : other = name := by simpa using List.find?_some found
        subst same
        have entry := List.mem_of_find?_eq_some found
        exact ⟨xpdev, (missing entry).mp (Option.map_eq_none_iff.mp stuck), entry⟩
    · cases stuck
  · rintro ⟨xpdev, removed, entry⟩
    rw [(find_entry recorded.named).mpr entry]
    exact Option.map_eq_none_iff.mpr ((missing entry).mpr removed)

theorem timerIsr_none_iff {plugged : Plugged} (recorded : Recorded plugged)
    (pending : plugged.ledTimers xpdev = true) :
    timerIsr xpdev plugged = none ↔ xpdev ∈ plugged.removed := by
  rw [timerIsr, if_pos pending, Option.map_eq_none_iff]
  constructor
  · intro freed
    rcases recorded.timers xpdev pending with listed | removed
    · exact absurd freed (recorded.live xpdev listed)
    · exact removed
  · exact fun removed => (recorded.gone xpdev removed).2.2

theorem machineStep_none_iff {stuck : List Resource} {call : MachineCall}
    (recorded : Recorded machine.plugged) (accounted : Accounted answers stuck machine)
    (possible : call.Possible machine) :
    machineStep answers machine call = none ↔ call.Crashes machine := by
  cases call with
  | probe env pdev =>
      obtain ⟨begun, counters⟩ := recorded.counters
      have unbound : machine.plugged.drvdata pdev = none := possible
      simp only [machineStep, unbound, Option.isSome_none, Bool.false_eq_true, if_false]
      exact probeMachine_none_iff counters
  | remove pdev intact => exact accounted.removable_iff
  | request xpdev request => exact requestMachine_none_iff recorded accounted possible
  | deviceWrite name on =>
      simp only [machineStep, deviceWriteMachine, Option.map_eq_none_iff]
      exact deviceWrite_none_iff recorded
  | timerIsr xpdev =>
      simp only [machineStep, timerIsrMachine, Option.map_eq_none_iff]
      exact timerIsr_none_iff recorded possible

end Vi53xx.Driver
