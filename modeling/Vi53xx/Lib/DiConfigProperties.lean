import Vi53xx.Lib.DiValueProperties
import Vi53xx.Foundation.Runs
import Mathlib.Tactic.IntervalCases

/-! The registers of the digital inputs while settings are made one after the other. The
four groups share the pulse of `DIN_VLD`, so each call clears the other groups first. -/

set_option autoImplicit false

namespace Vi53xx.Lib

open Foundation

variable {process : DiProcess} {regs other : RegFile} {channel highlow : Int}
  {value offset val : BitVec 32} {actions : List DiAction} {setting : DiSetting}

def IsOpen (process : DiProcess) : Prop :=
  ∃ handle, getDevHandle process.state process.boardId = some handle

def inputRegisters : List (BitVec 32) := [DIN1, DIN2, DIN3, DIN4]

/-! ## Single actions -/

def setReg (regs : RegFile) (offset val : BitVec 32) : RegFile :=
  fun place => if place = offset then val else regs place

theorem perform_write (opened : IsOpen process) :
    perform process regs (.writeRegister BAR0 offset val) = setReg regs offset val := by
  obtain ⟨handle, found⟩ := opened
  have bar : ¬ (BAR0.toInt < 0 ∨ 1 < BAR0.toInt) := by decide
  have wr : ¬ (RTPC_WRITE.toInt < 0 ∨ 1 < RTPC_WRITE.toInt) := by decide
  have sent : vi53xxWriteRegister process.state process.stack process.boardId BAR0 offset val =
      .ok (handle.devHandle, rtpcIoctlXdma .reg, { process.stack with
        bar := BAR0, offset, wr := RTPC_WRITE, wVal := val }) := by
    simp only [vi53xxWriteRegister, sendTo, found, vi53xxXdmaReadWriteReg, if_neg bar, if_neg wr]
    rfl
  rw [perform, sent]
  rfl

theorem perform_usleep {microseconds : Nat} :
    perform process regs (.usleep microseconds) = regs := rfl

/-- The switch writes the value to the register of the group and 0 to the other three. -/
theorem groupConfig_writes (boardId : BitVec 32) (val : BitVec 32) (low : 1 ≤ channel)
    (high : channel ≤ 16) :
    ∃ second third fourth, groupConfig boardId channel val =
        [dinConfig (ownRegister channel) val, dinConfig second 0, dinConfig third 0,
          dinConfig fourth 0] ∧
      [ownRegister channel, second, third, fourth].Perm inputRegisters := by
  obtain first | second | third | fourth : channel ≤ 4 ∨ (4 < channel ∧ channel ≤ 8) ∨
      (8 < channel ∧ channel ≤ 12) ∨ 12 < channel := by omega
  · interval_cases channel <;> exact ⟨DIN3, DIN2, DIN1, rfl, by decide⟩
  · obtain ⟨above, below⟩ := second
    interval_cases channel <;> exact ⟨DIN4, DIN2, DIN1, rfl, by decide⟩
  · obtain ⟨above, below⟩ := third
    interval_cases channel <;> exact ⟨DIN3, DIN4, DIN1, rfl, by decide⟩
  · interval_cases channel <;> exact ⟨DIN2, DIN3, DIN4, rfl, by decide⟩

/-- The registers of the groups after the switch. -/
def grouped (channel : Int) (val : BitVec 32) (regs : RegFile) : RegFile :=
  fun place =>
    if place = ownRegister channel then val
    else if place ∈ inputRegisters then 0
    else regs place

theorem performAll_group (opened : IsOpen process) (low : 1 ≤ channel) (high : channel ≤ 16) :
    performAll process regs (groupConfig process.boardId channel val) =
      grouped channel val regs := by
  obtain ⟨second, third, fourth, written, perm⟩ :=
    groupConfig_writes process.boardId val low high
  have distinct : [ownRegister channel, second, third, fourth].Nodup :=
    perm.nodup_iff.mpr (by decide)
  have members : ∀ place, place ∈ inputRegisters ↔
      place = ownRegister channel ∨ place = second ∨ place = third ∨ place = fourth := by
    intro place
    rw [← perm.mem_iff]
    simp
  rw [written]
  simp only [performAll, List.foldl_cons, List.foldl_nil, dinConfig, perform_write opened]
  funext place
  simp only [List.nodup_cons, List.mem_cons, List.not_mem_nil, or_false, not_or] at distinct
  obtain ⟨⟨apart2, apart3, apart4⟩, _⟩ := distinct
  by_cases own : place = ownRegister channel
  · simp [grouped, setReg, own, apart2, apart3, apart4]
  · by_cases input : place = second ∨ place = third ∨ place = fourth
    · have member : place ∈ inputRegisters := (members place).mpr (.inr input)
      rcases input with rfl | rfl | rfl <;> simp [grouped, setReg, own, member]
    · have absent : place ∉ inputRegisters := fun member =>
        ((members place).mp member).elim own input
      simp only [not_or] at input
      simp [grouped, setReg, own, absent, input]

/-! ## A call -/

/-- The actions up to the moment at which `DIN_VLD` becomes 1. -/
def upToPulse (actions : List DiAction) : List DiAction :=
  actions.takeWhile (fun action => action ≠ dinVld 1) ++ [dinVld 1]

/-- The input registers at that moment. -/
def latched (process : DiProcess) (regs : RegFile) (actions : List DiAction) :
    List (BitVec 32) :=
  inputRegisters.map (performAll process regs (upToPulse actions))

theorem ownRegister_mem : ownRegister channel ∈ inputRegisters := by
  unfold ownRegister
  split_ifs <;> decide

theorem dinVld_no_input : DIN_VLD ∉ inputRegisters := by decide

theorem groupConfig_no_pulse (boardId : BitVec 32) (low : 1 ≤ channel) (high : channel ≤ 16) :
    dinVld 1 ∉ groupConfig boardId channel val := by
  obtain ⟨second, third, fourth, written, perm⟩ := groupConfig_writes boardId val low high
  have apart : ∀ place written, place ∈ [ownRegister channel, second, third, fourth] →
      dinVld 1 ≠ dinConfig place written := by
    intro place written member same
    have place_eq : DIN_VLD = place := (DiAction.writeRegister.inj same).2.1
    exact dinVld_no_input (place_eq ▸ perm.mem_iff.mp member)
  rw [written]
  intro member
  simp only [List.mem_cons, List.not_mem_nil, or_false] at member
  rcases member with same | same | same | same
  · exact apart _ _ (by simp) same
  · exact apart _ _ (by simp) same
  · exact apart _ _ (by simp) same
  · exact apart _ _ (by simp) same

theorem upToPulse_call (boardId : BitVec 32) (low : 1 ≤ channel) (high : channel ≤ 16) :
    upToPulse (callDiConfig boardId channel val) =
      groupConfig boardId channel val ++ [dinVld 1] := by
  have before : ∀ action ∈ groupConfig boardId channel val,
      decide (action ≠ dinVld 1) = true := by
    intro action member
    refine decide_eq_true ?_
    rintro rfl
    exact groupConfig_no_pulse boardId low high member
  rw [upToPulse, callDiConfig, List.takeWhile_append_of_pos before]
  simp

theorem pulse_once (boardId : BitVec 32) (low : 1 ≤ channel) (high : channel ≤ 16) :
    (callDiConfig boardId channel val).count (dinVld 1) = 1 := by
  rw [callDiConfig, List.count_append,
    List.count_eq_zero_of_not_mem (groupConfig_no_pulse boardId low high)]
  decide

theorem performAll_append (first second : List DiAction) :
    performAll process regs (first ++ second) =
      performAll process (performAll process regs first) second :=
  List.foldl_append

theorem performAll_pulse (opened : IsOpen process) (low : 1 ≤ channel) (high : channel ≤ 16) :
    performAll process regs (upToPulse (callDiConfig process.boardId channel val)) =
      setReg (grouped channel val regs) DIN_VLD 1 := by
  rw [upToPulse_call process.boardId low high, performAll_append, performAll_group opened low high]
  exact perform_write opened

theorem performAll_call (opened : IsOpen process) (low : 1 ≤ channel) (high : channel ≤ 16) :
    performAll process regs (callDiConfig process.boardId channel val) =
      setReg (grouped channel val regs) DIN_VLD 0 := by
  rw [callDiConfig, performAll_append, performAll_group opened low high]
  simp only [performAll, List.foldl_cons, List.foldl_nil, dinVld, perform_write opened,
    perform_usleep]
  funext place
  simp only [setReg]
  split <;> rfl

theorem latched_call (opened : IsOpen process) (low : 1 ≤ channel) (high : channel ≤ 16) :
    latched process regs (callDiConfig process.boardId channel val) =
      inputRegisters.map fun place => if place = ownRegister channel then val else 0 := by
  rw [latched, performAll_pulse opened low high]
  apply List.map_congr_left
  intro place member
  have apart : place ≠ DIN_VLD := fun same => dinVld_no_input (same ▸ member)
  simp [setReg, apart, grouped, member]

theorem one_nonzero (nonzero : val ≠ 0) :
    (inputRegisters.map fun place => if place = ownRegister channel then val else 0).countP
      (fun held => held ≠ 0) = 1 := by
  have own : ((fun held : BitVec 32 => decide (held ≠ 0)) ∘ fun place =>
      if place = ownRegister channel then val else 0) =
      fun place => place == ownRegister channel := by
    funext place
    by_cases same : place = ownRegister channel
    · simp only [Function.comp_apply, same, if_true, decide_eq_true nonzero, beq_self_eq_true]
    · simp [same]
  rw [List.countP_map, own]
  exact List.count_eq_one_of_mem (by decide) ownRegister_mem

/-- The four registers tell the group and the value. -/
theorem latched_injective {otherChannel : Int} {otherVal : BitVec 32} (nonzero : otherVal ≠ 0)
    (same : (inputRegisters.map fun place =>
        if place = ownRegister otherChannel then otherVal else 0) =
      inputRegisters.map fun place => if place = ownRegister channel then val else 0) :
    ownRegister otherChannel = ownRegister channel ∧ otherVal = val := by
  have here := List.map_inj_left.mp same (ownRegister otherChannel) ownRegister_mem
  rw [if_pos rfl] at here
  split at here
  · next group => exact ⟨group, here⟩
  · exact absurd here nonzero

/-! ## The settings of a run -/

/-- Among all channels, levels and codes of ten bits, the latched registers are those of
this setting only. -/
def Determines (process : DiProcess) (latch : List (BitVec 32)) (setting : DiSetting) : Prop :=
  ∀ regs channel highlow code value, ValidInput channel highlow → code.toNat < 1024 →
    getRegValue channel highlow code = .ok value →
      latched process regs (callDiConfig process.boardId channel value) = latch →
        channel = setting.channel ∧ highlow = setting.highlow ∧ code = getInputCode setting.value

/-- What a call makes of the registers it meets. -/
structure LatchesSetting (process : DiProcess) (regs : RegFile) (setting : DiSetting)
    (actions : List DiAction) : Prop where
  pulse : actions.count (dinVld 1) = 1 ∧ performAll process regs (upToPulse actions) DIN_VLD = 1
  single : (latched process regs actions).countP (fun held => held ≠ 0) = 1
  code : (getInputCode setting.value).toNat < 1024
  determined : Determines process (latched process regs actions) setting
  cleared : performAll process regs actions DIN_VLD = 0
  others : ∀ place, place ∉ inputRegisters → place ≠ DIN_VLD →
    performAll process regs actions place = regs place

def Latches (process : DiProcess) (regs : RegFile) (setting : DiSetting) : Prop :=
  ∃ actions, handlerDiConfig process.boardId setting.channel setting.highlow setting.value =
      .ok actions ∧ LatchesSetting process regs setting actions

def ValidSetting (setting : DiSetting) : Prop :=
  ValidInput setting.channel setting.highlow ∧ 0 ≤ setting.value ∧ setting.value < V

theorem ValidSetting.code_lt (valid : ValidSetting setting) :
    (getInputCode setting.value).toNat < 1024 :=
  (inputCode_lt_iff valid.2.1 valid.2.2.le).mpr valid.2.2

theorem ValidSetting.determines (valid : ValidSetting setting) (opened : IsOpen process)
    (found : getControl setting.channel setting.highlow = .ok value)
    (small : value.toNat ≤ 8) :
    Determines process (latched process regs (callDiConfig process.boardId setting.channel
      ((value <<< MASK) ||| (getInputCode setting.value <<< 2)))) setting := by
  intro otherRegs channel highlow code written other low encoded same
  obtain ⟨control, read, positive, bounded⟩ := getControl_valid other
  rw [getRegValue_of_control read] at encoded
  obtain rfl := Except.ok.inj encoded
  rw [latched_call opened other.1.1 other.1.2,
    latched_call opened valid.1.1.1 valid.1.1.2] at same
  obtain ⟨group, equal⟩ := latched_injective (regValue_nonzero positive bounded low) same
  obtain ⟨rfl, codes⟩ := regValue_injective small bounded valid.code_lt low equal
  obtain ⟨channels, levels⟩ :=
    getControl_injective valid.1 other group (read.trans found.symm)
  exact ⟨channels, levels, codes⟩

theorem ValidSetting.latches (valid : ValidSetting setting) (opened : IsOpen process) :
    Latches process regs setting := by
  obtain ⟨control, found, positive, small⟩ := getControl_valid valid.1
  obtain ⟨low, high⟩ := valid.1.1
  have nonzero := regValue_nonzero positive small valid.code_lt
  refine ⟨callDiConfig process.boardId setting.channel
    ((control <<< MASK) ||| (getInputCode setting.value <<< 2)), ?_, ?_⟩
  · simp only [handlerDiConfig, getDiValue, getRegValue_of_control found, Except.map]
  · refine ⟨⟨pulse_once process.boardId low high, ?_⟩, ?_, valid.code_lt,
      valid.determines opened found small, ?_, ?_⟩
    · rw [performAll_pulse opened low high]
      exact if_pos rfl
    · rw [latched_call opened low high]
      exact one_nonzero nonzero
    · rw [performAll_call opened low high]
      exact if_pos rfl
    · intro place outside apart
      have own : place ≠ ownRegister setting.channel := by
        rintro rfl
        exact outside ownRegister_mem
      rw [performAll_call opened low high]
      simp [setReg, apart, grouped, own, outside]

/-- On an open board, whatever the registers hold before, each of a sequence of settings
is latched as the only setting that its four registers stand for. -/
theorem pulses_latch {settings : List DiSetting} (opened : IsOpen process)
    (valid : ∀ setting ∈ settings, ValidSetting setting) :
    EachStep (diStep process) (Latches process) regs settings := by
  refine EachStep.mono ?_ (eachStep_of_forall valid)
  intro reached setting valid
  exact ValidSetting.latches valid opened

/-- Board 7, open with descriptor 3. -/
def board7 : DiProcess where
  state := { LibState.loaded with
    availableBoardCount := 1
    devHandleList := Slots.empty.store 0 ⟨3, 7, []⟩ }
  stack := XdmaInfo.cleared
  boardId := 7

theorem pulses_latch_two :
    EachStep (diStep board7) (Latches board7) (fun _ => 0xffffffff)
      [⟨1, 0, 1⟩, ⟨16, 1, 9 / 4⟩] := by
  refine pulses_latch ⟨⟨3, 7, []⟩, rfl⟩ ?_
  intro setting member
  simp only [List.mem_cons, List.not_mem_nil, or_false] at member
  rcases member with rfl | rfl
  · exact ⟨⟨by decide, .inl rfl⟩, by norm_num, by norm_num [V]⟩
  · exact ⟨⟨by decide, .inr rfl⟩, by norm_num, by norm_num [V]⟩

/-! ## An unknown input -/

theorem diHl_columns {level : Nat} {levels : List (BitVec 32)} (row : diHl[level]? = some levels) :
    level < 2 ∧ levels.length = 17 := by
  have low : level < 2 := (List.getElem?_eq_some_iff.mp row).1
  interval_cases level
  · cases row
    exact ⟨low, rfl⟩
  · cases row
    exact ⟨low, rfl⟩

theorem getControl_unknown (unknown : ¬ ValidInput channel highlow) :
    getControl channel highlow = .error .outOfBounds ∨
      channel = 0 ∧ getControl channel highlow = .ok 0 := by
  unfold getControl
  split
  · exact .inl rfl
  · next low =>
      simp only [not_or, not_lt] at low
      obtain ⟨place, rfl⟩ := Int.eq_ofNat_of_zero_le low.1
      obtain ⟨level, rfl⟩ := Int.eq_ofNat_of_zero_le low.2
      simp only [Int.toNat_natCast]
      cases row : diHl[level]? with
      | none => exact .inl rfl
      | some levels =>
          obtain ⟨small, columns⟩ := diHl_columns row
          by_cases first : place = 0
          · subst first
            right
            interval_cases level
            · cases row
              exact ⟨rfl, rfl⟩
            · cases row
              exact ⟨rfl, rfl⟩
          · left
            have far : levels.length ≤ place := by
              by_contra near
              refine unknown ⟨⟨?_, ?_⟩, ?_⟩ <;> omega
            simp [List.getElem?_eq_none far]

/-- All table reads are inside the table, and no register is written. -/
def ChangesNothing (boardId : BitVec 32) (channel highlow : Int) (v : ℚ) : Prop :=
  ∃ actions, handlerDiConfig boardId channel highlow v = .ok actions ∧
    ∀ bar offset val, .writeRegister bar offset val ∉ actions

theorem callDiConfig_pulses (boardId : BitVec 32) : dinVld 1 ∈ callDiConfig boardId channel val := by
  simp [callDiConfig]

theorem not_changesNothing (boardId : BitVec 32) (v : ℚ) :
    ¬ ChangesNothing boardId channel highlow v := by
  rintro ⟨actions, called, silent⟩
  cases valued : getDiValue channel highlow v with
  | error fault => simp [handlerDiConfig, valued, Except.map] at called
  | ok value =>
      simp only [handlerDiConfig, valued, Except.map, Except.ok.injEq] at called
      subst called
      exact silent _ _ _ (callDiConfig_pulses boardId)

/-- A setting for an unknown channel or level reads outside the table, or latches what
the input registers hold: this is so for channel 0, which has a column of its own. -/
theorem unknown_never_silent (boardId : BitVec 32) (v : ℚ)
    (unknown : ¬ ValidInput channel highlow) :
    ¬ ChangesNothing boardId channel highlow v ∧
      (handlerDiConfig boardId channel highlow v = .error .outOfBounds ∨
        channel = 0 ∧ handlerDiConfig boardId channel highlow v =
          .ok [.printf (unknownChannel boardId 0), dinVld 1, .usleep 1000, dinVld 0]) := by
  refine ⟨not_changesNothing boardId v, ?_⟩
  rcases getControl_unknown unknown with outside | ⟨rfl, found⟩
  · left
    simp only [handlerDiConfig, getDiValue, getRegValue, outside, Except.map]
  · right
    refine ⟨rfl, ?_⟩
    simp only [handlerDiConfig, getDiValue, getRegValue_of_control found, Except.map]
    rfl

theorem unknown_never_silent_zero :
    ¬ ChangesNothing 7 0 0 1 ∧
      (handlerDiConfig 7 0 0 1 = .error .outOfBounds ∨
        (0 : Int) = 0 ∧ handlerDiConfig 7 0 0 1 =
          .ok [.printf (unknownChannel 7 0), dinVld 1, .usleep 1000, dinVld 0]) := by
  refine unknown_never_silent 7 1 ?_
  rintro ⟨⟨low, _⟩, _⟩
  exact absurd low (by decide)

/-- Channel 0 at the low level is announced as unknown, and `DIN_VLD` is pulsed. -/
theorem channel_zero_pulses :
    ¬ ValidInput 0 0 ∧ ¬ ChangesNothing 7 0 0 1 := by
  refine ⟨?_, ?_⟩
  · rintro ⟨⟨low, _⟩, _⟩
    exact absurd low (by decide)
  · rintro ⟨actions, called, silent⟩
    simp only [handlerDiConfig, getDiValue, getRegValue] at called
    cases called
    exact silent BAR0 DIN_VLD 1 (by simp [callDiConfig, dinVld])

end Vi53xx.Lib
