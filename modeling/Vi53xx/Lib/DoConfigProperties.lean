import Vi53xx.Lib.DoConfig
import Vi53xx.Lib.DiConfigProperties

/-! The registers of the digital outputs while inputs and outputs are set in any order.
Each of them has a place of its own, so it holds what has been written to it last. -/

set_option autoImplicit false

namespace Vi53xx.Lib

open Foundation

variable {process : DiProcess} {regs next final : RegFile} {en ref : BitVec 8} {channel : Int}
  {number index other : Nat} {setting : DiSetting} {call : IoCall} {calls : List IoCall}

/-! ## Places -/

/-- The words from `DO1_En` up to `F_VOLT_SEC_REF`. -/
def outputPlace (index : Nat) : BitVec 32 := BitVec.ofNat 32 (0x10100 + 4 * index)

theorem outputPlace_inj (small : index ≤ 32) (bounded : other ≤ 32) :
    outputPlace index = outputPlace other ↔ index = other := by
  constructor
  · intro same
    have values := congrArg BitVec.toNat same
    simp only [outputPlace, BitVec.toNat_ofNat] at values
    omega
  · rintro rfl
    rfl

theorem outputPlace_no_input (small : index ≤ 32) :
    outputPlace index ∉ inputRegisters ∧ outputPlace index ≠ DIN_VLD := by
  have low : (outputPlace index).toNat < 0x20000 := by
    simp only [outputPlace, BitVec.toNat_ofNat]
    omega
  have inputs : (inputRegisters.all fun place => decide (0x20000 ≤ place.toNat)) = true := by
    decide +kernel
  constructor
  · intro member
    have high := of_decide_eq_true (List.all_eq_true.mp inputs _ member)
    omega
  · intro same
    rw [same] at low
    exact absurd low (by decide +kernel)

/-! ## Calls -/

theorem callDoConfig_known (boardId : BitVec 32) (low : 1 ≤ number) (high : number ≤ 16) :
    callDoConfig boardId number en ref =
      doConfig (outputPlace (2 * (number - 1))) (outputPlace (2 * (number - 1) + 1)) en ref := by
  interval_cases number <;> rfl

theorem callDoConfig_unknown (boardId : BitVec 32) (unknown : ¬ (1 ≤ channel ∧ channel ≤ 16)) :
    callDoConfig boardId channel en ref = [.printf (unknownOutput boardId channel)] := by
  unfold callDoConfig
  split
  case h_17 => rfl
  all_goals exact absurd ⟨by decide, by decide⟩ unknown

theorem performAll_doConfig {enName refName : BitVec 32} (opened : IsOpen process) :
    performAll process regs (doConfig enName refName en ref) =
      setReg (setReg regs enName (en.setWidth 32)) refName (ref.setWidth 32) := by
  simp only [performAll, doConfig, List.foldl_cons, List.foldl_nil, perform_write opened]

/-- Setting an input leaves every register but those of the inputs. -/
theorem diStep_valid (opened : IsOpen process)
    (valid : ValidInput setting.channel setting.highlow) :
    ∃ next, diStep process regs setting = some next ∧
      ∀ place, place ∉ inputRegisters → place ≠ DIN_VLD → next place = regs place := by
  obtain ⟨control, found, _, _⟩ := getControl_valid valid
  obtain ⟨low, high⟩ := valid.1
  refine ⟨performAll process regs (callDiConfig process.boardId setting.channel
    ((control <<< MASK) ||| (getInputCode setting.value <<< 2))), ?_, ?_⟩
  · simp only [diStep, handlerDiConfig, getDiValue, getRegValue_of_control found, Except.map,
      Except.toOption, Option.map_some]
  · intro place outside apart
    have own : place ≠ ownRegister setting.channel := by
      rintro rfl
      exact outside ownRegister_mem
    rw [performAll_call opened low high]
    simp [setReg, apart, grouped, own, outside]

/-! ## One call -/

def KnownOutput (channel : Int) : Prop := 1 ≤ channel ∧ channel ≤ 16

instance : Decidable (KnownOutput channel) := inferInstanceAs (Decidable (_ ∧ _))

/-- What a call writes to one of the words. -/
def writtenAt (index : Nat) : IoCall → Option (BitVec 32)
  | .doConfig channel en ref =>
      if KnownOutput channel then
        if index = 2 * (channel - 1) then some (en.setWidth 32)
        else if index = 2 * (channel - 1) + 1 then some (ref.setWidth 32)
        else none
      else none
  | .fVoitSecRef val => if index = 32 then some (val.setWidth 32) else none
  | .diConfig _ => none

/-- The call has the arguments of an input if it sets one. -/
def ValidCall : IoCall → Prop
  | .diConfig setting => ValidInput setting.channel setting.highlow
  | _ => True

theorem ioStep_doConfig (opened : IsOpen process) (low : 1 ≤ number) (high : number ≤ 16) :
    ioStep process regs (.doConfig number en ref) =
      some (setReg (setReg regs (outputPlace (2 * (number - 1))) (en.setWidth 32))
        (outputPlace (2 * (number - 1) + 1)) (ref.setWidth 32)) := by
  rw [ioStep, handlerDoConfig, callDoConfig_known process.boardId low high,
    performAll_doConfig opened]

theorem ioStep_unknown (unknown : ¬ KnownOutput channel) :
    ioStep process regs (.doConfig channel en ref) = some regs := by
  rw [ioStep, handlerDoConfig, callDoConfig_unknown process.boardId unknown]
  rfl

theorem ioStep_completes (opened : IsOpen process) (valid : ValidCall call) :
    ∃ next, ioStep process regs call = some next := by
  cases call with
  | doConfig | fVoitSecRef => exact ⟨_, rfl⟩
  | diConfig setting =>
      obtain ⟨next, stepped, _⟩ := diStep_valid opened valid
      exact ⟨next, stepped⟩

theorem doConfig_written (low : 1 ≤ number) (high : number ≤ 16) (small : index ≤ 32) :
    setReg (setReg regs (outputPlace (2 * (number - 1))) (en.setWidth 32))
        (outputPlace (2 * (number - 1) + 1)) (ref.setWidth 32) (outputPlace index) =
      (writtenAt index (.doConfig number en ref)).getD (regs (outputPlace index)) := by
  have known : KnownOutput number := ⟨by omega, by omega⟩
  have first := @outputPlace_inj index (2 * (number - 1)) small (by omega)
  have second := @outputPlace_inj index (2 * (number - 1) + 1) small (by omega)
  have even : (index : Int) = 2 * ((number : Int) - 1) ↔ index = 2 * (number - 1) := by omega
  have odd : (index : Int) = 2 * ((number : Int) - 1) + 1 ↔ index = 2 * (number - 1) + 1 := by
    omega
  simp only [setReg, first, second, writtenAt, known, if_true, even, odd]
  by_cases here : index = 2 * (number - 1)
  · have apart : index ≠ 2 * (number - 1) + 1 := by omega
    rw [if_neg apart, if_pos here, if_pos here]
    rfl
  · by_cases there : index = 2 * (number - 1) + 1
    · rw [if_pos there, if_neg here, if_pos there]
      rfl
    · rw [if_neg there, if_neg here, if_neg here, if_neg there]
      rfl

/-- A call writes to a word of the outputs what is its own there, and nothing else. -/
theorem ioStep_written (opened : IsOpen process) (valid : ValidCall call)
    (stepped : ioStep process regs call = some next) (small : index ≤ 32) :
    next (outputPlace index) = (writtenAt index call).getD (regs (outputPlace index)) := by
  cases call with
  | doConfig channel en ref =>
      by_cases known : KnownOutput channel
      · obtain ⟨low, high⟩ := known
        obtain ⟨number, rfl⟩ := Int.eq_ofNat_of_zero_le (show 0 ≤ channel by omega)
        rw [ioStep_doConfig opened (by omega) (by omega)] at stepped
        cases stepped
        exact doConfig_written (by omega) (by omega) small
      · rw [ioStep_unknown known] at stepped
        cases stepped
        simp only [writtenAt, known, if_false, Option.getD_none]
  | fVoitSecRef val =>
      have place : F_VOLT_SEC_REF = outputPlace 32 := rfl
      have same := @outputPlace_inj index 32 small (by omega)
      simp only [ioStep, handlerFVoitSecRef, performAll, List.foldl_cons, List.foldl_nil,
        perform_write opened, Option.some.injEq] at stepped
      subst stepped
      simp only [setReg, place, same, writtenAt]
      split
      · rfl
      · rfl
  | diConfig setting =>
      obtain ⟨reached, taken, kept⟩ := @diStep_valid process regs setting opened valid
      obtain rfl : reached = next := Option.some.inj (taken.symm.trans stepped)
      obtain ⟨outside, apart⟩ := outputPlace_no_input small
      exact kept _ outside apart

/-! ## Runs -/

theorem outputs_written (opened : IsOpen process) (valid : ∀ call ∈ calls, ValidCall call)
    (ran : runFrom (ioStep process) regs calls = some final) (small : index ≤ 32) :
    final (outputPlace index) =
      (lastWrite (writtenAt index) calls).getD (regs (outputPlace index)) := by
  refine @runFrom_lastWrite _ _ (ioStep process) (fun _ call => ValidCall call) _
    (fun regs => regs (outputPlace index)) (writtenAt index) regs final calls ?_
    (eachStep_of_forall valid) ran
  intro reached call next valid stepped
  exact ioStep_written opened valid stepped small

/-- What a call gives the `En` register of an output. -/
def enOf (number : Nat) : IoCall → Option (BitVec 32)
  | .doConfig channel en _ => if channel = number then some (en.setWidth 32) else none
  | _ => none

def refOf (number : Nat) : IoCall → Option (BitVec 32)
  | .doConfig channel _ ref => if channel = number then some (ref.setWidth 32) else none
  | _ => none

def secRefOf : IoCall → Option (BitVec 32)
  | .fVoitSecRef val => some (val.setWidth 32)
  | _ => none

theorem writtenAt_en (low : 1 ≤ number) (high : number ≤ 16) :
    writtenAt (2 * (number - 1)) = enOf number := by
  funext call
  cases call with
  | doConfig channel en ref =>
      by_cases same : channel = number
      · subst same
        have known : KnownOutput number := ⟨by omega, by omega⟩
        have place : ((2 * (number - 1) : Nat) : Int) = 2 * ((number : Int) - 1) := by omega
        simp only [writtenAt, enOf, known, place, if_true]
      · have first : ((2 * (number - 1) : Nat) : Int) ≠ 2 * (channel - 1) := by omega
        have second : ((2 * (number - 1) : Nat) : Int) ≠ 2 * (channel - 1) + 1 := by omega
        simp only [writtenAt, enOf, first, second, same, if_false, ite_self]
  | fVoitSecRef val =>
      have apart : 2 * (number - 1) ≠ 32 := by omega
      simp only [writtenAt, enOf, apart, if_false]
  | diConfig setting => rfl

theorem writtenAt_ref (low : 1 ≤ number) (high : number ≤ 16) :
    writtenAt (2 * (number - 1) + 1) = refOf number := by
  funext call
  cases call with
  | doConfig channel en ref =>
      have first : ((2 * (number - 1) + 1 : Nat) : Int) ≠ 2 * (channel - 1) := by omega
      by_cases same : channel = number
      · subst same
        have known : KnownOutput number := ⟨by omega, by omega⟩
        have place : ((2 * (number - 1) + 1 : Nat) : Int) = 2 * ((number : Int) - 1) + 1 := by omega
        simp only [writtenAt, refOf, known, if_true, if_neg first, if_pos place]
      · have second : ((2 * (number - 1) + 1 : Nat) : Int) ≠ 2 * (channel - 1) + 1 := by omega
        simp only [writtenAt, refOf, first, second, same, if_false, ite_self]
  | fVoitSecRef val =>
      have apart : 2 * (number - 1) + 1 ≠ 32 := by omega
      simp only [writtenAt, refOf, apart, if_false]
  | diConfig setting => rfl

theorem writtenAt_secRef : writtenAt 32 = secRefOf := by
  funext call
  cases call with
  | doConfig channel en ref =>
      by_cases known : KnownOutput channel
      · obtain ⟨low, high⟩ := known
        have first : ((32 : Nat) : Int) ≠ 2 * (channel - 1) := by omega
        have second : ((32 : Nat) : Int) ≠ 2 * (channel - 1) + 1 := by omega
        simp only [writtenAt, secRefOf, first, second, if_false, ite_self]
      · simp only [writtenAt, secRefOf, known, if_false]
  | fVoitSecRef val => rfl
  | diConfig setting => rfl

/-- Each register of the outputs holds the last value given to it. -/
structure OutputsHold (regs final : RegFile) (calls : List IoCall) : Prop where
  en : ∀ number, 1 ≤ number → number ≤ 16 →
    final (BitVec.ofNat 32 (0x10100 + 8 * (number - 1))) =
      (lastWrite (enOf number) calls).getD (regs (BitVec.ofNat 32 (0x10100 + 8 * (number - 1))))
  ref : ∀ number, 1 ≤ number → number ≤ 16 →
    final (BitVec.ofNat 32 (0x10100 + 8 * (number - 1) + 4)) =
      (lastWrite (refOf number) calls).getD (regs (BitVec.ofNat 32 (0x10100 + 8 * (number - 1) + 4)))
  secRef : final F_VOLT_SEC_REF = (lastWrite secRefOf calls).getD (regs F_VOLT_SEC_REF)

/-- A call that is not for an output the board does not have. -/
def keptCall : IoCall → Bool
  | .doConfig channel _ _ => decide (KnownOutput channel)
  | _ => true

/-- On an open board, in any sequence of calls, every output holds the last setting made
for it, and calls for unknown outputs can be left out. -/
theorem outputs_independent (opened : IsOpen process) (valid : ∀ call ∈ calls, ValidCall call) :
    ∃ final, runFrom (ioStep process) regs calls = some final ∧ OutputsHold regs final calls ∧
      runFrom (ioStep process) regs (calls.filter keptCall) = some final := by
  obtain ⟨final, ran⟩ : ∃ final, runFrom (ioStep process) regs calls = some final := by
    refine runFrom_completes ?_ (eachStep_of_forall valid)
    intro reached call valid
    exact ioStep_completes opened valid
  refine ⟨final, ran, ⟨?_, ?_, ?_⟩, ?_⟩
  · intro number low high
    have place : 8 * (number - 1) = 4 * (2 * (number - 1)) := by omega
    have written := @outputs_written process regs final (2 * (number - 1)) calls opened valid ran
      (by omega)
    rw [writtenAt_en low high, outputPlace] at written
    rw [place]
    exact written
  · intro number low high
    have place : 0x10100 + 8 * (number - 1) + 4 = 0x10100 + 4 * (2 * (number - 1) + 1) := by omega
    have written := @outputs_written process regs final (2 * (number - 1) + 1) calls opened valid ran
      (by omega)
    rw [writtenAt_ref low high, outputPlace] at written
    rw [place]
    exact written
  · have written := @outputs_written process regs final 32 calls opened valid ran (by omega)
    rw [writtenAt_secRef] at written
    exact written
  · refine (runFrom_filter ?_).trans ran
    intro reached call dropped
    cases call with
    | doConfig channel en ref => exact ioStep_unknown (of_decide_eq_false dropped)
    | fVoitSecRef | diConfig => cases dropped

theorem outputs_independent_two :
    ∃ final, runFrom (ioStep board7) (fun _ => 0)
        [.doConfig 1 1 9, .doConfig 17 1 1, .diConfig ⟨1, 0, 1⟩] = some final ∧
      OutputsHold (fun _ => 0) final
        [.doConfig 1 1 9, .doConfig 17 1 1, .diConfig ⟨1, 0, 1⟩] ∧
      runFrom (ioStep board7) (fun _ => 0)
        (List.filter keptCall [.doConfig 1 1 9, .doConfig 17 1 1, .diConfig ⟨1, 0, 1⟩]) =
          some final := by
  refine outputs_independent ⟨⟨3, 7, []⟩, rfl⟩ ?_
  intro call member
  simp only [List.mem_cons, List.not_mem_nil, or_false] at member
  rcases member with rfl | rfl | rfl
  · trivial
  · trivial
  · exact ⟨by decide, .inl rfl⟩

end Vi53xx.Lib
