import Vi53xx.Lib.BoardArrays
import Vi53xx.Lib.DoConfigProperties
import Vi53xx.System.ScopeSettings

/-! The modules of a board: its scope, its digital outputs and its digital inputs. Their calls
can be made in any order, and each module is left as its own calls leave it. -/

set_option autoImplicit false

namespace Vi53xx.System

open Foundation Driver

/-- The requests among the actions of a call. -/
def actionCalls (actions : List Lib.DiAction) : List BoardCall :=
  actions.filterMap fun
    | .writeRegister bar offset val => some (.transfer (.writeRegister bar offset val))
    | .printf _ | .usleep _ => none

def ioActions (boardId : BitVec 32) : Lib.IoCall → Except Lib.Fault (List Lib.DiAction)
  | .doConfig channel en ref => .ok (Lib.handlerDoConfig boardId channel en ref)
  | .fVoitSecRef val => .ok (Lib.handlerFVoitSecRef val)
  | .diConfig setting =>
      Lib.handlerDiConfig boardId setting.channel setting.highlow setting.value

inductive ModuleCall where
  | scope (call : ScopeCall)
  | io (call : Lib.IoCall)

def ModuleCall.scope? : ModuleCall → Option ScopeCall
  | .scope call => some call
  | .io _ => none

def ModuleCall.io? : ModuleCall → Option Lib.IoCall
  | .scope _ => none
  | .io call => some call

def ModuleCall.calls (boardId : BitVec 32) (addr : BitVec 64) (regs : BoardRegs) :
    ModuleCall → Except Lib.Fault (List BoardCall)
  | .scope call => .ok (call.calls addr regs)
  | .io call => (ioActions boardId call).map actionCalls

/-- What a session asks of a board with these registers, unless a call of it reads outside
the table of control codes. -/
def sessionCalls (boardId : BitVec 32) (addr : BitVec 64) :
    BoardRegs → List ModuleCall → Except Lib.Fault (List BoardCall)
  | _, [] => .ok []
  | regs, call :: rest => do
      let first ← call.calls boardId addr regs
      let later ← sessionCalls boardId addr (regsCalled regs first) rest
      .ok (first ++ later)

def moduleStep (boardId : BitVec 32) (addr : BitVec 64) (regs : BoardRegs) (call : ModuleCall) :
    Option BoardRegs :=
  (call.calls boardId addr regs).toOption.map (regsCalled regs)

/-! ## Settings -/

/-- The four input registers that a call latches. -/
def latchOf : Lib.IoCall → Option (List (BitVec 32))
  | .diConfig setting =>
      if 1 ≤ setting.channel ∧ setting.channel ≤ 16 then
        (Lib.getDiValue setting.channel setting.highlow setting.value).toOption.map fun val =>
          Lib.inputRegisters.map fun place => if place = Lib.ownRegister setting.channel then val else 0
      else none
  | .doConfig _ _ _ | .fVoitSecRef _ => none

/-- What a call leaves in `DIN_VLD`. -/
def pulseOf : Lib.IoCall → Option (BitVec 32)
  | .diConfig _ => some 0
  | .doConfig _ _ _ | .fVoitSecRef _ => none

/-- The input registers hold the last setting latched. -/
structure InputsHold (regs final : Lib.RegFile) (calls : List Lib.IoCall) : Prop where
  latched : Lib.inputRegisters.map final =
    (lastWrite latchOf calls).getD (Lib.inputRegisters.map regs)
  pulse : final Lib.DIN_VLD = (lastWrite pulseOf calls).getD (regs Lib.DIN_VLD)

/-- The registers of the inputs and outputs. -/
def IoRegister (place : BitVec 32) : Prop :=
  (∃ index ≤ 32, place = Lib.outputPlace index) ∨ place ∈ Lib.inputRegisters ∨ place = Lib.DIN_VLD

/-- Each module has its settings from its own calls, and no other register is changed. -/
structure ModulesHold (regs final : BoardRegs) (session : List ModuleCall) : Prop where
  scope : settings final =
    (session.filterMap ModuleCall.scope?).foldl ScopeSettings.step (settings regs)
  outputs : Lib.OutputsHold (regs 0) (final 0) (session.filterMap ModuleCall.io?)
  inputs : InputsHold (regs 0) (final 0) (session.filterMap ModuleCall.io?)
  others : ∀ bar offset, ¬ ScopeRegister bar offset → ¬ (bar = 0 ∧ IoRegister offset) →
    final bar offset = regs bar offset

variable {boardId : BitVec 32} {addr : BitVec 64} {regs next final : BoardRegs}
  {actions : List Lib.DiAction} {process : Lib.DiProcess} {file after : Lib.RegFile}
  {setting : Lib.DiSetting} {call : Lib.IoCall} {place : BitVec 32} {session : List ModuleCall}
  {asked : List BoardCall} {length : BitVec 32 → BitVec 64}

/-! ## Inputs and outputs -/

/-- A process that has only this board open. -/
def openProcess (boardId : BitVec 32) : Lib.DiProcess where
  state := { Lib.LibState.loaded with
    availableBoardCount := 1
    devHandleList := Slots.empty.store 0 ⟨3, boardId, []⟩ }
  stack := XdmaInfo.cleared
  boardId := boardId

theorem openProcess_isOpen : Lib.IsOpen (openProcess boardId) := by
  have only : Slots.Only (fun handle : Lib.DevHandle => handle.boardId == boardId)
      (openProcess boardId).state.devHandleList 0 ⟨3, boardId, []⟩ :=
    Slots.Only.stored (beq_self_eq_true boardId) fun _ _ held => by cases held
  exact ⟨_, only.lookup Nat.one_pos⟩

theorem handlerDiConfig_ok (made : Lib.handlerDiConfig boardId setting.channel setting.highlow
    setting.value = .ok actions) :
    ∃ val, Lib.getDiValue setting.channel setting.highlow setting.value = .ok val ∧
      actions = Lib.callDiConfig boardId setting.channel val := by
  unfold Lib.handlerDiConfig at made
  cases valued : Lib.getDiValue setting.channel setting.highlow setting.value with
  | error fault =>
      rw [valued] at made
      cases made
  | ok val =>
      rw [valued] at made
      cases made
      exact ⟨val, rfl, rfl⟩

/-- The register is aligned, and not past the last one that a probe reads. -/
def LowRegister (offset : BitVec 32) : Prop := 4 ∣ offset.toNat ∧ offset.toNat ≤ deviceBoardType.toNat

instance (offset : BitVec 32) : Decidable (LowRegister offset) := inferInstanceAs (Decidable (_ ∧ _))

def OnFirst : Lib.DiAction → Prop
  | .writeRegister bar offset _ => bar = Lib.BAR0 ∧ LowRegister offset
  | .printf _ | .usleep _ => True

instance (action : Lib.DiAction) : Decidable (OnFirst action) :=
  match action with
  | .writeRegister _ _ _ => inferInstanceAs (Decidable (_ ∧ _))
  | .printf _ | .usleep _ => inferInstanceAs (Decidable True)

theorem ioActions_first (made : ioActions boardId call = .ok actions) :
    ∀ action ∈ actions, OnFirst action := by
  cases call with
  | doConfig channel en ref =>
      cases made
      unfold Lib.handlerDoConfig Lib.callDoConfig
      split <;> simp [Lib.doConfig, OnFirst] <;> decide
  | fVoitSecRef val =>
      cases made
      simp [Lib.handlerFVoitSecRef, OnFirst]
      decide
  | diConfig setting =>
      obtain ⟨val, _, rfl⟩ := handlerDiConfig_ok made
      unfold Lib.callDiConfig Lib.groupConfig
      split <;> simp [Lib.dinConfig, Lib.dinVld, OnFirst] <;> decide

/-- The requests of a call come to the registers that the actions of the library write. -/
theorem regsCalled_actions (opened : Lib.IsOpen process) (first : ∀ action ∈ actions, OnFirst action) :
    regsCalled regs (actionCalls actions) = regs.withFirst (Lib.performAll process (regs 0) actions) := by
  induction actions generalizing regs with
  | nil => exact withFirst_self.symm
  | cons action rest ih =>
      have others := fun action member => first action (List.mem_cons_of_mem _ member)
      cases action with
      | printf text | usleep microseconds => exact ih others
      | writeRegister bar offset val =>
          obtain rfl : bar = Lib.BAR0 := (first (.writeRegister bar offset val) List.mem_cons_self).1
          have served : regsAfter regs (BoardCall.transfer (.writeRegister Lib.BAR0 offset val)).write =
              regs.withFirst (Lib.setReg (regs 0) offset val) := regsAfter_first
          have later := @ih (regs.withFirst (Lib.setReg (regs 0) offset val)) others
          have asked : actionCalls (.writeRegister Lib.BAR0 offset val :: rest) =
              .transfer (.writeRegister Lib.BAR0 offset val) :: actionCalls rest := rfl
          rw [Lib.performAll, List.foldl_cons, Lib.perform_write opened, asked, regsCalled,
            List.foldl_cons, served]
          exact later.trans withFirst_twice

theorem ioStep_actions :
    Lib.ioStep process file call =
      (ioActions process.boardId call).toOption.map (Lib.performAll process file) := by
  cases call with
  | doConfig | fVoitSecRef | diConfig => rfl

theorem moduleStep_io (stepped : moduleStep boardId addr regs (.io call) = some next) :
    ∃ file, Lib.ioStep (openProcess boardId) (regs 0) call = some file ∧ next = regs.withFirst file := by
  cases made : ioActions boardId call with
  | error fault => simp [moduleStep, ModuleCall.calls, made, Except.map, Except.toOption] at stepped
  | ok actions =>
      simp only [moduleStep, ModuleCall.calls, made, Except.map, Except.toOption, Option.map_some,
        Option.some.injEq] at stepped
      refine ⟨Lib.performAll (openProcess boardId) (regs 0) actions, ?_, ?_⟩
      · rw [ioStep_actions]
        exact congrArg (fun asked : Except Lib.Fault (List Lib.DiAction) =>
          asked.toOption.map (Lib.performAll (openProcess boardId) (regs 0))) made
      · rw [← stepped]
        exact regsCalled_actions openProcess_isOpen (ioActions_first made)

/-! ## One call for an input or an output -/

theorem performAll_unknown {val : BitVec 32} (opened : Lib.IsOpen process)
    (unknown : ¬ (1 ≤ setting.channel ∧ setting.channel ≤ 16)) :
    Lib.performAll process file (Lib.callDiConfig process.boardId setting.channel val) =
      Lib.setReg file Lib.DIN_VLD 0 := by
  have group : Lib.groupConfig process.boardId setting.channel val =
      [.printf (Lib.unknownChannel process.boardId setting.channel)] := by
    unfold Lib.groupConfig
    split
    case h_17 => rfl
    all_goals exact absurd ⟨by omega, by omega⟩ unknown
  have printed : ∀ text, Lib.perform process file (.printf text) = file := fun _ => rfl
  rw [Lib.callDiConfig, group]
  simp only [Lib.performAll, List.cons_append, List.nil_append, List.foldl_cons, List.foldl_nil,
    Lib.dinVld, printed, Lib.perform_write opened, Lib.perform_usleep]
  funext place
  simp only [Lib.setReg]
  split <;> rfl

/-- A setting is latched if the channel is known, and the pulse is given in any case. -/
theorem ioStep_diConfig (opened : Lib.IsOpen process)
    (stepped : Lib.ioStep process file (.diConfig setting) = some after) :
    ∃ val, Lib.getDiValue setting.channel setting.highlow setting.value = .ok val ∧
      after = Lib.setReg (if 1 ≤ setting.channel ∧ setting.channel ≤ 16 then
        Lib.grouped setting.channel val file else file) Lib.DIN_VLD 0 := by
  rw [ioStep_actions] at stepped
  cases made : ioActions process.boardId (.diConfig setting) with
  | error fault => simp [made, Except.toOption] at stepped
  | ok actions =>
      obtain ⟨val, valued, rfl⟩ := handlerDiConfig_ok made
      rw [made] at stepped
      cases stepped
      refine ⟨val, valued, ?_⟩
      split
      · next known => exact Lib.performAll_call opened known.1 known.2
      · next unknown => exact performAll_unknown opened unknown

theorem ioStep_doConfig_elsewhere {channel : Int} {en ref : BitVec 8} (opened : Lib.IsOpen process)
    (stepped : Lib.ioStep process file (.doConfig channel en ref) = some after)
    (apart : ∀ index ≤ 32, place ≠ Lib.outputPlace index) : after place = file place := by
  by_cases known : Lib.KnownOutput channel
  · obtain ⟨low, high⟩ := known
    obtain ⟨number, rfl⟩ := Int.eq_ofNat_of_zero_le (show 0 ≤ channel by omega)
    rw [Lib.ioStep_doConfig opened (by omega) (by omega)] at stepped
    cases stepped
    simp only [Lib.setReg, apart (2 * (number - 1)) (by omega), apart (2 * (number - 1) + 1) (by omega),
      if_false]
  · rw [Lib.ioStep_unknown known] at stepped
    cases stepped
    rfl

theorem ioStep_secRef_elsewhere {val : BitVec 8} (opened : Lib.IsOpen process)
    (stepped : Lib.ioStep process file (.fVoitSecRef val) = some after)
    (apart : place ≠ Lib.F_VOLT_SEC_REF) : after place = file place := by
  simp only [Lib.ioStep, Lib.handlerFVoitSecRef, Lib.performAll, List.foldl_cons, List.foldl_nil,
    Lib.perform_write opened, Option.some.injEq] at stepped
  subst stepped
  exact if_neg apart

/-- The calls for outputs keep to the words of the outputs. -/
theorem ioStep_output_elsewhere (opened : Lib.IsOpen process)
    (stepped : Lib.ioStep process file call = some after) (unpulsed : pulseOf call = none)
    (apart : ∀ index ≤ 32, place ≠ Lib.outputPlace index) :
    after place = file place := by
  cases call with
  | doConfig channel en ref => exact ioStep_doConfig_elsewhere opened stepped apart
  | fVoitSecRef val => exact ioStep_secRef_elsewhere opened stepped (apart 32 (Nat.le_refl 32))
  | diConfig setting => cases unpulsed

theorem ioStep_outputs {index : Nat} (opened : Lib.IsOpen process)
    (stepped : Lib.ioStep process file call = some after) (small : index ≤ 32) :
    after (Lib.outputPlace index) =
      (Lib.writtenAt index call).getD (file (Lib.outputPlace index)) := by
  cases call with
  | doConfig channel en ref => exact Lib.ioStep_written opened trivial stepped small
  | fVoitSecRef val => exact Lib.ioStep_written opened trivial stepped small
  | diConfig setting =>
      obtain ⟨outside, apart⟩ := Lib.outputPlace_no_input small
      obtain ⟨val, _, rfl⟩ := ioStep_diConfig opened stepped
      have own : Lib.outputPlace index ≠ Lib.ownRegister setting.channel := by
        intro same
        exact outside (same ▸ Lib.ownRegister_mem)
      simp only [Lib.setReg, if_neg apart, Lib.writtenAt, Option.getD_none]
      split
      · simp only [Lib.grouped, if_neg own, if_neg outside]
      · rfl

theorem ioStep_latch (opened : Lib.IsOpen process)
    (stepped : Lib.ioStep process file call = some after) :
    Lib.inputRegisters.map after = (latchOf call).getD (Lib.inputRegisters.map file) := by
  have outputs : pulseOf call = none → Lib.inputRegisters.map after = Lib.inputRegisters.map file := by
    intro unpulsed
    refine List.map_congr_left ?_
    intro place member
    refine ioStep_output_elsewhere opened stepped unpulsed ?_
    rintro index small rfl
    exact (Lib.outputPlace_no_input small).1 member
  cases call with
  | doConfig | fVoitSecRef => exact outputs rfl
  | diConfig setting =>
      obtain ⟨val, valued, rfl⟩ := ioStep_diConfig opened stepped
      have unpulsed : ∀ held : Lib.RegFile, Lib.inputRegisters.map (Lib.setReg held Lib.DIN_VLD 0) =
          Lib.inputRegisters.map held := by
        intro held
        refine List.map_congr_left ?_
        intro place member
        have apart : place ≠ Lib.DIN_VLD := by
          rintro rfl
          exact Lib.dinVld_no_input member
        exact if_neg apart
      rw [unpulsed, latchOf, valued]
      split
      · simp only [Except.toOption, Option.map_some, Option.getD_some]
        refine List.map_congr_left ?_
        intro place member
        simp only [Lib.grouped, if_pos member]
      · rfl

theorem ioStep_pulse (opened : Lib.IsOpen process)
    (stepped : Lib.ioStep process file call = some after) :
    after Lib.DIN_VLD = (pulseOf call).getD (file Lib.DIN_VLD) := by
  have outputs : pulseOf call = none → after Lib.DIN_VLD = file Lib.DIN_VLD := by
    intro unpulsed
    refine ioStep_output_elsewhere opened stepped unpulsed ?_
    intro index small same
    exact (Lib.outputPlace_no_input small).2 same.symm
  cases call with
  | doConfig | fVoitSecRef => exact outputs rfl
  | diConfig setting =>
      obtain ⟨val, _, rfl⟩ := ioStep_diConfig opened stepped
      exact if_pos rfl

theorem ioStep_elsewhere (opened : Lib.IsOpen process)
    (stepped : Lib.ioStep process file call = some after) (outside : ¬ IoRegister place) :
    after place = file place := by
  obtain ⟨apart, input, pulse⟩ : (∀ index ≤ 32, place ≠ Lib.outputPlace index) ∧
      place ∉ Lib.inputRegisters ∧ place ≠ Lib.DIN_VLD := by
    refine ⟨?_, fun member => outside (.inr (.inl member)), fun same => outside (.inr (.inr same))⟩
    intro index small same
    exact outside (.inl ⟨index, small, same⟩)
  cases call with
  | doConfig | fVoitSecRef => exact ioStep_output_elsewhere opened stepped rfl apart
  | diConfig setting =>
      obtain ⟨val, _, rfl⟩ := ioStep_diConfig opened stepped
      have own : place ≠ Lib.ownRegister setting.channel := by
        rintro rfl
        exact input Lib.ownRegister_mem
      refine (if_neg pulse).trans ?_
      split
      · simp only [Lib.grouped, if_neg own, if_neg input]
      · rfl

/-! ## Sessions -/

/-- The scope has its registers below those of the inputs and outputs. -/
theorem scope_no_io {bar : BitVec 32} (scope : ScopeRegister bar place) : ¬ (bar = 0 ∧ IoRegister place) := by
  rintro ⟨rfl, io⟩
  have low : place.toNat < 0x10100 := by
    rcases scope with ⟨_, member⟩ | ⟨second, _⟩
    · have all : ((settingRegs ++ limitRegs).all fun place => decide (place.toNat < 0x10100)) = true := by
        decide
      exact of_decide_eq_true (List.all_eq_true.mp all place member)
    · cases second
  have inputs : (Lib.inputRegisters.all fun place => decide (0x10100 ≤ place.toNat)) = true := by decide
  rcases io with ⟨index, small, rfl⟩ | member | rfl
  · simp only [Lib.outputPlace, BitVec.toNat_ofNat] at low
    omega
  · have high := of_decide_eq_true (List.all_eq_true.mp inputs place member)
    omega
  · exact absurd low (by decide)

theorem settings_congr {left right : BoardRegs}
    (same : ∀ bar offset, ScopeRegister bar offset → left bar offset = right bar offset) :
    settings left = settings right := by
  have first : ∀ offset ∈ settingRegs ++ limitRegs, left 0 offset = right 0 offset :=
    fun offset member => same 0 offset (.inl ⟨rfl, member⟩)
  have limits : limitRegs.map (left 0) = limitRegs.map (right 0) :=
    List.map_congr_left fun offset member => first offset (List.mem_append_right _ member)
  have engines : engineRegs.map (left 1) = engineRegs.map (right 1) :=
    List.map_congr_left fun offset member => same 1 offset (.inr ⟨rfl, member⟩)
  simp only [settings, limits, engines, first 0x00 (by decide), first 0x08 (by decide),
    first 0x1000 (by decide), first 0x1008 (by decide), first 0x2000 (by decide),
    first 0x2008 (by decide), first 0x4000 (by decide)]

theorem sessionCalls_ran (asks : sessionCalls boardId addr regs session = .ok asked) :
    runFrom (moduleStep boardId addr) regs session = some (regsCalled regs asked) := by
  induction session generalizing regs asked with
  | nil =>
      cases asks
      rfl
  | cons call rest ih =>
      obtain ⟨first, here, asks⟩ := Lib.ok_of_bind asks
      obtain ⟨others, later, asks⟩ := Lib.ok_of_bind asks
      cases asks
      have stepped : moduleStep boardId addr regs call = some (regsCalled regs first) := by
        rw [moduleStep, here]
        rfl
      rw [runFrom, stepped, Option.bind_some, ih later, regsCalled_append]

/-! ## What a session leaves -/

theorem moduleStep_scope {call : ScopeCall}
    (stepped : moduleStep boardId addr regs (.scope call) = some next) :
    next = regsCalled regs (call.calls addr regs) :=
  (Option.some.inj stepped).symm

theorem moduleStep_settings {call : ModuleCall}
    (stepped : moduleStep boardId addr regs call = some next) :
    settings next = call.scope?.elim (settings regs) (ScopeSettings.step (settings regs)) := by
  cases call with
  | scope call =>
      rw [moduleStep_scope stepped]
      exact settings_call call
  | io call =>
      obtain ⟨file, taken, rfl⟩ := moduleStep_io stepped
      refine settings_congr ?_
      intro bar offset scope
      unfold BoardRegs.withFirst
      split
      · next first =>
          subst first
          exact ioStep_elsewhere openProcess_isOpen taken fun io => scope_no_io scope ⟨rfl, io⟩
      · rfl

/-- A scope call leaves the registers of the inputs and outputs. -/
theorem moduleStep_scope_io {call : ScopeCall}
    (stepped : moduleStep boardId addr regs (.scope call) = some next) (io : IoRegister place) :
    next 0 place = regs 0 place := by
  rw [moduleStep_scope stepped]
  exact call_outside call fun scope => scope_no_io scope ⟨rfl, io⟩

/-- What is read from the registers of the inputs and outputs after a run comes from the calls
for them alone. -/
theorem session_io {Value : Type} (read : Lib.RegFile → Value) {written : Lib.IoCall → Option Value}
    (reads : ∀ left right : Lib.RegFile, (∀ place, IoRegister place → left place = right place) →
      read left = read right)
    (steps : ∀ file after call, Lib.ioStep (openProcess boardId) file call = some after →
      read after = (written call).getD (read file))
    (ran : runFrom (moduleStep boardId addr) regs session = some final) :
    read (final 0) =
      (lastWrite written (session.filterMap ModuleCall.io?)).getD (read (regs 0)) := by
  rw [lastWrite_filterMap]
  refine @runFrom_lastWrite _ _ (moduleStep boardId addr) (fun _ _ => True) _ (fun regs => read (regs 0))
    _ regs final session ?_ (eachStep_of_forall fun _ _ => trivial) ran
  intro regs call next _ stepped
  cases call with
  | scope call => exact reads _ _ fun place io => moduleStep_scope_io stepped io
  | io call =>
      obtain ⟨file, taken, rfl⟩ := moduleStep_io stepped
      exact steps _ _ call taken

theorem outputsHold {regs final : Lib.RegFile} {calls : List Lib.IoCall}
    (written : ∀ index ≤ 32, final (Lib.outputPlace index) =
      (lastWrite (Lib.writtenAt index) calls).getD (regs (Lib.outputPlace index))) :
    Lib.OutputsHold regs final calls := by
  refine ⟨?_, ?_, ?_⟩
  · intro number low high
    have place : BitVec.ofNat 32 (0x10100 + 8 * (number - 1)) = Lib.outputPlace (2 * (number - 1)) := by
      rw [Lib.outputPlace, ← Nat.mul_assoc]
    rw [place, ← Lib.writtenAt_en low high]
    exact written _ (by omega)
  · intro number low high
    have place : BitVec.ofNat 32 (0x10100 + 8 * (number - 1) + 4) =
        Lib.outputPlace (2 * (number - 1) + 1) := by
      rw [Lib.outputPlace, Nat.mul_add, ← Nat.mul_assoc, Nat.add_assoc]
    rw [place, ← Lib.writtenAt_ref low high]
    exact written _ (by omega)
  · rw [← Lib.writtenAt_secRef]
    exact written 32 (Nat.le_refl 32)

theorem session_others {bar : BitVec 32} (ran : runFrom (moduleStep boardId addr) regs session = some final)
    (scope : ¬ ScopeRegister bar place) (io : ¬ (bar = 0 ∧ IoRegister place)) :
    final bar place = regs bar place := by
  refine runFrom_preserves (fun reached => reached bar place = regs bar place) ?_ rfl ran
  intro reached call next kept stepped
  refine Eq.trans ?_ kept
  cases call with
  | scope call =>
      rw [moduleStep_scope stepped]
      exact call_outside call scope
  | io call =>
      obtain ⟨file, taken, rfl⟩ := moduleStep_io stepped
      unfold BoardRegs.withFirst
      split
      · next first =>
          subst first
          exact ioStep_elsewhere openProcess_isOpen taken fun outside => io ⟨rfl, outside⟩
      · rfl

theorem session_modules (ran : runFrom (moduleStep boardId addr) regs session = some final) :
    ModulesHold regs final session := by
  refine ⟨?_, outputsHold ?_, ⟨?_, ?_⟩, ?_⟩
  · exact runFrom_component (fun _ _ _ stepped => moduleStep_settings stepped) ran
  · intro index small
    refine session_io (fun file => file (Lib.outputPlace index)) ?_ ?_ ran
    · exact fun left right same => same _ (.inl ⟨index, small, rfl⟩)
    · exact fun file after call stepped => ioStep_outputs openProcess_isOpen stepped small
  · refine session_io (fun file => Lib.inputRegisters.map file) ?_ ?_ ran
    · exact fun left right same => List.map_congr_left fun place member => same place (.inr (.inl member))
    · exact fun file after call stepped => ioStep_latch openProcess_isOpen stepped
  · refine session_io (fun file => file Lib.DIN_VLD) ?_ ?_ ran
    · exact fun left right same => same _ (.inr (.inr rfl))
    · exact fun file after call stepped => ioStep_pulse openProcess_isOpen stepped
  · exact fun bar offset scope io => session_others ran scope io

/-- However the modules of a board are used in turn by processes that have it open, and
whatever is done with other boards in between, each module is found as its own calls leave it. -/
theorem modules_independent {answers : Nat → Option (BitVec 64)} {boards : List Lib.DeviceInfo}
    {wiring : Wiring} {state : Processes} {calls before made : List ProcessCall} {info : Lib.DeviceInfo}
    (started : ∀ pid, Started answers boards wiring (Processes.process state pid))
    (allowed : AllowedRun boards wiring state calls) (member : info ∈ boards)
    (asks : sessionCalls info.boardId addr
      (SharedBoards.regs (specAfter wiring state before) info.boardId) session = .ok asked)
    (makes : List.Forall₂ (Makes info.boardId) made asked)
    (isOpen : ∀ one ∈ made,
      SharedBoards.isOpen (specAfter wiring state before) one.1 info.boardId = true)
    (own : calls.filter (AboutBoard info.boardId) = before ++ made) :
    ∃ reached regs, runFrom processStep state calls = some reached ∧
      ModulesHold (SharedBoards.regs (specAfter wiring state before) info.boardId) regs session ∧
      ∀ pid, SharedBoards.isOpen (specAfter wiring state before) pid info.boardId = true →
        ReadsAs wiring info.boardId regs (Processes.process reached pid) := by
  obtain ⟨reached, ran, reads⟩ := made_reads started allowed member makes isOpen own
  exact ⟨reached, _, ran, session_modules (sessionCalls_ran asks), reads⟩

/-! ## Two boards -/

/-- Without unknown inputs a session can be asked. -/
theorem sessionCalls_valid (valid : ∀ call ∈ session.filterMap ModuleCall.io?, Lib.ValidCall call) :
    ∃ asked, sessionCalls boardId addr regs session = .ok asked := by
  induction session generalizing regs with
  | nil => exact ⟨[], rfl⟩
  | cons call rest ih =>
      obtain ⟨first, here⟩ : ∃ first, call.calls boardId addr regs = .ok first := by
        cases call with
        | scope call => exact ⟨_, rfl⟩
        | io call =>
            cases call with
            | doConfig | fVoitSecRef => exact ⟨_, rfl⟩
            | diConfig setting =>
                have known : Lib.ValidInput setting.channel setting.highlow :=
                  valid (.diConfig setting) List.mem_cons_self
                obtain ⟨control, found, _, _⟩ := Lib.getControl_valid known
                have valued : Lib.getDiValue setting.channel setting.highlow setting.value = .ok _ :=
                  Lib.getRegValue_of_control found
                simp only [ModuleCall.calls, ioActions, Lib.handlerDiConfig, valued, Except.map]
                exact ⟨_, rfl⟩
      obtain ⟨later, there⟩ := @ih (regsCalled regs first) fun other member => by
        obtain ⟨asks, among, own⟩ := List.mem_filterMap.mp member
        exact valid other (List.mem_filterMap.mpr ⟨asks, List.mem_cons_of_mem _ among, own⟩)
      refine ⟨first ++ later, ?_⟩
      simp only [sessionCalls, here, there, Bind.bind, Except.bind]

/-- The BARs are long enough for the driver to probe the board. -/
structure Probed (length : BitVec 32 → BitVec 64) : Prop where
  first : InBar (length 0) deviceBoardType
  second : ChannelInitInside (length 1)

def requestOffset : Lib.RegRequest → BitVec 32
  | .read offset _ | .write offset _ => offset

/-- Whatever the client reads, it keeps to low registers. -/
def KeepsLow : Lib.RegClient → Prop
  | .done => True
  | .call request next => LowRegister (requestOffset request) ∧ ∀ reply, KeepsLow (next reply)

theorem Probed.register (probed : Probed length) (low : LowRegister place) :
    RegisterInside (length 0) place :=
  ⟨low.1, probed.first.lower low.2⟩

theorem keepsLow_write {offset val : BitVec 32} {next : Lib.RegClient} :
    KeepsLow (.write offset val next) ↔ LowRegister offset ∧ KeepsLow next :=
  and_congr_right fun _ => forall_const _

theorem keepsLow_read {offset val : BitVec 32} {next : BitVec 32 → Lib.RegClient} :
    KeepsLow (.read offset val next) ↔ LowRegister offset ∧ ∀ reply, KeepsLow (next reply) := Iff.rfl

theorem scope_keepsLow (call : ScopeCall) : ∀ client ∈ call.clients, KeepsLow client := by
  have done : KeepsLow .done := trivial
  intro client member
  cases call with
  | moduleInit =>
      rcases List.mem_cons.mp member with rfl | last
      · simp only [Lib.scopeInitConfig, keepsLow_write, done, and_true]
        decide
      · rw [List.mem_singleton.mp last]
        simp only [Lib.scopeClockSampling, keepsLow_write, done, and_true]
        decide
  | selectCh | slectMode | start | countSampling | clearABuff =>
      rw [List.mem_singleton.mp member]
      simp only [Lib.scopeSelectCh, Lib.scopeSlectMode, Lib.startScope, Lib.scopeCountSampling,
        Lib.clearABuff, keepsLow_write, keepsLow_read, done, and_true, forall_const]
      decide

theorem clientCalls_usable {regs : Lib.RegFile} {client : Lib.RegClient} {call : BoardCall}
    (probed : Probed length) (low : KeepsLow client) (member : call ∈ clientCalls addr regs client)
    (outcome : CopyOutcome) : call.Usable length outcome := by
  induction client generalizing regs with
  | done => cases member
  | call request next ih =>
      rcases List.mem_cons.mp member with rfl | later
      · cases request with
        | read | write => exact probed.register low.1
      · exact ih _ (low.2 _) later

theorem clientsCalls_usable {regs : Lib.RegFile} {clients : List Lib.RegClient} {call : BoardCall}
    (probed : Probed length) (low : ∀ client ∈ clients, KeepsLow client)
    (member : call ∈ clientsCalls addr regs clients) (outcome : CopyOutcome) :
    call.Usable length outcome := by
  induction clients generalizing regs with
  | nil => cases member
  | cons client rest ih =>
      rcases List.mem_append.mp member with first | later
      · exact clientCalls_usable probed (low client List.mem_cons_self) first outcome
      · exact ih (fun other among => low other (List.mem_cons_of_mem _ among)) later

theorem scopeCalls_usable {scope : ScopeCall} {call : BoardCall} (probed : Probed length)
    (member : call ∈ scope.calls addr regs) (outcome : CopyOutcome) : call.Usable length outcome := by
  rcases List.mem_append.mp member with stops | asked
  · cases scope with
    | moduleInit =>
        rcases List.mem_cons.mp stops with rfl | last
        · exact ⟨by decide, probed.second _ (by decide)⟩
        · rw [List.mem_singleton.mp last]
          exact ⟨by decide, probed.second _ (by decide)⟩
    | selectCh | slectMode | start | countSampling | clearABuff => cases stops
  · exact clientsCalls_usable probed (scope_keepsLow scope) asked outcome

theorem actionCalls_usable {call : BoardCall} (probed : Probed length)
    (first : ∀ action ∈ actions, OnFirst action) (member : call ∈ actionCalls actions)
    (outcome : CopyOutcome) : call.Usable length outcome := by
  obtain ⟨action, listed, requested⟩ := List.mem_filterMap.mp member
  cases action with
  | writeRegister bar offset val =>
      obtain ⟨rfl, low⟩ := first (.writeRegister bar offset val) listed
      cases requested
      exact probed.register low
  | printf | usleep => cases requested

/-- What a session asks stays inside the BARs of a board that the driver has probed. -/
theorem session_usable {call : BoardCall} (probed : Probed length)
    (asks : sessionCalls boardId addr regs session = .ok asked) (member : call ∈ asked)
    (outcome : CopyOutcome) : call.Usable length outcome := by
  induction session generalizing regs asked with
  | nil =>
      cases asks
      cases member
  | cons one rest ih =>
      obtain ⟨first, here, asks⟩ := Lib.ok_of_bind asks
      obtain ⟨others, later, asks⟩ := Lib.ok_of_bind asks
      cases asks
      rcases List.mem_append.mp member with now | afterwards
      · cases one with
        | scope scope =>
            cases here
            exact scopeCalls_usable probed now outcome
        | io io =>
            cases made : ioActions boardId io with
            | error fault =>
                rw [ModuleCall.calls, made] at here
                cases here
            | ok actions =>
                rw [ModuleCall.calls, made] at here
                cases here
                exact actionCalls_usable probed (ioActions_first made) now outcome
      · exact ih later afterwards

/-- The modules of board 8 are used in turn. -/
def inTurn : List ModuleCall :=
  [.scope .moduleInit, .io (.doConfig 1 1 9), .scope (.selectCh fun i => BitVec.ofNat 8 i.val),
    .io (.diConfig ⟨1, 0, 1⟩), .scope (.slectMode 1), .io (.fVoitSecRef 5), .scope .clearABuff,
    .io (.doConfig 17 1 1), .scope .start]

theorem inTurn_valid : ∀ call ∈ inTurn.filterMap ModuleCall.io?, Lib.ValidCall call := by
  have ios : inTurn.filterMap ModuleCall.io? =
      [.doConfig 1 1 9, .diConfig ⟨1, 0, 1⟩, .fVoitSecRef 5, .doConfig 17 1 1] := rfl
  rw [ios]
  intro call member
  simp only [List.mem_cons, List.not_mem_nil, or_false] at member
  rcases member with rfl | rfl | rfl | rfl
  · trivial
  · exact ⟨by decide, .inl rfl⟩
  · trivial
  · trivial

/-- Two processes take turns with board 8. -/
def toEight (calls : List BoardCall) : List ProcessCall :=
  calls.mapIdx fun i call => (i % 2, .board 8 call .cleared .complete fun _ => 0)

def toSeven : ProcessCall :=
  (0, .board 7 (.transfer (.writeRegister 0 0x2008 0)) .cleared .complete fun _ => 0)

def eightOpened : List ProcessCall := [(0, .deviceOpen 8 pastOpen true), (1, .deviceOpen 8 pastOpen true)]

/-- Each call about board 8 is followed by one about board 7. -/
def bothOpen (calls : List BoardCall) : List ProcessCall :=
  (0, .deviceOpen 7 pastOpen true) :: eightOpened ++ (toEight calls).flatMap fun made => [made, toSeven]

theorem toEight_about {made : ProcessCall} {calls : List BoardCall} (member : made ∈ toEight calls) :
    ∃ call ∈ calls, ∃ pid, (pid = 0 ∨ pid = 1) ∧
      made = (pid, .board 8 call .cleared .complete fun _ => 0) := by
  obtain ⟨i, inside, rfl⟩ := List.mem_mapIdx.mp member
  exact ⟨_, List.getElem_mem inside, i % 2, by omega, rfl⟩

theorem bothOpen_eight {calls : List BoardCall} :
    (bothOpen calls).filter (AboutBoard 8) = eightOpened ++ toEight calls := by
  have alone : ∀ made : List ProcessCall, (∀ one ∈ made, AboutBoard 8 one = true) →
      (made.flatMap fun one => [one, toSeven]).filter (AboutBoard 8) = made := by
    intro made mine
    induction made with
    | nil => rfl
    | cons one rest ih =>
        have here : [one, toSeven].filter (AboutBoard 8) = [one] := by
          rw [List.filter_cons_of_pos (mine one List.mem_cons_self)]
          rfl
        rw [List.flatMap_cons, List.filter_append, here,
          ih fun other member => mine other (List.mem_cons_of_mem _ member)]
        rfl
  have mine : ∀ one ∈ toEight calls, AboutBoard 8 one = true := by
    intro one member
    obtain ⟨call, _, pid, _, rfl⟩ := toEight_about member
    rfl
  rw [bothOpen, List.cons_append, List.filter_cons_of_neg (by decide), List.filter_append, alone _ mine]
  rfl

theorem bothOpen_allowed {boards : List Lib.DeviceInfo} {state : Processes} {calls : List BoardCall}
    (ids : boards.map Lib.DeviceInfo.boardId = [7, 8])
    (usable : ∀ call ∈ calls, ∀ outcome, call.Usable (twoWiring.length 8) outcome) :
    AllowedRun boards twoWiring state (bothOpen calls) := by
  have listed : ∀ boardId : BitVec 32, boardId = 7 ∨ boardId = 8 →
      ∃ info ∈ boards, info.boardId = boardId := by
    intro boardId known
    have member : boardId ∈ boards.map Lib.DeviceInfo.boardId := by simpa [ids] using known
    exact List.mem_map.mp member
  have always : ∀ made ∈ (toEight calls).flatMap fun made => [made, toSeven],
      ∀ spec, Allowed boards twoWiring spec made.2 := by
    intro made member spec
    obtain ⟨first, asked, one⟩ := List.mem_flatMap.mp member
    rcases List.mem_cons.mp one with rfl | last
    · obtain ⟨call, given, pid, _, rfl⟩ := toEight_about asked
      exact fun _ _ _ => usable call given _
    · rw [List.mem_singleton.mp last]
      exact fun _ _ _ => ⟨by decide, by decide⟩
  refine ⟨⟨listed 7 (.inl rfl), pastOpen_fair, rfl⟩, fun _ _ => ?_⟩
  refine ⟨⟨listed 8 (.inr rfl), pastOpen_fair, rfl⟩, fun _ _ => ?_⟩
  refine ⟨⟨listed 8 (.inr rfl), pastOpen_fair, rfl⟩, fun _ _ => ?_⟩
  exact (eachStep_of_forall always).mono fun spec made every => every (SharedBoards.process spec made.1)

theorem toEight_makes (calls : List BoardCall) : List.Forall₂ (Makes 8) (toEight calls) calls := by
  refine List.forall₂_iff_get.mpr ⟨List.length_mapIdx, ?_⟩
  intro i first second
  refine ⟨i % 2, .cleared, .complete, fun _ => 0, rfl, rfl, ?_⟩
  simp [toEight]

theorem modules_independent_two :
    ∃ boards state calls reached regs,
      (∀ pid, Started (fun _ => some 0x10000) boards twoWiring (Processes.process state pid)) ∧
      runFrom processStep state (bothOpen calls) = some reached ∧
      (∀ pid, pid = 0 ∨ pid = 1 → ReadsAs twoWiring 8 regs (Processes.process reached pid)) ∧
      (settings regs).run = 1 ∧ regs 0 Lib.DO1_Ref = 9 ∧ regs 0 Lib.F_VOLT_SEC_REF = 5 ∧
      regs 0 Lib.DIN_VLD = 0 := by
  obtain ⟨boards, state, started, ids, _⟩ := two_started
  have eight : (8 : BitVec 32) ∈ boards.map Lib.DeviceInfo.boardId := by simp [ids]
  obtain ⟨info, member, named⟩ := List.mem_map.mp eight
  obtain ⟨asked, asks⟩ := @sessionCalls_valid info.boardId 0
    (SharedBoards.regs (specAfter twoWiring state eightOpened) info.boardId) inTurn inTurn_valid
  have isOpen : ∀ pid, pid = 0 ∨ pid = 1 →
      SharedBoards.isOpen (specAfter twoWiring state eightOpened) pid info.boardId = true := by
    rintro pid (rfl | rfl)
    · rw [named]
      rfl
    · rw [named]
      rfl
  obtain ⟨reached, regs, ran, holds, reads⟩ := modules_independent started
    (bothOpen_allowed ids fun _ among => session_usable ⟨by decide, by decide⟩ asks among) member asks
    (by rw [named]; exact toEight_makes asked)
    (by
      intro one made
      obtain ⟨call, _, pid, known, rfl⟩ := toEight_about made
      exact isOpen pid known)
    (by rw [named]; exact bothOpen_eight)
  rw [named] at reads
  refine ⟨boards, state, asked, reached, regs, started, ran, ?_, ?_, ?_, ?_, ?_⟩
  · intro pid known
    exact reads pid (by rw [← named]; exact isOpen pid known)
  · have scopes : inTurn.filterMap ModuleCall.scope? =
        [.moduleInit, .selectCh fun i => BitVec.ofNat 8 i.val, .slectMode 1, .clearABuff, .start] := rfl
    rw [holds.scope, scopes]
    simp [ScopeSettings.step]
  · exact holds.outputs.ref 1 (by decide) (by decide)
  · exact holds.outputs.secRef
  · exact holds.inputs.pulse

end Vi53xx.System
