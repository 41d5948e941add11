import Vi53xx.Lib.DiConfig

/-! The register value of an input setting, with the control code from bit 12 on and the
threshold code in the ten bits from bit 2 on. -/

set_option autoImplicit false

namespace Vi53xx.Lib

variable {channel highlow : Int} {v : ℚ} {control code value : BitVec 32}

/-! ## The threshold code -/

theorem toUnsigned_toNat {bound : Nat} (small : bound < 2 ^ 32) (high : v ≤ bound) :
    (toUnsigned v).toNat = ⌊v⌋₊ := by
  have bounded : ⌊v⌋₊ ≤ bound := Nat.floor_le_of_le high
  rw [toUnsigned, BitVec.toNat_ofNat, Nat.mod_eq_of_lt (by omega)]

theorem V_pos : 0 < V := by norm_num [V]

/-- Up to full scale both conversions are in range. -/
theorem getInputCode_toNat (high : v ≤ V) :
    (getInputCode v).toNat = ⌊(⌊1024 * v⌋₊ : ℚ) / V⌋₊ := by
  have scaled_high : v * 1024 ≤ (2560 : Nat) := by
    have bounded : v ≤ 5 / 2 := high
    push_cast
    linarith
  have first : (toUnsigned (v * 1024)).toNat = ⌊1024 * v⌋₊ := by
    rw [toUnsigned_toNat (by norm_num) scaled_high, mul_comm]
  have whole : ⌊1024 * v⌋₊ ≤ 2560 := by
    rw [mul_comm]
    exact Nat.floor_le_of_le scaled_high
  have quotient_high : (⌊1024 * v⌋₊ : ℚ) / V ≤ (1024 : Nat) := by
    have bounded : (⌊1024 * v⌋₊ : ℚ) ≤ 2560 := by exact_mod_cast whole
    rw [div_le_iff₀ V_pos, V]
    push_cast
    linarith
  rw [getInputCode, first, toUnsigned_toNat (by norm_num) quotient_high]

/-- The code has ten bits except at full scale. -/
theorem inputCode_lt_iff (low : 0 ≤ v) (high : v ≤ V) :
    (getInputCode v).toNat < 1024 ↔ v < V := by
  have scaled_low : 0 ≤ 1024 * v := by positivity
  have positive := V_pos
  have quotient_low : (0 : ℚ) ≤ (⌊1024 * v⌋₊ : ℚ) / V := by positivity
  rw [getInputCode_toNat high, Nat.floor_lt quotient_low, div_lt_iff₀ V_pos]
  have bound : ((1024 : Nat) : ℚ) * V = ((2560 : Nat) : ℚ) := by norm_num [V]
  rw [bound, Nat.cast_lt, Nat.floor_lt scaled_low, V]
  constructor
  · intro below
    push_cast at below
    linarith
  · intro below
    push_cast
    linarith

/-! ## The control code -/

def ValidInput (channel highlow : Int) : Prop :=
  (1 ≤ channel ∧ channel ≤ 16) ∧ (highlow = 0 ∨ highlow = 1)

/-- The register of the group of four channels. -/
def ownRegister (channel : Int) : BitVec 32 :=
  if channel ≤ 4 then DIN4 else if channel ≤ 8 then DIN3 else if channel ≤ 12 then DIN2 else DIN1

theorem ValidInput.places (valid : ValidInput channel highlow) :
    ∃ (place : Fin 16) (level : Fin 2), channel = place.val + 1 ∧ highlow = level.val := by
  obtain ⟨⟨low, high⟩, level⟩ := valid
  refine ⟨⟨(channel - 1).toNat, by omega⟩, ⟨highlow.toNat, by omega⟩, ?_, ?_⟩
  · simp only
    omega
  · simp only
    omega

theorem getControl_valid (valid : ValidInput channel highlow) :
    ∃ control, getControl channel highlow = .ok control ∧
      1 ≤ control.toNat ∧ control.toNat ≤ 8 := by
  obtain ⟨place, level, rfl, rfl⟩ := valid.places
  have all : ∀ (place : Fin 16) (level : Fin 2),
      ((getControl (place.val + 1) level.val).toOption.any fun control =>
        decide (1 ≤ control.toNat ∧ control.toNat ≤ 8)) = true := by decide +kernel
  have bounds := all place level
  cases found : getControl (place.val + 1) level.val with
  | error fault => simp [found, Except.toOption] at bounds
  | ok control =>
      simp only [found, Except.toOption, Option.any_some, decide_eq_true_eq] at bounds
      exact ⟨control, rfl, bounds⟩

/-- Within a group no two settings have the same control code. -/
theorem getControl_injective {otherChannel otherLevel : Int} (valid : ValidInput channel highlow)
    (other : ValidInput otherChannel otherLevel)
    (group : ownRegister otherChannel = ownRegister channel)
    (same : getControl otherChannel otherLevel = getControl channel highlow) :
    otherChannel = channel ∧ otherLevel = highlow := by
  obtain ⟨place, level, rfl, rfl⟩ := valid.places
  obtain ⟨otherPlace, otherLevel, rfl, rfl⟩ := other.places
  have all : ∀ (place other : Fin 16) (level otherLevel : Fin 2),
      ownRegister (other.val + 1) = ownRegister (place.val + 1) →
      (getControl (other.val + 1) otherLevel.val).toOption =
        (getControl (place.val + 1) level.val).toOption →
      other = place ∧ otherLevel = level := by decide +kernel
  obtain ⟨rfl, rfl⟩ := all place otherPlace level otherLevel group (congrArg Except.toOption same)
  exact ⟨rfl, rfl⟩

/-! ## Both in one value -/

/-- A code of ten bits and a control code stand side by side. -/
theorem regValue_toNat (small : control.toNat ≤ 8) (low : code.toNat < 1024) :
    ((control <<< MASK) ||| (code <<< 2)).toNat = control.toNat * 4096 + code.toNat * 4 := by
  have high : control.toNat <<< 12 = control.toNat * 4096 := Nat.shiftLeft_eq _ _
  have middle : code.toNat <<< 2 = code.toNat * 4 := Nat.shiftLeft_eq _ _
  have fits : code.toNat * 4 < 2 ^ 12 := by omega
  rw [BitVec.toNat_or, MASK, BitVec.toNat_shiftLeft, BitVec.toNat_shiftLeft, high, middle,
    Nat.mod_eq_of_lt (by omega), Nat.mod_eq_of_lt (by omega), ← high,
    ← Nat.shiftLeft_add_eq_or_of_lt fits]

theorem regValue_nonzero (positive : 1 ≤ control.toNat) (small : control.toNat ≤ 8)
    (low : code.toNat < 1024) : (control <<< MASK) ||| (code <<< 2) ≠ 0 := by
  intro zero
  have whole := regValue_toNat small low
  have none : (0 : BitVec 32).toNat = 0 := rfl
  rw [zero, none] at whole
  omega

/-- The value gives back control code and threshold code. -/
theorem regValue_injective {otherControl otherCode : BitVec 32} (small : control.toNat ≤ 8)
    (otherSmall : otherControl.toNat ≤ 8) (low : code.toNat < 1024)
    (otherLow : otherCode.toNat < 1024)
    (same : (otherControl <<< MASK) ||| (otherCode <<< 2) = (control <<< MASK) ||| (code <<< 2)) :
    otherControl = control ∧ otherCode = code := by
  have whole := regValue_toNat small low
  rw [← same, regValue_toNat otherSmall otherLow] at whole
  exact ⟨BitVec.eq_of_toNat_eq (by omega), BitVec.eq_of_toNat_eq (by omega)⟩

theorem getRegValue_of_control (found : getControl channel highlow = .ok control) :
    getRegValue channel highlow code = .ok ((control <<< MASK) ||| (code <<< 2)) := by
  simp [getRegValue, found, Except.map]

/-- What can be read back from the value of a setting. -/
def FieldsSeparate (channel highlow : Int) (v : ℚ) : Prop :=
  ∃ value control, getDiValue channel highlow v = .ok value ∧
    getControl channel highlow = .ok control ∧ value >>> MASK = control ∧
      (value.extractLsb' 2 10).toNat = ⌊(⌊1024 * v⌋₊ : ℚ) / V⌋₊

theorem not_fieldsSeparate (low : 0 ≤ v) (high : v ≤ V) (full : ¬ v < V) :
    ¬ FieldsSeparate channel highlow v := by
  rintro ⟨value, control, _, _, _, read⟩
  have bounded := (value.extractLsb' 2 10).isLt
  rw [read, ← getInputCode_toNat high] at bounded
  exact full ((inputCode_lt_iff low high).mp bounded)

/-- From 0 to 2.5 V, the control code and the threshold code can be read back from the
register value at every voltage but 2.5 V. -/
theorem fields_separate_iff (valid : ValidInput channel highlow) (low : 0 ≤ v) (high : v ≤ V) :
    FieldsSeparate channel highlow v ↔ v < V := by
  constructor
  · intro separate
    by_contra full
    exact not_fieldsSeparate low high full separate
  · intro below
    obtain ⟨control, found, _, small⟩ := getControl_valid valid
    have code := (inputCode_lt_iff low high).mpr below
    have whole := regValue_toNat small code
    refine ⟨(control <<< MASK) ||| (getInputCode v <<< 2), control, ?_, found, ?_, ?_⟩
    · exact getRegValue_of_control found
    · apply BitVec.eq_of_toNat_eq
      rw [BitVec.toNat_ushiftRight, whole, Nat.shiftRight_eq_div_pow, MASK]
      omega
    · rw [BitVec.extractLsb'_toNat, whole, Nat.shiftRight_eq_div_pow, ← getInputCode_toNat high]
      omega

theorem fields_separate_iff_one : FieldsSeparate 1 0 1 ↔ 1 < V :=
  fields_separate_iff ⟨by decide, .inl rfl⟩ zero_le_one (by norm_num [V])

theorem getInputCode_full : getInputCode V = 1024 := by
  apply BitVec.eq_of_toNat_eq
  have scaled : 1024 * V = ((2560 : Nat) : ℚ) := by norm_num [V]
  have quotient : ((2560 : Nat) : ℚ) / V = ((1024 : Nat) : ℚ) := by norm_num [V]
  rw [getInputCode_toNat le_rfl, scaled, Nat.floor_natCast, quotient, Nat.floor_natCast]
  rfl

/-- At full scale the low level of channel 1 has the value of channel 2 at 0 V. -/
theorem full_scale_spills :
    ¬ FieldsSeparate 1 0 V ∧ getDiValue 1 0 V = .ok (DI2_LOWLEVEL_CONTROL <<< MASK) := by
  refine ⟨not_fieldsSeparate V_pos.le le_rfl (lt_irrefl V), ?_⟩
  rw [getDiValue, getInputCode_full]
  decide

end Vi53xx.Lib
