import Vi53xx.Driver.Proc
import Vi53xx.Driver.Kernel
import Vi53xx.Foundation.CTextProperties

/-! The version strings of a board. They tell versions apart, and there is room for seven
digits in the array they are printed to. -/

set_option autoImplicit false

namespace Vi53xx.Driver

open Foundation.CText

abbrev versionStringSize : Nat := 10

/-- `hexToVersionString` into the array of `device_show`. -/
def writeVersionString (num : BitVec 32) : Except Fault (List Char) :=
  if (hexToVersionString num).length + 1 ≤ versionStringSize then .ok (hexToVersionString num)
  else .error .outOfBounds

/-- `device_show` with the array that both versions are printed to, one after the other. -/
def deviceShowInto (xcdev : XdmaCdev) : Except Fault (List Char) := do
  let _ ← writeVersionString xcdev.info.fpgaVersion
  let _ ← writeVersionString xcdev.info.mdlVersion
  .ok (deviceShow xcdev)

/-- The byte of a version above the given bit. -/
def versionByte (num : BitVec 32) (bit : Nat) : Nat := ((num >>> bit) &&& 0xFF#32).toNat

/-- The digits that a byte is printed with. -/
def byteWidth (byte : Nat) : Nat := if byte < 10 then 1 else if byte < 100 then 2 else 3

def versionWidth (num : BitVec 32) : Nat :=
  byteWidth (versionByte num 16) + byteWidth (versionByte num 8) + byteWidth (versionByte num 0)

variable {num other : BitVec 32} {xcdev : XdmaCdev}

/-! ## The bytes -/

theorem versionByte_eq (bit : Nat) : versionByte num bit = num.toNat / 2 ^ bit % 256 := by
  have mask : (0xFF#32).toNat = 2 ^ 8 - 1 := rfl
  rw [versionByte, BitVec.toNat_and, mask, Nat.and_two_pow_sub_one_eq_mod, BitVec.toNat_ushiftRight,
    Nat.shiftRight_eq_div_pow]

theorem versionByte_lt (bit : Nat) : versionByte num bit < 256 := by
  rw [versionByte_eq]
  exact Nat.mod_lt _ (by decide)

theorem decimal_versionByte (bit : Nat) :
    decimal ((num >>> bit) &&& 0xFF#32).toInt = Nat.toDigits 10 (versionByte num bit) := by
  have small := @versionByte_lt num bit
  have same : ((num >>> bit) &&& 0xFF#32).toInt = (versionByte num bit : Int) := by
    refine BitVec.toInt_eq_toNat_of_lt ?_
    unfold versionByte at small
    omega
  rw [same, decimal, if_neg (by omega), Int.natAbs_natCast]

theorem hexToVersionString_eq : hexToVersionString num =
    Nat.toDigits 10 (versionByte num 16) ++ '.' ::
      (Nat.toDigits 10 (versionByte num 8) ++ '.' :: Nat.toDigits 10 (versionByte num 0)) := by
  have last : num &&& 0xFF#32 = (num >>> 0) &&& 0xFF#32 := by
    rw [BitVec.ushiftRight_zero]
  unfold hexToVersionString
  dsimp only
  rw [last, decimal_versionByte, decimal_versionByte, decimal_versionByte, List.append_assoc,
    List.cons_append]

/-! ## The length -/

theorem toDigits_byteWidth {byte : Nat} (small : byte < 256) :
    (Nat.toDigits 10 byte).length = byteWidth byte := by
  have one := @Nat.length_toDigits_le_iff 10 byte 1 (by decide) (by decide)
  have two := @Nat.length_toDigits_le_iff 10 byte 2 (by decide) (by decide)
  have three := @Nat.length_toDigits_le_iff 10 byte 3 (by decide) (by decide)
  have some : 0 < (Nat.toDigits 10 byte).length := List.length_pos_of_ne_nil Nat.toDigits_ne_nil
  unfold byteWidth
  split_ifs
  all_goals omega

theorem hexToVersionString_length : (hexToVersionString num).length = versionWidth num + 2 := by
  rw [hexToVersionString_eq, List.length_append, List.length_cons, List.length_append,
    List.length_cons, toDigits_byteWidth (versionByte_lt 16), toDigits_byteWidth (versionByte_lt 8),
    toDigits_byteWidth (versionByte_lt 0), versionWidth]
  omega

/-! ## Reading back -/

theorem versionBytes_iff : num.extractLsb' 0 24 = other.extractLsb' 0 24 ↔
    versionByte num 16 = versionByte other 16 ∧ versionByte num 8 = versionByte other 8 ∧
      versionByte num 0 = versionByte other 0 := by
  rw [← BitVec.toNat_inj, BitVec.extractLsb'_toNat, BitVec.extractLsb'_toNat]
  simp only [versionByte_eq, Nat.shiftRight_zero]
  omega

theorem dot_stops {rest : List Char} : Stops 10 ('.' :: rest) := by
  intro char tail same
  cases same
  rfl

theorem hexToVersionString_inj (same : hexToVersionString num = hexToVersionString other) :
    num.extractLsb' 0 24 = other.extractLsb' 0 24 := by
  rw [hexToVersionString_eq, hexToVersionString_eq] at same
  obtain ⟨high, behind⟩ := toDigits_append_inj (by decide) (by decide) dot_stops dot_stops same
  obtain ⟨middle, last⟩ := toDigits_append_inj (by decide) (by decide) dot_stops dot_stops
    (List.cons.inj behind).2
  have ends : Nat.toDigits 10 (versionByte num 0) ++ [] =
      Nat.toDigits 10 (versionByte other 0) ++ [] := by
    rw [(List.cons.inj last).2]
  have empty : Stops 10 [] := fun _ _ more => nomatch more
  obtain ⟨low, _⟩ := toDigits_append_inj (by decide) (by decide) empty empty ends
  exact versionBytes_iff.mpr ⟨high, middle, low⟩

theorem hexToVersionString_congr (same : num.extractLsb' 0 24 = other.extractLsb' 0 24) :
    hexToVersionString num = hexToVersionString other := by
  obtain ⟨high, middle, low⟩ := versionBytes_iff.mp same
  rw [hexToVersionString_eq, hexToVersionString_eq, high, middle, low]

/-! ## The array -/

theorem writeVersionString_eq : writeVersionString num =
    if versionWidth num ≤ 7 then .ok (hexToVersionString num) else .error .outOfBounds := by
  have size : versionStringSize = 10 := rfl
  have room : (hexToVersionString num).length + 1 ≤ versionStringSize ↔ versionWidth num ≤ 7 := by
    rw [hexToVersionString_length]
    omega
  simp only [writeVersionString, room]

/-- The file of a device is shown when both versions fit. -/
theorem deviceShowInto_iff : deviceShowInto xcdev = .ok (deviceShow xcdev) ↔
    versionWidth xcdev.info.fpgaVersion ≤ 7 ∧ versionWidth xcdev.info.mdlVersion ≤ 7 := by
  unfold deviceShowInto
  rw [writeVersionString_eq, writeVersionString_eq]
  by_cases fpga : versionWidth xcdev.info.fpgaVersion ≤ 7
  · by_cases mdl : versionWidth xcdev.info.mdlVersion ≤ 7
    · rw [if_pos fpga, if_pos mdl]
      exact iff_of_true rfl ⟨fpga, mdl⟩
    · rw [if_pos fpga, if_neg mdl]
      exact iff_of_false nofun fun both => mdl both.2
  · rw [if_neg fpga]
    exact iff_of_false nofun fun both => fpga both.1

/-- The version fits the array, and its string stands for its low 24 bits. -/
structure RendersVersion (num : BitVec 32) : Prop where
  fits : (hexToVersionString num).length + 1 ≤ versionStringSize
  faithful : ∀ other, hexToVersionString num = hexToVersionString other ↔
    num.extractLsb' 0 24 = other.extractLsb' 0 24

/-- The three bytes of a version have room for seven digits. -/
theorem renders_version_iff : RendersVersion num ↔ versionWidth num ≤ 7 := by
  have size : versionStringSize = 10 := rfl
  constructor
  · intro renders
    have fits := renders.fits
    rw [hexToVersionString_length] at fits
    omega
  · intro narrow
    refine ⟨?_, fun other => ⟨hexToVersionString_inj, hexToVersionString_congr⟩⟩
    rw [hexToVersionString_length]
    omega

theorem wide_version_overruns : ¬ RendersVersion 0xFFFFFF#32 := by
  have long : (hexToVersionString 0xFFFFFF#32).length = 11 := by decide +kernel
  intro renders
  have fits := renders.fits
  rw [long] at fits
  exact absurd fits (by decide)

end Vi53xx.Driver
