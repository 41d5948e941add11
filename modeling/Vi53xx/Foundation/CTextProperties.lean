import Vi53xx.Foundation.CText
import Mathlib.Data.List.TakeWhile
import Mathlib.Tactic.IntervalCases

/-! What was printed is scanned back. A numeral printed in one base and scanned
in a larger one keeps its value exactly when it has a single digit. -/

set_option autoImplicit false

namespace Vi53xx.Foundation.CText

variable {base printed : Nat}

/-! ## Digits -/

theorem digitIn_digitChar {digit : Nat} (small : base ≤ 16) (below : digit < base) :
    digitIn base digit.digitChar = some digit := by
  have bounded : digit < 16 := Nat.lt_of_lt_of_le below small
  unfold digitIn
  interval_cases digit <;> simp [Nat.digitChar, below]

theorem isSpace_digitChar {digit : Nat} (below : digit < 16) :
    isSpace digit.digitChar = false := by
  interval_cases digit <;> rfl

def Digits (base : Nat) (text : List Char) : Prop :=
  ∀ char ∈ text, ∃ digit, digit < base ∧ char = digit.digitChar

theorem toDigits_digits (large : 1 < printed) (value : Nat) :
    Digits printed (Nat.toDigits printed value) := by
  induction value using Nat.strong_induction_on with
  | _ value ih =>
      rw [Nat.toDigits_eq_if large]
      split
      · next small =>
          intro char member
          exact ⟨value, small, by simpa using member⟩
      · next big =>
          intro char member
          rcases List.mem_append.mp member with before | last
          · exact ih _ (Nat.div_lt_self (by omega) large) char before
          · exact ⟨_, Nat.mod_lt _ (by omega), by simpa using last⟩

theorem Digits.digitIn {text : List Char} (digits : Digits printed text)
    (fits : printed ≤ base) (small : base ≤ 16) :
    ∀ char ∈ text, (digitIn base char).isSome := by
  intro char member
  obtain ⟨digit, below, rfl⟩ := digits char member
  rw [digitIn_digitChar small (Nat.lt_of_lt_of_le below fits)]
  rfl

/-! ## Numerals -/

theorem scanDigits_append {text rest : List Char} {value : Nat}
    (digits : ∀ char ∈ text, (digitIn base char).isSome) :
    scanDigits base (text ++ rest) value = scanDigits base rest (scanDigits base text value).1 := by
  induction text generalizing value with
  | nil => rfl
  | cons char text ih =>
      obtain ⟨digit, here⟩ := Option.isSome_iff_exists.mp (digits char List.mem_cons_self)
      simp only [List.cons_append, scanDigits, here]
      exact ih fun other member => digits other (List.mem_cons_of_mem char member)

/-- The text does not go on with a digit of the base. -/
def Stops (base : Nat) (rest : List Char) : Prop :=
  ∀ char tail, rest = char :: tail → digitIn base char = none

theorem scanDigits_stops {rest : List Char} {value : Nat} (stops : Stops base rest) :
    scanDigits base rest value = (value, rest) := by
  cases rest with
  | nil => rfl
  | cons char tail => simp [scanDigits, stops char tail rfl]

/-- The number that a numeral printed in base `printed` stands for in base `base`. -/
def reread (printed base value : Nat) : Nat :=
  (scanDigits base (Nat.toDigits printed value) 0).1

theorem reread_of_lt {value : Nat} (fits : printed ≤ base) (small : base ≤ 16)
    (single : value < printed) : reread printed base value = value := by
  have digit := digitIn_digitChar small (Nat.lt_of_lt_of_le single fits)
  simp [reread, Nat.toDigits_of_lt_base single, scanDigits, digit]

theorem reread_of_le {value : Nat} (large : 1 < printed) (fits : printed ≤ base) (small : base ≤ 16)
    (several : printed ≤ value) :
    reread printed base value = reread printed base (value / printed) * base + value % printed := by
  have last : value % printed < base :=
    Nat.lt_of_lt_of_le (Nat.mod_lt _ (by omega)) fits
  have front := (toDigits_digits large (value / printed)).digitIn fits small
  rw [reread, Nat.toDigits_of_base_le large several, scanDigits_append front]
  simp [reread, scanDigits, digitIn_digitChar small last]

theorem le_reread (large : 1 < printed) (fits : printed ≤ base) (small : base ≤ 16) (value : Nat) :
    value ≤ reread printed base value := by
  induction value using Nat.strong_induction_on with
  | _ value ih =>
      by_cases single : value < printed
      · exact Nat.le_of_eq (reread_of_lt fits small single).symm
      · have shorter := ih (value / printed) (Nat.div_lt_self (by omega) large)
        rw [reread_of_le large fits small (by omega)]
        calc value = value / printed * printed + value % printed := by
              rw [Nat.mul_comm, Nat.div_add_mod]
          _ ≤ reread printed base (value / printed) * base + value % printed :=
              Nat.add_le_add_right (Nat.mul_le_mul shorter fits) _

theorem reread_self (large : 1 < base) (small : base ≤ 16) (value : Nat) :
    reread base base value = value := by
  induction value using Nat.strong_induction_on with
  | _ value ih =>
      by_cases single : value < base
      · exact reread_of_lt le_rfl small single
      · rw [reread_of_le large le_rfl small (by omega),
          ih _ (Nat.div_lt_self (by omega) large), Nat.mul_comm, Nat.div_add_mod]

/-- A numeral survives being scanned in a larger base only if it has one digit. -/
theorem reread_eq_iff (large : 1 < printed) (larger : printed < base) (small : base ≤ 16)
    (value : Nat) : reread printed base value = value ↔ value < printed := by
  constructor
  · intro kept
    apply Nat.lt_of_not_le
    intro several
    rw [reread_of_le large larger.le small several] at kept
    have front := le_reread large larger.le small (value / printed)
    have positive : 0 < value / printed := Nat.div_pos several (by omega)
    have whole := Nat.div_add_mod value printed
    have grown : printed * (value / printed) < reread printed base (value / printed) * base := by
      calc printed * (value / printed) < base * (value / printed) :=
            Nat.mul_lt_mul_of_pos_right larger positive
        _ = value / printed * base := Nat.mul_comm _ _
        _ ≤ reread printed base (value / printed) * base := Nat.mul_le_mul_right _ front
    omega
  · exact reread_of_lt larger.le small

theorem scanNumeral_toDigits {rest : List Char} {value : Nat} (large : 1 < printed)
    (fits : printed ≤ base) (small : base ≤ 16) (stops : Stops base rest) :
    scanNumeral base (Nat.toDigits printed value ++ rest) =
      some (reread printed base value, rest) := by
  have digits := (toDigits_digits large value).digitIn fits small
  have scanned : scanDigits base (Nat.toDigits printed value ++ rest) 0 =
      (reread printed base value, rest) := by
    rw [scanDigits_append digits, scanDigits_stops stops, reread]
  cases shape : Nat.toDigits printed value with
  | nil => exact absurd shape Nat.toDigits_ne_nil
  | cons char tail =>
      rw [shape] at scanned digits
      simp only [List.cons_append] at scanned ⊢
      simp [scanNumeral, digits char List.mem_cons_self, scanned]

/-- A numeral is told apart from the text that follows it. -/
theorem toDigits_append_inj {first second : Nat} {rest tail : List Char} (large : 1 < base)
    (small : base ≤ 16) (stops : Stops base rest) (ends : Stops base tail)
    (same : Nat.toDigits base first ++ rest = Nat.toDigits base second ++ tail) :
    first = second ∧ rest = tail := by
  have read : ∀ {value : Nat} {rest : List Char}, Stops base rest →
      scanNumeral base (Nat.toDigits base value ++ rest) = some (value, rest) := by
    intro value rest stops
    rw [scanNumeral_toDigits large le_rfl small stops, reread_self large small]
  have both := (read stops).symm.trans (same ▸ read ends)
  cases both
  exact ⟨rfl, rfl⟩

theorem Digits.not_mem {text : List Char} {char : Char} (digits : Digits base text)
    (small : base ≤ 16) (other : ∀ digit < 16, digit.digitChar ≠ char) : char ∉ text := by
  intro member
  obtain ⟨digit, below, same⟩ := digits char member
  exact other digit (Nat.lt_of_lt_of_le below small) same.symm

/-! ## Conversions -/

theorem scanSign_toDigits {rest : List Char} {value : Nat} (large : 1 < printed)
    (small : printed ≤ 16) :
    scanSign ((Nat.toDigits printed value ++ rest).dropWhile isSpace) =
      (false, Nat.toDigits printed value ++ rest) := by
  have digits := toDigits_digits large value
  cases shape : Nat.toDigits printed value with
  | nil => exact absurd shape Nat.toDigits_ne_nil
  | cons char tail =>
      rw [shape] at digits
      obtain ⟨digit, below, rfl⟩ := digits _ List.mem_cons_self
      have bounded : digit < 16 := Nat.lt_of_lt_of_le below small
      have visible := isSpace_digitChar bounded
      have minus : digit.digitChar ≠ '-' := by interval_cases digit <;> decide
      have plus : digit.digitChar ≠ '+' := by interval_cases digit <;> decide
      simp [visible, scanSign, minus, plus]

theorem scanHexNumeral_plain {text : List Char}
    (plain : ∀ first second tail, text = first :: second :: tail → second ≠ 'x' ∧ second ≠ 'X') :
    scanHexNumeral text = scanNumeral 16 text := by
  match text with
  | [] => rfl
  | [_] => rfl
  | first :: second :: tail =>
      obtain ⟨lower, upper⟩ := plain first second tail rfl
      simp [scanHexNumeral, lower, upper]

theorem scanHexNumeral_toDigits {rest : List Char} {value : Nat} (large : 1 < printed)
    (fits : printed ≤ 16) (stops : Stops 16 rest)
    (plain : ∀ char tail, rest = char :: tail → char ≠ 'x' ∧ char ≠ 'X') :
    scanHexNumeral (Nat.toDigits printed value ++ rest) =
      some (reread printed 16 value, rest) := by
  rw [← scanNumeral_toDigits large fits le_rfl stops]
  apply scanHexNumeral_plain
  intro first second tail split
  have digits := toDigits_digits large value
  cases shape : Nat.toDigits printed value with
  | nil => exact absurd shape Nat.toDigits_ne_nil
  | cons char others =>
      rw [shape, List.cons_append] at split
      obtain ⟨_, split⟩ := List.cons.inj split
      cases others with
      | nil => exact plain second tail split
      | cons next others =>
          obtain ⟨rfl, _⟩ := List.cons.inj split
          obtain ⟨digit, below, rfl⟩ := digits next (by simp [shape])
          have bounded : digit < 16 := Nat.lt_of_lt_of_le below fits
          interval_cases digit <;> decide

theorem scanHex_toDigits {rest : List Char} {value : Nat} (large : 1 < printed)
    (fits : printed ≤ 16) (stops : Stops 16 rest)
    (plain : ∀ char tail, rest = char :: tail → char ≠ 'x' ∧ char ≠ 'X')
    (bounded : reread printed 16 value < 2 ^ 64) :
    scanHex (Nat.toDigits printed value ++ rest) =
      some (BitVec.ofNat 32 (reread printed 16 value), rest) := by
  have representable : ¬ 2 ^ 64 ≤ reread printed 16 value := by omega
  simp only [scanHex, scanSign_toDigits large fits, scanHexNumeral_toDigits large fits stops plain,
    Option.map_some, unsignedLong, if_neg representable, Bool.false_eq_true, if_false]
  rw [BitVec.setWidth_ofNat_of_le (by omega)]

theorem scanHex_hexadecimal {width : Nat} {rest : List Char} (value : BitVec width)
    (narrow : width ≤ 32) (stops : Stops 16 rest) :
    scanHex ('0' :: 'x' :: (hexadecimal value ++ rest)) = some (value.setWidth 32, rest) := by
  have below : value.toNat < 2 ^ 32 :=
    Nat.lt_of_lt_of_le value.isLt (Nat.pow_le_pow_right (by omega) narrow)
  have representable : ¬ 2 ^ 64 ≤ value.toNat := by omega
  have spaces : ('0' :: 'x' :: (hexadecimal value ++ rest)).dropWhile isSpace =
      '0' :: 'x' :: (hexadecimal value ++ rest) := rfl
  have sign : scanSign ('0' :: 'x' :: (hexadecimal value ++ rest)) =
      (false, '0' :: 'x' :: (hexadecimal value ++ rest)) := rfl
  have numeral : scanHexNumeral ('0' :: 'x' :: (hexadecimal value ++ rest)) =
      some (value.toNat, rest) := by
    simp only [scanHexNumeral, true_or, and_self, if_true]
    rw [hexadecimal, scanNumeral_toDigits (by decide) le_rfl le_rfl stops,
      reread_self (by decide) le_rfl]
  simp only [scanHex, spaces, sign, numeral, Option.map_some, unsignedLong, if_neg representable,
    Bool.false_eq_true, if_false]
  rw [BitVec.setWidth_ofNat_of_le (by omega)]
  congr 2
  apply BitVec.eq_of_toNat_eq
  simp [BitVec.toNat_setWidth]

theorem scanDecimal_decimal {rest : List Char} (value : Int) (stops : Stops 10 rest)
    (low : -2 ^ 63 ≤ value) (high : value < 2 ^ 63) :
    scanDecimal (decimal value ++ rest) = some (BitVec.ofInt 32 value, rest) := by
  have numeral : scanNumeral 10 (Nat.toDigits 10 value.natAbs ++ rest) =
      some (value.natAbs, rest) := by
    rw [scanNumeral_toDigits (by decide) le_rfl (by decide) stops, reread_self (by decide) (by decide)]
  unfold decimal
  split
  · next negative =>
      have sign : scanSign (('-' :: Nat.toDigits 10 value.natAbs ++ rest).dropWhile isSpace) =
          (true, Nat.toDigits 10 value.natAbs ++ rest) := rfl
      have read : signedLong true value.natAbs = value := by
        simp only [signedLong, if_true]
        omega
      simp only [scanDecimal, sign, numeral, Option.map_some, read]
  · next positive =>
      have read : signedLong false value.natAbs = value := by
        simp only [signedLong, Bool.false_eq_true, if_false]
        omega
      simp only [scanDecimal, scanSign_toDigits (by decide : 1 < 10) (by decide), numeral,
        Option.map_some, read]

@[simp] theorem scanLiteral_cons {char : Char} {rest : List Char} :
    scanLiteral char (char :: rest) = some rest := by
  simp [scanLiteral]

/-! ## Strings in buffers -/

@[simp] theorem cstring_append {text rest : List Char} (plain : nul ∉ text) :
    cstring (text ++ nul :: rest) = some text := by
  induction text with
  | nil => simp [cstring]
  | cons char text ih =>
      obtain ⟨differs, others⟩ := not_or.mp (mt List.mem_cons.mpr plain)
      simp [cstring, Ne.symm differs, ih others]

/-- `strtok` ends the first word of a buffer after the separators before it. -/
theorem strtok_word {separators blank word rest : List Char} {separator : Char}
    (blanks : ∀ char ∈ blank, char ∈ separators) (word_ne : word ≠ [])
    (plain : ∀ char ∈ word, char ≠ nul ∧ char ∉ separators) (member : separator ∈ separators) :
    strtok separators (blank ++ (word ++ separator :: rest)) =
      (some blank.length, blank ++ (word ++ nul :: rest)) := by
  have unskipped : (word ++ separator :: rest).takeWhile separators.contains = [] := by
    cases word with
    | nil => exact absurd rfl word_ne
    | cons char word => simp [(plain char List.mem_cons_self).2]
  have skipped : (blank ++ (word ++ separator :: rest)).takeWhile separators.contains = blank := by
    rw [List.takeWhile_append_of_pos, unskipped, List.append_nil]
    intro char included
    simp [blanks char included]
  have token : (word ++ separator :: rest).takeWhile
      (fun char => char != nul && !separators.contains char) = word := by
    rw [List.takeWhile_append_of_pos]
    · simp [member]
    · intro char included
      simp [plain char included]
  simp only [strtok, skipped, List.drop_left, token, if_neg word_ne]
  rw [List.set_append_right _ _ (Nat.le_add_right _ _), Nat.add_sub_cancel_left,
    List.set_append_right _ _ le_rfl]
  simp

/-! ## The first word of a string -/

theorem takeWhile_before_nul {wanted : Char → Bool} {text rest : List Char}
    (stops : wanted nul = false) :
    (text ++ nul :: rest).takeWhile wanted = text.takeWhile wanted := by
  induction text with
  | nil => simp [stops]
  | cons char text ih =>
      rw [List.cons_append, List.takeWhile_cons, List.takeWhile_cons, ih]

/-- The word that `strtok` finds in a string. -/
def firstWord (separators text : List Char) : Option (List Char) :=
  let word := (text.drop (text.takeWhile separators.contains).length).takeWhile fun char =>
    char != nul && !separators.contains char
  if word = [] then none else some word

variable {separators text tail : List Char}

theorem strtok_string (stops : nul ∉ separators) :
    strtok separators (text ++ nul :: tail) =
      match firstWord separators text with
      | none => (none, text ++ nul :: tail)
      | some word => (some (text.takeWhile separators.contains).length, (text ++ nul :: tail).set
          ((text.takeWhile separators.contains).length + word.length) nul) := by
  have skipped : (text ++ nul :: tail).takeWhile separators.contains =
      text.takeWhile separators.contains := takeWhile_before_nul (by simpa using stops)
  have bounded := (List.takeWhile_sublist (l := text) separators.contains).length_le
  have token : ((text ++ nul :: tail).drop (text.takeWhile separators.contains).length).takeWhile
      (fun char => char != nul && !separators.contains char) =
      (text.drop (text.takeWhile separators.contains).length).takeWhile
        fun char => char != nul && !separators.contains char := by
    rw [List.drop_append_of_le_length bounded]
    exact takeWhile_before_nul (by simp)
  simp only [strtok, firstWord, skipped, token]
  split
  · rfl
  · rfl

theorem firstWord_split {word : List Char} (found : firstWord separators text = some word) :
    ∃ rest, text = text.takeWhile separators.contains ++ (word ++ rest) ∧ nul ∉ word := by
  unfold firstWord at found
  dsimp only at found
  split at found
  · cases found
  · cases found
    refine ⟨(text.drop (text.takeWhile separators.contains).length).dropWhile fun char =>
      char != nul && !separators.contains char, ?_, ?_⟩
    · rw [List.takeWhile_append_dropWhile]
      exact (List.prefix_iff_eq_append.mp (List.takeWhile_prefix _)).symm
    · intro member
      have wanted := List.mem_takeWhile_imp member
      simp at wanted

theorem firstWord_fits {word : List Char} (found : firstWord separators text = some word) :
    (text.takeWhile separators.contains).length + word.length ≤ text.length := by
  obtain ⟨rest, split, _⟩ := firstWord_split found
  have length := congrArg List.length split
  simp only [List.length_append] at length
  omega

/-- The string after `strtok`, with its NUL. -/
def cutWord (separators text : List Char) : List Char := (strtok separators (text ++ [nul])).2

theorem cutWord_length : (cutWord separators text).length = text.length + 1 := by
  unfold cutWord strtok
  dsimp only
  split <;> simp

/-- `strtok` leaves alone what is behind the string. -/
theorem strtok_tail (stops : nul ∉ separators) :
    (strtok separators (text ++ nul :: tail)).2 = cutWord separators text ++ tail := by
  rw [cutWord, strtok_string stops, strtok_string stops]
  cases found : firstWord separators text with
  | none => simp
  | some word =>
      have fits := firstWord_fits found
      have split : text ++ nul :: tail = (text ++ [nul]) ++ tail := by simp
      rw [split]
      exact List.set_append_left _ _ (by simp; omega)

theorem cutWord_nul (stops : nul ∉ separators) :
    (cutWord separators text)[text.length]? = some nul := by
  rw [cutWord, strtok_string stops]
  cases found : firstWord separators text with
  | none => simp
  | some word =>
      rw [List.getElem?_set]
      split
      · next last => simp [last]
      · simp

/-- The word can be read where `strtok` points. -/
theorem strtok_word_read (stops : nul ∉ separators) :
    ((strtok separators (text ++ nul :: tail)).1.map fun offset =>
        cstring ((strtok separators (text ++ nul :: tail)).2.drop offset)) =
      (firstWord separators text).map some := by
  rw [strtok_string stops]
  cases found : firstWord separators text with
  | none => rfl
  | some word =>
      obtain ⟨rest, split, plain⟩ := firstWord_split found
      generalize text.takeWhile separators.contains = blank at split
      obtain ⟨last, behind, shape⟩ : ∃ last behind, rest ++ nul :: tail = last :: behind :=
        List.exists_cons_of_ne_nil (by simp)
      have memory : text ++ nul :: tail = blank ++ (word ++ last :: behind) := by
        rw [split, List.append_assoc, List.append_assoc, shape]
      have cut : (text ++ nul :: tail).set (blank.length + word.length) nul =
          blank ++ (word ++ nul :: behind) := by
        rw [memory, List.set_append_right _ _ (Nat.le_add_right _ _), Nat.add_sub_cancel_left,
          List.set_append_right _ _ le_rfl, Nat.sub_self, List.set_cons_zero]
      simp only [Option.map_some, cut, List.drop_left, cstring_append plain]

theorem cstring_of_nul {memory rest : List Char} (there : nul ∈ memory) :
    ∃ string, cstring memory = some string ∧ cstring (memory ++ rest) = some string := by
  induction memory with
  | nil => cases there
  | cons char memory ih =>
      by_cases ends : char = nul
      · exact ⟨[], by simp [cstring, ends], by simp [cstring, ends]⟩
      · have later : nul ∈ memory := (List.mem_cons.mp there).resolve_left (Ne.symm ends)
        obtain ⟨string, here, longer⟩ := ih later
        exact ⟨char :: string, by simp [cstring, ends, here], by simp [cstring, ends, longer]⟩

/-! ## Lines -/

theorem splitLine_line {line rest : List Char} {room : Nat} (plain : '\n' ∉ line)
    (fits : line.length < room) :
    splitLine room (line ++ '\n' :: rest) = (line ++ ['\n'], rest) := by
  induction line generalizing room with
  | nil =>
      obtain ⟨room, rfl⟩ := Nat.exists_eq_add_one_of_ne_zero (Nat.ne_of_gt fits)
      simp [splitLine]
  | cons char line ih =>
      obtain ⟨room, rfl⟩ := Nat.exists_eq_add_one_of_ne_zero (Nat.ne_zero_of_lt fits)
      obtain ⟨differs, others⟩ := not_or.mp (mt List.mem_cons.mpr plain)
      have shorter : line.length < room := by simpa using fits
      simp [splitLine, Ne.symm differs, ih others shorter]

theorem splitLine_length (room : Nat) (text : List Char) (room_pos : 0 < room) (text_ne : text ≠ []) :
    (splitLine room text).2.length < text.length := by
  induction text generalizing room with
  | nil => exact absurd rfl text_ne
  | cons char rest ih =>
      obtain ⟨room, rfl⟩ := Nat.exists_eq_add_one_of_ne_zero (Nat.ne_of_gt room_pos)
      unfold splitLine
      split
      · simp
      · cases rest with
        | nil => cases room <;> simp [splitLine]
        | cons next rest =>
            cases room with
            | zero => simp [splitLine]
            | succ room =>
                have shorter := ih (room + 1) (by omega) (by simp)
                simp only [List.length_cons] at shorter ⊢
                omega

theorem fgetsLoop_fuel {size fuel : Nat} {file : List Char} (room : 1 < size)
    (enough : file.length ≤ fuel) : fgetsLoop size fuel file = fgetsAll size file := by
  unfold fgetsAll
  induction fuel using Nat.strong_induction_on generalizing file with
  | _ fuel ih =>
      cases file with
      | nil => cases fuel <;> rfl
      | cons char rest =>
          obtain ⟨fuel, rfl⟩ := Nat.exists_eq_add_one_of_ne_zero
            (Nat.ne_of_gt (Nat.lt_of_lt_of_le (Nat.succ_pos rest.length) enough))
          have shorter := splitLine_length (size - 1) (char :: rest) (by omega) (by simp)
          simp only [List.length_cons] at shorter enough
          simp only [fgetsLoop, fgets, List.length_cons, reduceCtorEq, if_false]
          rw [ih fuel (by omega) (by omega)]
          by_cases longer : rest.length = fuel
          · rw [longer, ih fuel (by omega) (by omega)]
          · rw [ih rest.length (by omega) (by omega)]

theorem fgetsAll_eq {size : Nat} {file : List Char} (room : 1 < size) :
    fgetsAll size file =
      match fgets size file with
      | none => []
      | some (line, rest) => line :: fgetsAll size rest := by
  cases file with
  | nil => rfl
  | cons char rest =>
      have shorter := splitLine_length (size - 1) (char :: rest) (by omega) (by simp)
      simp only [List.length_cons] at shorter
      have enough : (splitLine (size - 1) (char :: rest)).2.length ≤ rest.length := by omega
      simp [fgetsAll, fgetsLoop, fgets, fgetsLoop_fuel room enough]

/-- A text that starts with short lines is read line by line up to their end. -/
theorem fgetsAll_lines_append {size : Nat} {lines : List (List Char)} {rest : List Char}
    (shaped : ∀ line ∈ lines, '\n' ∉ line ∧ line.length + 1 < size) :
    fgetsAll size ((lines.flatMap fun line => line ++ ['\n']) ++ rest) =
      (lines.map fun line => line ++ ['\n']) ++ fgetsAll size rest := by
  induction lines with
  | nil => rfl
  | cons line lines ih =>
      obtain ⟨plain, fits⟩ := shaped line List.mem_cons_self
      have others := ih fun other member => shaped other (List.mem_cons_of_mem line member)
      have here : ∀ behind, fgets size (line ++ '\n' :: behind) = some (line ++ ['\n'], behind) := by
        intro behind
        have nonempty : line ++ '\n' :: behind ≠ [] := by simp
        rw [fgets, if_neg nonempty, splitLine_line plain (by omega)]
      rw [List.flatMap_cons, List.append_assoc, List.append_assoc, List.singleton_append,
        fgetsAll_eq (by omega), here]
      simp [others]

/-- A text made of short lines is read line by line. -/
theorem fgetsAll_lines {size : Nat} {lines : List (List Char)}
    (shaped : ∀ line ∈ lines, '\n' ∉ line ∧ line.length + 1 < size) :
    fgetsAll size (lines.flatMap fun line => line ++ ['\n']) =
      lines.map fun line => line ++ ['\n'] := by
  have read := @fgetsAll_lines_append size lines [] shaped
  rw [List.append_nil] at read
  exact read.trans (List.append_nil _)

theorem splitLine_all {line : List Char} {room : Nat} (plain : '\n' ∉ line)
    (fits : line.length ≤ room) : splitLine room line = (line, []) := by
  induction line generalizing room with
  | nil => cases room <;> rfl
  | cons char line ih =>
      obtain ⟨room, rfl⟩ := Nat.exists_eq_add_one_of_ne_zero (Nat.ne_zero_of_lt fits)
      obtain ⟨differs, others⟩ := not_or.mp (mt List.mem_cons.mpr plain)
      have shorter : line.length ≤ room := by simpa using fits
      simp [splitLine, Ne.symm differs, ih others shorter]

/-- A last line without newline is read as it is. -/
theorem fgetsAll_unfinished {size : Nat} {line : List Char} (plain : '\n' ∉ line)
    (fits : line.length < size) : fgetsAll size line = if line = [] then [] else [line] := by
  split
  · next empty =>
      subst empty
      rfl
  · next nonempty =>
      have room : 1 < size := by
        have positive := List.length_pos_iff.mpr nonempty
        omega
      have read : fgets size line = some (line, []) := by
        rw [fgets, if_neg nonempty, splitLine_all plain (by omega)]
      rw [fgetsAll_eq room, read]
      rfl

end Vi53xx.Foundation.CText
