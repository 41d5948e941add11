import Vi53xx.Foundation.CTextProperties

/-! The scanner of the kernel, for the conversions `%s`, `%d` and `%x`. It differs from
the one of the C library: numbers wrap, no sign but a minus is read, a word may be empty,
and the no-break space counts as white space. -/

set_option autoImplicit false

namespace Vi53xx.Foundation.KernelScan

open CText

def isspace (char : Char) : Bool := isSpace char || char.toNat == 160

def skipSpaces (text : List Char) : List Char := text.dropWhile isspace

def SHRT_MAX : Nat := 32767

/-- Conversion `%s`. White space up to the end of the text gives the empty word. -/
def scanWord (text : List Char) : Option (List Char × List Char) :=
  if text = [] then none
  else
    let skipped := skipSpaces text
    let word := (skipped.takeWhile fun char => !isspace char).take SHRT_MAX
    some (word, skipped.drop word.length)

/-- Conversion `%d` into an `int`. -/
def scanInt (text : List Char) : Option (BitVec 32 × List Char) :=
  let skipped := skipSpaces text
  let negative := skipped.head? = some '-'
  let digits := if negative then skipped.tail else skipped
  (scanNumeral 10 digits).map fun (magnitude, rest) =>
    let value := BitVec.ofNat 64 magnitude
    ((if negative then -value else value).setWidth 32, rest)

/-- A leading `0x`, with which no digit needs to follow. -/
def fixupRadix : List Char → List Char
  | first :: second :: rest =>
      if first = '0' ∧ (second = 'x' ∨ second = 'X') then rest else first :: second :: rest
  | text => text

/-- Conversion `%x` into an `unsigned int`. -/
def scanHex (text : List Char) : Option (BitVec 32 × List Char) :=
  let skipped := skipSpaces text
  if (skipped.head?.bind (digitIn 16)).isSome then
    let (magnitude, rest) := scanDigits 16 (fixupRadix skipped) 0
    some ((BitVec.ofNat 64 magnitude).setWidth 32, rest)
  else none

inductive Directive where
  | space
  | word
  | int
  | hex
  deriving DecidableEq, Repr

inductive Scanned where
  | word (text : List Char)
  | int (value : BitVec 32)
  | hex (value : BitVec 32)
  deriving DecidableEq, Repr

/-- What `sscanf` stores, and returns the number of. -/
def sscanf : List Directive → List Char → List Scanned
  | [], _ => []
  | .space :: format, text => sscanf format (skipSpaces text)
  | .word :: format, text =>
      match scanWord text with
      | none => []
      | some (word, rest) => .word word :: sscanf format rest
  | .int :: format, text =>
      match scanInt text with
      | none => []
      | some (value, rest) => .int value :: sscanf format rest
  | .hex :: format, text =>
      match scanHex text with
      | none => []
      | some (value, rest) => .hex value :: sscanf format rest

/-- An array of the given size has room for the value; a word needs its NUL as well. -/
def Scanned.fits (size : Nat) : Scanned → Bool
  | .word text => text.length + 1 ≤ size
  | .int _ | .hex _ => true

/-- The number that hexadecimal digits stand for after those of the value. -/
def hexValue (value : Nat) (digits : List Char) : Nat :=
  digits.foldl (fun value char => value * 16 + (digitIn 16 char).getD 0) value

/-- A hexadecimal numeral as a command may have it, with or without `0x`. -/
structure HexText where
  radix : List Char
  digits : List Char
  optional : radix = [] ∨ radix = ['0', 'x'] ∨ radix = ['0', 'X']
  nonempty : digits ≠ []
  hexadecimal : ∀ char ∈ digits, (digitIn 16 char).isSome = true

def HexText.text (numeral : HexText) : List Char := numeral.radix ++ numeral.digits

def HexText.value (numeral : HexText) : Nat := hexValue 0 numeral.digits

/-! ## Words -/

variable {text word rest digits : List Char} {format : List Directive} {size value : Nat}

theorem scanWord_isSome (present : text ≠ []) : ∃ word rest, scanWord text = some (word, rest) :=
  ⟨_, _, if_neg present⟩

theorem scanWord_word (scanned : scanWord text = some (word, rest)) :
    word = ((skipSpaces text).takeWhile fun char => !isspace char).take SHRT_MAX := by
  unfold scanWord at scanned
  split at scanned
  · cases scanned
  · cases scanned
    rfl

theorem scanWord_length (scanned : scanWord text = some (word, rest)) :
    word.length ≤ text.length := by
  rw [scanWord_word scanned]
  calc (((skipSpaces text).takeWhile fun char => !isspace char).take SHRT_MAX).length
      ≤ ((skipSpaces text).takeWhile fun char => !isspace char).length := List.length_take_le' ..
    _ ≤ (skipSpaces text).length := (List.takeWhile_prefix _).length_le
    _ ≤ text.length := (List.dropWhile_suffix _).length_le

/-- A word is the whole text exactly when there is no white space in the text. -/
theorem scanWord_whole (scanned : scanWord text = some (word, rest))
    (short : text.length ≤ SHRT_MAX) :
    word.length = text.length ↔ ∀ char ∈ text, isspace char = false := by
  have cut := scanWord_word scanned
  have suffix : skipSpaces text <:+ text := List.dropWhile_suffix _
  have skipped : (skipSpaces text).length ≤ text.length := suffix.length_le
  have begun : ((skipSpaces text).takeWhile fun char => !isspace char).length ≤
      (skipSpaces text).length := (List.takeWhile_prefix _).length_le
  rw [List.take_of_length_le (begun.trans (skipped.trans short))] at cut
  constructor
  · intro whole
    rw [cut] at whole
    have unskipped : skipSpaces text = text := suffix.eq_of_length (by omega)
    have every : (text.takeWhile fun char => !isspace char) = text := by
      rw [unskipped] at whole
      exact (List.takeWhile_prefix _).eq_of_length whole
    intro char member
    simpa using List.takeWhile_eq_self_iff.mp every char member
  · intro plain
    have every : (text.takeWhile fun char => !isspace char) = text :=
      List.takeWhile_eq_self_iff.mpr fun char member => by simp [plain char member]
    have unskipped : skipSpaces text = text := by
      cases text with
      | nil => rfl
      | cons char text => exact List.dropWhile_cons_of_neg (by simp [plain])
    rw [cut, unskipped, every]

theorem sscanf_word (scanned : scanWord text = some (word, rest)) :
    sscanf (.word :: format) text = .word word :: sscanf format rest := by
  simp only [sscanf, scanned]

/-- Numbers are stored into variables of their own. -/
theorem sscanf_fits (numbers : .word ∉ format) :
    ∀ value ∈ sscanf format text, value.fits size = true := by
  induction format generalizing text with
  | nil => nofun
  | cons directive format ih =>
      obtain ⟨differs, others⟩ := not_or.mp (mt List.mem_cons.mpr numbers)
      intro value member
      cases directive with
      | space => exact ih others value member
      | word => exact absurd rfl differs
      | int =>
          unfold sscanf at member
          cases scanned : scanInt text with
          | none => simp [scanned] at member
          | some result =>
              simp only [scanned] at member
              rcases List.mem_cons.mp member with rfl | member
              · rfl
              · exact ih others value member
      | hex =>
          unfold sscanf at member
          cases scanned : scanHex text with
          | none => simp [scanned] at member
          | some result =>
              simp only [scanned] at member
              rcases List.mem_cons.mp member with rfl | member
              · rfl
              · exact ih others value member

/-! ## Hexadecimal numerals -/

theorem scanDigits_hexValue (hexadecimal : ∀ char ∈ digits, (digitIn 16 char).isSome = true)
    (stops : Stops 16 rest) :
    scanDigits 16 (digits ++ rest) value = (hexValue value digits, rest) := by
  induction digits generalizing value with
  | nil => exact scanDigits_stops stops
  | cons char digits ih =>
      obtain ⟨here, others⟩ := List.forall_mem_cons.mp hexadecimal
      obtain ⟨digit, read⟩ := Option.isSome_iff_exists.mp here
      rw [List.cons_append, scanDigits, read]
      dsimp only
      rw [ih others, hexValue, hexValue, List.foldl_cons, read]
      rfl

theorem hexValue_append {more : List Char} :
    hexValue value (digits ++ more) = hexValue (hexValue value digits) more :=
  List.foldl_append

theorem le_hexValue : value ≤ hexValue value digits := by
  induction digits generalizing value with
  | nil => exact le_rfl
  | cons char digits ih =>
      calc value ≤ value * 16 + (digitIn 16 char).getD 0 := by omega
        _ ≤ hexValue value (char :: digits) := ih

/-- Each digit left out at the end divides the number by 16. -/
theorem hexValue_take (shorter : size < digits.length) :
    hexValue 0 (digits.take size) * 16 ≤ hexValue 0 digits := by
  cases left : digits.drop size with
  | nil => exact absurd shorter (Nat.not_lt.mpr (List.drop_eq_nil_iff.mp left))
  | cons char more =>
      calc hexValue 0 (digits.take size) * 16
          ≤ hexValue 0 (digits.take size) * 16 + (digitIn 16 char).getD 0 := Nat.le_add_right ..
        _ ≤ hexValue (hexValue 0 (digits.take size)) (char :: more) := le_hexValue
        _ = hexValue 0 digits := by rw [← left, ← hexValue_append, List.take_append_drop]

theorem isspace_not_digit {char : Char} (space : isspace char = true) : digitIn 16 char = none := by
  have code : char.toNat = 32 ∨ (9 ≤ char.toNat ∧ char.toNat ≤ 13) ∨ char.toNat = 160 := by
    simpa [isspace, isSpace, or_assoc] using space
  unfold digitIn
  dsimp only
  split_ifs
  all_goals first | omega | rfl

theorem digit_not_space {char : Char} (digit : (digitIn 16 char).isSome = true) :
    isspace char = false := by
  by_contra space
  rw [isspace_not_digit (by simpa using space)] at digit
  cases digit

variable {numeral : HexText} {tail : List Char}

theorem fixupRadix_digits (nonempty : digits ≠ [])
    (hexadecimal : ∀ char ∈ digits, (digitIn 16 char).isSome = true)
    (ends : ∀ char ∈ tail.head?, isspace char = true) :
    fixupRadix (digits ++ tail) = digits ++ tail := by
  have small : ¬ (digitIn 16 'x').isSome = true ∧ isspace 'x' = false := by decide
  have large : ¬ (digitIn 16 'X').isSome = true ∧ isspace 'X' = false := by decide
  have other : ∀ char, (digitIn 16 char).isSome = true ∨ isspace char = true →
      ¬ (char = 'x' ∨ char = 'X') := by
    rintro char read (rfl | rfl)
    · exact read.elim small.1 (by simp [small.2])
    · exact read.elim large.1 (by simp [large.2])
  match digits with
  | [] => exact absurd rfl nonempty
  | [first] =>
      match tail with
      | [] => rfl
      | second :: tail => exact if_neg fun radix => other second (.inr (ends second rfl)) radix.2
  | first :: second :: digits =>
      have digit := hexadecimal second (by simp)
      exact if_neg fun radix => other second (.inl digit) radix.2

theorem fixupRadix_text (ends : ∀ char ∈ tail.head?, isspace char = true) :
    fixupRadix (numeral.text ++ tail) = numeral.digits ++ tail := by
  unfold HexText.text
  rcases numeral.optional with plain | small | large
  · rw [plain, List.nil_append]
    exact fixupRadix_digits numeral.nonempty numeral.hexadecimal ends
  · simp [small, fixupRadix]
  · simp [large, fixupRadix]

theorem HexText.head (numeral : HexText) :
    ∃ char rest, numeral.text = char :: rest ∧ (digitIn 16 char).isSome = true := by
  unfold HexText.text
  rcases numeral.optional with plain | small | large
  · obtain ⟨char, rest, shape⟩ := List.exists_cons_of_ne_nil numeral.nonempty
    refine ⟨char, rest, by rw [plain, shape, List.nil_append], numeral.hexadecimal char ?_⟩
    rw [shape]
    exact List.mem_cons_self
  · exact ⟨'0', _, by rw [small]; rfl, by decide⟩
  · exact ⟨'0', _, by rw [large]; rfl, by decide⟩

theorem skipSpaces_text : skipSpaces (numeral.text ++ tail) = numeral.text ++ tail := by
  obtain ⟨char, rest, shape, digit⟩ := numeral.head
  rw [shape, List.cons_append, skipSpaces]
  exact List.dropWhile_cons_of_neg (by simp [digit_not_space digit])

theorem scanHex_text (ends : ∀ char ∈ tail.head?, isspace char = true) :
    scanHex (numeral.text ++ tail) = some ((BitVec.ofNat 64 numeral.value).setWidth 32, tail) := by
  obtain ⟨char, rest, shape, digit⟩ := numeral.head
  have first : ((numeral.text ++ tail).head?.bind (digitIn 16)).isSome = true := by
    rw [shape]
    exact digit
  have stops : Stops 16 tail := by
    intro next rest shape
    exact isspace_not_digit (ends next (by rw [shape]; rfl))
  unfold scanHex
  dsimp only
  rw [skipSpaces_text, if_pos first, fixupRadix_text ends,
    scanDigits_hexValue numeral.hexadecimal stops]
  rfl

theorem HexText.radix_length (numeral : HexText) : numeral.radix.length ≤ 2 := by
  rcases numeral.optional with same | same | same
  all_goals simp [same]

/-- The start of a numeral with at least one of its digits. -/
def HexText.clip (numeral : HexText) (size : Nat) (room : 2 < size) : HexText where
  radix := numeral.radix
  digits := numeral.digits.take (size - numeral.radix.length)
  optional := numeral.optional
  nonempty := by
    have short := numeral.radix_length
    intro none
    rcases List.take_eq_nil_iff.mp none with zero | empty
    · omega
    · exact numeral.nonempty empty
  hexadecimal := fun char member => numeral.hexadecimal char (List.mem_of_mem_take member)

theorem HexText.clip_text {room : 2 < size} : (numeral.clip size room).text = numeral.text.take size := by
  have short := numeral.radix_length
  have whole : numeral.radix.take size = numeral.radix := List.take_of_length_le (by omega)
  unfold HexText.text
  rw [List.take_append, whole]
  rfl

theorem HexText.clip_long {room : 2 < size} (long : size < numeral.text.length) :
    (numeral.clip size room).value * 16 ≤ numeral.value := by
  have short := numeral.radix_length
  refine hexValue_take ?_
  rw [HexText.text, List.length_append] at long
  omega

theorem HexText.clip_short {room : 2 < size} (fits : numeral.text.length ≤ size) :
    (numeral.clip size room).value = numeral.value := by
  have all : numeral.digits.take (size - numeral.radix.length) = numeral.digits := by
    refine List.take_of_length_le ?_
    rw [HexText.text, List.length_append] at fits
    omega
  exact congrArg (hexValue 0) all

end Vi53xx.Foundation.KernelScan
