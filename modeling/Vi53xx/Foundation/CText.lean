import Mathlib.Data.List.Basic
import Mathlib.Data.BitVec

/-! Text as the C library prints, reads and cuts it. A character is a byte of
the text; strings in memory end at the first NUL of the buffer that holds them. -/

set_option autoImplicit false

namespace Vi53xx.Foundation.CText

def nul : Char := Char.ofNat 0

/-- `isspace` in the C locale. -/
def isSpace (char : Char) : Bool :=
  char.toNat == 32 || (9 ≤ char.toNat && char.toNat ≤ 13)

/-! ## Printing -/

/-- Conversion `%d`. -/
def decimal (value : Int) : List Char :=
  if value < 0 then '-' :: Nat.toDigits 10 value.natAbs else Nat.toDigits 10 value.natAbs

/-- Conversion `%x`. -/
def hexadecimal {width : Nat} (value : BitVec width) : List Char :=
  Nat.toDigits 16 value.toNat

/-- Conversion `%-<width>s`. -/
def padRight (width : Nat) (text : List Char) : List Char :=
  text ++ List.replicate (width - text.length) ' '

/-- The flag `0` of a conversion of the given width. -/
def padZeros (width : Nat) (text : List Char) : List Char :=
  List.replicate (width - text.length) '0' ++ text

/-! ## Scanning -/

/-- The value of a digit of the base, letters of either case included. -/
def digitIn (base : Nat) (char : Char) : Option Nat :=
  let code := char.toNat
  let value :=
    if 48 ≤ code ∧ code ≤ 57 then some (code - 48)
    else if 97 ≤ code ∧ code ≤ 102 then some (code - 87)
    else if 65 ≤ code ∧ code ≤ 70 then some (code - 55)
    else none
  value.filter (· < base)

def scanDigits (base : Nat) : List Char → Nat → Nat × List Char
  | [], value => (value, [])
  | char :: rest, value =>
      match digitIn base char with
      | some digit => scanDigits base rest (value * base + digit)
      | none => (value, char :: rest)

/-- A numeral needs at least one digit. -/
def scanNumeral (base : Nat) : List Char → Option (Nat × List Char)
  | [] => none
  | char :: rest =>
      if (digitIn base char).isSome then some (scanDigits base (char :: rest) 0) else none

/-- The optional sign of a numeral; `true` stands for a minus. -/
def scanSign : List Char → Bool × List Char
  | [] => (false, [])
  | char :: rest =>
      if char = '-' then (true, rest)
      else if char = '+' then (false, rest)
      else (false, char :: rest)

/-- A hexadecimal numeral with its optional `0x`. -/
def scanHexNumeral : List Char → Option (Nat × List Char)
  | first :: second :: rest =>
      if first = '0' ∧ (second = 'x' ∨ second = 'X') then scanNumeral 16 rest
      else scanNumeral 16 (first :: second :: rest)
  | text => scanNumeral 16 text

/-- The result of `strtoul`, which saturates. -/
def unsignedLong (negative : Bool) (magnitude : Nat) : BitVec 64 :=
  if 2 ^ 64 ≤ magnitude then BitVec.allOnes 64
  else if negative then -BitVec.ofNat 64 magnitude
  else BitVec.ofNat 64 magnitude

/-- The result of `strtol`, which saturates. -/
def signedLong (negative : Bool) (magnitude : Nat) : Int :=
  if negative then max (-2 ^ 63) (-magnitude) else min (2 ^ 63 - 1) magnitude

/-- Conversion `%x` into an `unsigned int`, with the text that follows. -/
def scanHex (text : List Char) : Option (BitVec 32 × List Char) :=
  let (negative, unsigned) := scanSign (text.dropWhile isSpace)
  (scanHexNumeral unsigned).map fun (magnitude, rest) =>
    ((unsignedLong negative magnitude).setWidth 32, rest)

/-- Conversion `%d` into an `int` or `unsigned int`, with the text that follows. -/
def scanDecimal (text : List Char) : Option (BitVec 32 × List Char) :=
  let (negative, unsigned) := scanSign (text.dropWhile isSpace)
  (scanNumeral 10 unsigned).map fun (magnitude, rest) =>
    (BitVec.ofInt 32 (signedLong negative magnitude), rest)

/-- A character of the format that is no conversion and no white space. -/
def scanLiteral (char : Char) : List Char → Option (List Char)
  | [] => none
  | first :: rest => if first = char then some rest else none

/-! ## Strings in buffers -/

/-- The string that starts a piece of memory, if a NUL ends it there. -/
def cstring : List Char → Option (List Char)
  | [] => none
  | char :: rest => if char = nul then some [] else (cstring rest).map (char :: ·)

/-- The buffer after a string and its NUL have been written to its start. -/
def putString (buffer text : List Char) : List Char :=
  text ++ nul :: buffer.drop (text.length + 1)

/-- `strtok` on the start of the buffer: the offset of the first token, if there
is one, and the buffer with the token terminated. -/
def strtok (separators buffer : List Char) : Option Nat × List Char :=
  let skipped := (buffer.takeWhile separators.contains).length
  let token := (buffer.drop skipped).takeWhile fun char =>
    char != nul && !separators.contains char
  if token = [] then (none, buffer)
  else (some skipped, buffer.set (skipped + token.length) nul)

/-! ## Reading lines -/

/-- At most `room` characters of a line, its newline included, and what follows. -/
def splitLine : Nat → List Char → List Char × List Char
  | 0, rest => ([], rest)
  | _ + 1, [] => ([], [])
  | room + 1, char :: rest =>
      if char = '\n' then ([char], rest)
      else
        let (line, remaining) := splitLine room rest
        (char :: line, remaining)

/-- `fgets` into a buffer of `size` bytes: what it reads and what is left of the
file, or nothing at the end of the file. -/
def fgets (size : Nat) (file : List Char) : Option (List Char × List Char) :=
  if file = [] then none else some (splitLine (size - 1) file)

def fgetsLoop (size : Nat) : Nat → List Char → List (List Char)
  | 0, _ => []
  | fuel + 1, file =>
      match fgets size file with
      | none => []
      | some (line, rest) => line :: fgetsLoop size fuel rest

/-- The strings that successive calls of `fgets` deliver until the file ends. -/
def fgetsAll (size : Nat) (file : List Char) : List (List Char) :=
  fgetsLoop size file.length file

end Vi53xx.Foundation.CText
