import Vi53xx.Driver.Proc
import Vi53xx.Lib.BoardsProperties
import Vi53xx.Foundation.CTextProperties

/-! The mapping file between driver and library: the driver prints the instance
number of a board in decimal and the library scans it in hexadecimal. -/

set_option autoImplicit false

namespace Vi53xx.System

open Foundation Foundation.CText

/-- The record that the driver's data about a board amounts to. -/
def published (board : Driver.XdmaCdev) : Lib.DeviceInfo where
  boardInst := Driver.MINOR board.cdevno
  boardId := board.info.boardId
  boardType := board.info.boardType
  boardName := board.info.deviceName

/-- The name is a C string of at most ten characters without white space, and the
instance number is below 128. -/
structure Printable (board : Driver.XdmaCdev) : Prop where
  word : ∀ char ∈ board.info.deviceName, char ≠ nul ∧ isSpace char = false
  short : board.info.deviceName.length ≤ 10
  minor : (Driver.MINOR board.cdevno).toNat < 128

/-- The part of a line that starts in column 11. -/
def numberField (board : Driver.XdmaCdev) : List Char :=
  decimal (Driver.MINOR board.cdevno).toInt ++
    ':' :: (decimal board.info.boardId.toInt ++
      ':' :: '0' :: 'x' :: hexadecimal board.info.boardType)

/-- What the library makes of a line: the instance number is read in base 16, and
without a name the number field is taken for it. -/
def received (board : Driver.XdmaCdev) : Lib.DeviceInfo where
  boardInst := BitVec.ofNat 32 (reread 10 16 (Driver.MINOR board.cdevno).toNat)
  boardId := board.info.boardId
  boardType := board.info.boardType
  boardName := if board.info.deviceName = [] then numberField board else board.info.deviceName

variable {board : Driver.XdmaCdev} {boards : List Driver.XdmaCdev}

/-! ## The shape of a line -/

theorem Printable.decimal_minor (printable : Printable board) :
    decimal (Driver.MINOR board.cdevno).toInt =
      Nat.toDigits 10 (Driver.MINOR board.cdevno).toNat := by
  have small := printable.minor
  have signless : (Driver.MINOR board.cdevno).toInt = (Driver.MINOR board.cdevno).toNat := by
    rw [BitVec.toInt_eq_toNat_of_lt]
    omega
  rw [decimal, signless, if_neg (by omega), Int.natAbs_natCast]

theorem mappingLine_eq :
    Driver.mappingLine board =
      padRight 10 board.info.deviceName ++ ' ' :: (numberField board ++ ['\n']) := by
  simp [Driver.mappingLine, numberField]

theorem numberField_not_mem {char : Char} (printable : Printable board)
    (digit : ∀ digit < 16, digit.digitChar ≠ char) (minus : char ≠ '-') (colon : char ≠ ':')
    (x : char ≠ 'x') : char ∉ numberField board := by
  have minor := (toDigits_digits (by decide : 1 < 10)
    (Driver.MINOR board.cdevno).toNat).not_mem (by decide) digit
  have id := (toDigits_digits (by decide : 1 < 10)
    board.info.boardId.toInt.natAbs).not_mem (by decide) digit
  have type := (toDigits_digits (by decide : 1 < 16)
    board.info.boardType.toNat).not_mem le_rfl digit
  have zero : char ≠ '0' := (digit 0 (by decide)).symm
  have signed : char ∉ decimal board.info.boardId.toInt := by
    unfold decimal
    split
    · simp [minus, id]
    · exact id
  rw [numberField, printable.decimal_minor, hexadecimal]
  simp [minor, signed, type, colon, zero, x]

theorem numberField_ne : numberField board ≠ [] := by
  simp [numberField]

theorem numberField_length (printable : Printable board) : (numberField board).length ≤ 26 := by
  have minor : (Nat.toDigits 10 (Driver.MINOR board.cdevno).toNat).length ≤ 3 :=
    (Nat.length_toDigits_le_iff (by decide) (by decide)).mpr (Nat.lt_of_lt_of_le printable.minor (by decide))
  have bounded : board.info.boardId.toInt.natAbs < 10 ^ 10 := by
    have low := BitVec.le_toInt board.info.boardId
    have high := BitVec.toInt_lt (x := board.info.boardId)
    omega
  have id : (decimal board.info.boardId.toInt).length ≤ 11 := by
    have digits : (Nat.toDigits 10 board.info.boardId.toInt.natAbs).length ≤ 10 :=
      (Nat.length_toDigits_le_iff (by decide) (by decide)).mpr bounded
    unfold decimal
    split
    · exact Nat.succ_le_succ digits
    · omega
  have type : (hexadecimal board.info.boardType).length ≤ 8 :=
    (Nat.length_toDigits_le_iff (by decide) (by decide)).mpr board.info.boardType.isLt
  rw [numberField, printable.decimal_minor]
  simp only [List.length_append, List.length_cons]
  omega

/-- Name or number field, the first word fits a record. -/
theorem received_name_fits (printable : Printable board) :
    (received board).boardName.length < Lib.boardNameSize := by
  have field := numberField_length printable
  have short := printable.short
  unfold received Lib.boardNameSize
  dsimp only
  split <;> omega

/-! ## Scanning a line -/

theorem reread_lt {value : Nat} (small : value < 128) : reread 10 16 value < 2 ^ 32 := by
  have bounded : ∀ value < 128, reread 10 16 value < 2 ^ 32 := by decide
  exact bounded value small

theorem scanMapping_numberField {rest : List Char} (printable : Printable board)
    (stops : Stops 16 rest) :
    Lib.scanMapping (numberField board ++ rest) =
      some ((received board).boardInst, board.info.boardId, board.info.boardType) := by
  have colon {base : Nat} {tail : List Char} (small : base = 10 ∨ base = 16) :
      Stops base (':' :: tail) := by
    intro char others split
    cases split
    rcases small with rfl | rfl <;> rfl
  have inst {tail : List Char} : scanHex (decimal (Driver.MINOR board.cdevno).toInt ++ ':' :: tail) =
      some ((received board).boardInst, ':' :: tail) := by
    rw [printable.decimal_minor]
    refine scanHex_toDigits (by decide) (by decide) (colon (.inr rfl)) ?_ ?_
    · intro char others split
      cases split
      decide
    · exact Nat.lt_of_lt_of_le (reread_lt printable.minor) (by omega)
  have id {tail : List Char} : scanDecimal (decimal board.info.boardId.toInt ++ ':' :: tail) =
      some (board.info.boardId, ':' :: tail) := by
    have low := BitVec.le_toInt board.info.boardId
    have high := BitVec.toInt_lt (x := board.info.boardId)
    rw [scanDecimal_decimal _ (colon (.inl rfl)) (by omega) (by omega), BitVec.ofInt_toInt]
  have type := scanHex_hexadecimal board.info.boardType le_rfl stops
  rw [BitVec.setWidth_eq] at type
  simp only [Lib.scanMapping, numberField, List.append_assoc, List.cons_append, inst, id, type,
    scanLiteral_cons, Option.bind_eq_bind, Option.bind_some, Option.pure_def]

theorem Printable.plain (printable : Printable board) :
    ∀ char ∈ board.info.deviceName, char ≠ nul ∧ char ∉ Lib.separators := by
  intro char member
  obtain ⟨ended, space⟩ := printable.word char member
  refine ⟨ended, ?_⟩
  intro separator
  simp only [Lib.separators, List.mem_cons, List.not_mem_nil, or_false] at separator
  rcases separator with rfl | rfl | rfl <;> exact absurd space (by decide)

theorem numberField_plain (printable : Printable board) :
    ∀ char ∈ numberField board, char ≠ nul ∧ char ∉ Lib.separators := by
  have ended : nul ∉ numberField board :=
    numberField_not_mem printable (by decide) (by decide) (by decide) (by decide)
  have space : ' ' ∉ numberField board :=
    numberField_not_mem printable (by decide) (by decide) (by decide) (by decide)
  have tab : '\t' ∉ numberField board :=
    numberField_not_mem printable (by decide) (by decide) (by decide) (by decide)
  have newline : '\n' ∉ numberField board :=
    numberField_not_mem printable (by decide) (by decide) (by decide) (by decide)
  intro char member
  refine ⟨ne_of_mem_of_not_mem member ended, ?_⟩
  simp only [Lib.separators, List.mem_cons, List.not_mem_nil, or_false, not_or]
  exact ⟨ne_of_mem_of_not_mem member space, ne_of_mem_of_not_mem member tab,
    ne_of_mem_of_not_mem member newline⟩

theorem extractLine_unnamed {rest : List Char} (printable : Printable board)
    (unnamed : board.info.deviceName = []) :
    Lib.extractLine (Driver.mappingLine board ++ nul :: rest) =
      .ok ((strtok Lib.separators (Driver.mappingLine board ++ nul :: rest)).2,
        some (received board)) := by
  have shape : Driver.mappingLine board ++ nul :: rest =
      List.replicate 11 ' ' ++ (numberField board ++ '\n' :: nul :: rest) := by
    simp [mappingLine_eq, padRight, unnamed, List.replicate]
  have cut : strtok Lib.separators (Driver.mappingLine board ++ nul :: rest) =
      (some 11, List.replicate 11 ' ' ++ (numberField board ++ nul :: nul :: rest)) := by
    rw [shape, strtok_word (by simp [Lib.separators]) numberField_ne (numberField_plain printable)
      (by simp [Lib.separators])]
    rfl
  have ended : nul ∉ numberField board := fun member => (numberField_plain printable _ member).1 rfl
  have dropped : (List.replicate 11 ' ' ++ (numberField board ++ nul :: nul :: rest)).drop 11 =
      numberField board ++ nul :: nul :: rest := List.drop_left' (List.length_replicate)
  have last : Stops 16 [] := by
    intro char others split
    cases split
  have scanned := scanMapping_numberField printable last
  rw [List.append_nil] at scanned
  have fits := received_name_fits printable
  simp only [received, unnamed, if_true] at fits
  simp only [Lib.extractLine, cut, dropped, cstring_append ended, scanned, if_pos fits]
  simp [received, unnamed]

theorem replicate_append_cons {count : Nat} {char : Char} {rest : List Char} :
    List.replicate count char ++ char :: rest = char :: (List.replicate count char ++ rest) := by
  induction count with
  | zero => rfl
  | succ count ih => rw [List.replicate_succ, List.cons_append, ih, List.cons_append]

/-- A line with a name: what follows column 11 is the number field and its newline. -/
theorem extractLine_named {rest : List Char} (printable : Printable board)
    (named : board.info.deviceName ≠ []) :
    Lib.extractLine (Driver.mappingLine board ++ nul :: rest) =
      .ok ((strtok Lib.separators (Driver.mappingLine board ++ nul :: rest)).2,
        some (received board)) := by
  have short := printable.short
  have shape : Driver.mappingLine board ++ nul :: rest =
      [] ++ (board.info.deviceName ++ ' ' :: (List.replicate (10 - board.info.deviceName.length) ' ' ++
        (numberField board ++ '\n' :: nul :: rest))) := by
    simp [mappingLine_eq, padRight, replicate_append_cons]
  have cut : strtok Lib.separators (Driver.mappingLine board ++ nul :: rest) =
      (some 0, board.info.deviceName ++ nul :: (List.replicate (10 - board.info.deviceName.length) ' ' ++
        (numberField board ++ '\n' :: nul :: rest))) := by
    rw [shape, strtok_word (by simp) named printable.plain (by simp [Lib.separators])]
    rfl
  have dropped : (board.info.deviceName ++ nul ::
      (List.replicate (10 - board.info.deviceName.length) ' ' ++
        (numberField board ++ '\n' :: nul :: rest))).drop 11 =
      (numberField board ++ ['\n']) ++ nul :: rest := by
    rw [← List.cons_append, ← List.append_assoc, List.drop_left' (by simp; omega)]
    simp
  have ended : nul ∉ numberField board ++ ['\n'] := by
    have inside : nul ∉ numberField board := fun member => (numberField_plain printable _ member).1 rfl
    have newline : nul ≠ '\n' := by decide
    simp [inside, newline]
  have name_ended : nul ∉ board.info.deviceName := fun member => (printable.plain _ member).1 rfl
  have newline : Stops 16 ['\n'] := by
    intro char others split
    cases split
    rfl
  have scanned := scanMapping_numberField printable newline
  have fits := received_name_fits printable
  simp only [received, if_neg named] at fits
  simp only [Lib.extractLine, cut, dropped, cstring_append ended, scanned, List.drop_zero,
    cstring_append name_ended, if_pos fits]
  simp [received, named]

theorem extractLine_mappingLine {rest : List Char} (printable : Printable board) :
    Lib.extractLine (Driver.mappingLine board ++ nul :: rest) =
      .ok ((strtok Lib.separators (Driver.mappingLine board ++ nul :: rest)).2,
        some (received board)) := by
  by_cases unnamed : board.info.deviceName = []
  · exact extractLine_unnamed printable unnamed
  · exact extractLine_named printable unnamed

/-! ## The whole file -/

theorem mappingLine_text (printable : Printable board) :
    '\n' ∉ padRight 10 board.info.deviceName ++ ' ' :: numberField board ∧
      (padRight 10 board.info.deviceName ++ ' ' :: numberField board).length + 2 < 256 := by
  constructor
  · have name : '\n' ∉ board.info.deviceName := by
      intro member
      exact (printable.plain _ member).2 (by simp [Lib.separators])
    have field : '\n' ∉ numberField board := by
      intro member
      exact (numberField_plain printable _ member).2 (by simp [Lib.separators])
    simp [padRight, name, field]
  · have field := numberField_length printable
    have short := printable.short
    simp only [padRight, List.length_append, List.length_replicate, List.length_cons]
    omega

theorem extractLines_mappingLines {buffer : List Char} {info : List Lib.DeviceInfo}
    (printable : ∀ board ∈ boards, Printable board)
    (room : info.length + boards.length ≤ Lib.boardNum) :
    Lib.extractLines buffer (boards.map Driver.mappingLine) info =
      .ok (info ++ boards.map received) := by
  induction boards generalizing buffer info with
  | nil => simp [Lib.extractLines]
  | cons board boards ih =>
      rw [List.length_cons] at room
      have free : info.length < Lib.boardNum := by omega
      simp only [List.map_cons, Lib.extractLines, putString,
        extractLine_mappingLine (printable board List.mem_cons_self), if_pos free]
      rw [ih (fun other member => printable other (List.mem_cons_of_mem board member))
        (by simp; omega)]
      simp

theorem extractValue_mappingShow {buffer : List Char}
    (printable : ∀ board ∈ boards, Printable board) (few : boards.length ≤ Lib.boardNum) :
    Lib.extractValue buffer (some (Driver.mappingShow boards)) =
      .ok (boards.length, boards.map received) := by
  let text := fun board : Driver.XdmaCdev =>
    padRight 10 board.info.deviceName ++ ' ' :: numberField board
  have shaped : ∀ line ∈ boards.map text, '\n' ∉ line ∧ line.length + 1 < 256 := by
    intro line member
    obtain ⟨board, listed, rfl⟩ := List.mem_map.mp member
    obtain ⟨plain, fits⟩ := mappingLine_text (printable board listed)
    exact ⟨plain, Nat.lt_of_succ_lt fits⟩
  have ends : Driver.mappingLine = fun board => text board ++ ['\n'] := by
    funext board
    simp [text, mappingLine_eq]
  have read : fgetsAll 256 (Driver.mappingShow boards) = boards.map Driver.mappingLine := by
    have lines := fgetsAll_lines shaped
    rw [List.flatMap_map, List.map_map] at lines
    rw [Driver.mappingShow, ends]
    exact lines
  have room : ([] : List Lib.DeviceInfo).length + boards.length ≤ Lib.boardNum := by simpa using few
  simp only [Lib.extractValue, read, extractLines_mappingLines printable room]
  simp

/-- The parser gives back what was printed. -/
def RoundTrip (buffer : List Char) (boards : List Driver.XdmaCdev) : Prop :=
  Lib.extractValue buffer (some (Driver.mappingShow boards)) =
    .ok (boards.length, boards.map published)

theorem received_eq_published_iff (printable : Printable board) :
    received board = published board ↔
      board.info.deviceName ≠ [] ∧ (Driver.MINOR board.cdevno).toNat < 10 := by
  have bounded := reread_lt printable.minor
  have inst : BitVec.ofNat 32 (reread 10 16 (Driver.MINOR board.cdevno).toNat) =
      Driver.MINOR board.cdevno ↔ (Driver.MINOR board.cdevno).toNat < 10 := by
    rw [← reread_eq_iff (by decide : 1 < 10) (by decide : 10 < 16) le_rfl, ← BitVec.toNat_inj,
      BitVec.toNat_ofNat, Nat.mod_eq_of_lt bounded]
  have name : (if board.info.deviceName = [] then numberField board else board.info.deviceName) =
      board.info.deviceName ↔ board.info.deviceName ≠ [] := by
    split
    · next unnamed => simp [unnamed, numberField_ne]
    · next named => simp [named]
  simp only [received, published, Lib.DeviceInfo.mk.injEq, inst, name, true_and]
  exact And.comm

/-- The mapping file survives the round trip exactly when the library's table has room
for the boards and every board has a name and an instance number of one digit. -/
theorem mapping_roundTrip_iff {buffer : List Char} (printable : ∀ board ∈ boards, Printable board) :
    RoundTrip buffer boards ↔ boards.length ≤ Lib.boardNum ∧
      ∀ board ∈ boards, board.info.deviceName ≠ [] ∧ (Driver.MINOR board.cdevno).toNat < 10 := by
  by_cases few : boards.length ≤ Lib.boardNum
  · rw [RoundTrip, extractValue_mappingShow printable few]
    simp only [Except.ok.injEq, Prod.mk.injEq, true_and, List.map_inj_left, few]
    constructor
    · intro same board member
      exact (received_eq_published_iff (printable board member)).mp (same board member)
    · intro fine board member
      exact (received_eq_published_iff (printable board member)).mpr (fine board member)
  · refine iff_of_false ?_ fun fine => few fine.1
    intro read
    have held := (Lib.extractValue_holds read).few
    rw [List.length_map] at held
    exact few held

/-- A board of type ES5341 with the given instance number. -/
def es5341Board (minor : BitVec 32) : Driver.XdmaCdev where
  cdevno := Driver.MKDEV 240 minor
  info := {
    boardId := 1
    mdlVersion := 0
    fpgaVersion := 0
    boardType := Driver.es5341Id
    serial := 0x9910001#32
    ledBlink := 0
    boardInst := minor
    deviceName := "es5341".toList
    createFlag := false }

theorem es5341Board_printable {minor : BitVec 32}
    (small : (Driver.MINOR (Driver.MKDEV 240 minor)).toNat < 128) :
    Printable (es5341Board minor) := by
  refine ⟨?_, (by decide : "es5341".toList.length ≤ 10), small⟩
  have plain : ("es5341".toList.all fun char => char != nul && !isSpace char) = true := by decide
  intro char member
  simpa using List.all_eq_true.mp plain char member

/-- The instance number 10 comes back as 16. -/
theorem instance_ten_misread :
    Printable (es5341Board 10) ∧ ¬ RoundTrip (List.replicate 256 nul) [es5341Board 10] := by
  have printable : Printable (es5341Board 10) := es5341Board_printable (by decide)
  refine ⟨printable, ?_⟩
  rw [RoundTrip, extractValue_mappingShow (by simpa using printable) (by decide)]
  decide

theorem mapping_roundTrip_iff_two :
    RoundTrip (List.replicate 256 nul) [es5341Board 9, es5341Board 0] ↔
      [es5341Board 9, es5341Board 0].length ≤ Lib.boardNum ∧ ∀ board ∈ [es5341Board 9, es5341Board 0],
        board.info.deviceName ≠ [] ∧ (Driver.MINOR board.cdevno).toNat < 10 := by
  apply mapping_roundTrip_iff
  intro board member
  rcases List.mem_cons.mp member with rfl | member
  · exact es5341Board_printable (by decide)
  · rw [List.mem_singleton.mp member]
    exact es5341Board_printable (by decide)

end Vi53xx.System
