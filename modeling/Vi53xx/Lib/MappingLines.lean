import Vi53xx.Lib.Boards
import Vi53xx.Foundation.CTextProperties

/-! The mapping file line by line. What a line shorter than 11 characters has at column
11, where the numbers are looked for, is what the buffer holds there from before. -/

set_option autoImplicit false

namespace Vi53xx.Lib

open Foundation Foundation.CText

variable {buffer text : List Char} {texts rest : List (List Char)} {column : Option (List Char)}
  {records : List DeviceInfo}

/-- The string at column 11, if it ends, once `fgets` and `strtok` have been at the text. -/
def columnAfter (column : Option (List Char)) (text : List Char) : Option (List Char) :=
  if text.length < 11 then column else cstring ((cutWord separators text).drop 11)

/-- Three numbers are found at the column. -/
def Numbered (column : Option (List Char)) : Prop := (column.bind scanMapping).isSome = true

instance (column : Option (List Char)) : Decidable (Numbered column) :=
  inferInstanceAs (Decidable (_ = true))

/-- What a line contributes. -/
def lineRecord (column : Option (List Char)) (text : List Char) :
    Except Fault (Option DeviceInfo) :=
  match column with
  | none => .error .unterminated
  | some numbers =>
      match scanMapping numbers with
      | none => .ok none
      | some (inst, id, type) =>
          match firstWord separators text with
          | none => .error .nullPointer
          | some name =>
              if name.length < boardNameSize then .ok (some ⟨inst, id, type, name⟩)
              else .error .outOfBounds

/-- What the lines contribute, however many records the table has room for. -/
def readLines : Option (List Char) → List (List Char) → Except Fault (List DeviceInfo)
  | _, [] => .ok []
  | column, text :: rest => do
      let record ← lineRecord (columnAfter column text) text
      let records ← readLines (columnAfter column text) rest
      return record.toList ++ records

/-- The lines, each with what is at column 11 when it is looked at. -/
def columns : Option (List Char) → List (List Char) → List (Option (List Char) × List Char)
  | _, [] => []
  | column, text :: rest =>
      (columnAfter column text, text) :: columns (columnAfter column text) rest

theorem readLines_cons_ok : readLines column (text :: rest) = .ok records ↔
    ∃ record others, lineRecord (columnAfter column text) text = .ok record ∧
      readLines (columnAfter column text) rest = .ok others ∧
      records = record.toList ++ others := by
  simp only [readLines, bind, Except.bind]
  cases first : lineRecord (columnAfter column text) text with
  | error fault => simp
  | ok record =>
      cases later : readLines (columnAfter column text) rest with
      | error fault => simp
      | ok others => simp [pure, Except.pure, eq_comm]

theorem nul_separators : nul ∉ separators := by decide

theorem cutWord_ends (long : 11 ≤ text.length) : nul ∈ (cutWord separators text).drop 11 := by
  refine List.mem_of_getElem? (i := text.length - 11) ?_
  rw [List.getElem?_drop, Nat.add_sub_cancel' long]
  exact cutWord_nul nul_separators

theorem cutWord_column :
    cstring ((cutWord separators text ++ buffer.drop (text.length + 1)).drop 11) =
      columnAfter (cstring (buffer.drop 11)) text := by
  have length := @cutWord_length separators text
  unfold columnAfter
  split
  · next short =>
      have behind : (cutWord separators text ++ buffer.drop (text.length + 1)).drop 11 =
          buffer.drop 11 := by
        have reached : text.length + 1 + (11 - (text.length + 1)) = 11 := by omega
        rw [List.drop_append, List.drop_eq_nil_of_le (by omega), List.drop_drop, length, reached,
          List.nil_append]
      rw [behind]
  · next long =>
      have split : (cutWord separators text ++ buffer.drop (text.length + 1)).drop 11 =
          (cutWord separators text).drop 11 ++ buffer.drop (text.length + 1) :=
        List.drop_append_of_le_length (by omega)
      obtain ⟨string, here, longer⟩ := cstring_of_nul (cutWord_ends (Nat.not_lt.mp long))
      rw [split, longer, here]

theorem extractLine_eq : extractLine (putString buffer text) =
    (lineRecord (columnAfter (cstring (buffer.drop 11)) text) text).map fun record =>
      (cutWord separators text ++ buffer.drop (text.length + 1), record) := by
  have cut : (strtok separators (putString buffer text)).2 =
      cutWord separators text ++ buffer.drop (text.length + 1) := strtok_tail nul_separators
  have word := @strtok_word_read separators text (buffer.drop (text.length + 1)) nul_separators
  have same : text ++ nul :: buffer.drop (text.length + 1) = putString buffer text := rfl
  rw [same] at word
  unfold extractLine
  generalize strtok separators (putString buffer text) = outcome at cut word
  obtain ⟨name, line⟩ := outcome
  dsimp only at cut word
  subst cut
  simp only [cutWord_column]
  cases columnAfter (cstring (buffer.drop 11)) text with
  | none => rfl
  | some numbers =>
      cases scanned : scanMapping numbers with
      | none => simp [lineRecord, scanned, Except.map]
      | some mapping =>
          obtain ⟨inst, id, type⟩ := mapping
          cases name with
          | none =>
              cases found : firstWord separators text with
              | none => simp [lineRecord, scanned, found, Except.map]
              | some name => simp [found] at word
          | some offset =>
              cases found : firstWord separators text with
              | none => simp [found] at word
              | some name =>
                  simp only [found, Option.map_some, Option.some.injEq] at word
                  simp only [lineRecord, scanned, found, word]
                  split <;> rfl

/-- The loop completes when the lines can be read and their records have room. -/
theorem extractLines_ok {stored all : List DeviceInfo} (room : stored.length ≤ boardNum) :
    extractLines buffer texts stored = .ok all ↔
      ∃ others, readLines (cstring (buffer.drop 11)) texts = .ok others ∧
        stored.length + others.length ≤ boardNum ∧ all = stored ++ others := by
  induction texts generalizing buffer stored with
  | nil => simp [extractLines, readLines, room, eq_comm]
  | cons text rest ih =>
      simp only [extractLines, extractLine_eq, readLines_cons_ok]
      cases lineRecord (columnAfter (cstring (buffer.drop 11)) text) text with
      | error fault => simp [Except.map]
      | ok record =>
          cases record with
          | none => simp [Except.map, ih room, cutWord_column]
          | some board =>
              simp only [Except.map, Except.ok.injEq]
              by_cases full : stored.length < boardNum
              · have further : (stored ++ [board]).length ≤ boardNum := by
                  rw [List.length_append, List.length_singleton]
                  omega
                simp only [if_pos full, ih further, cutWord_column, List.length_append,
                  List.length_singleton]
                constructor
                · rintro ⟨others, read, fits, rfl⟩
                  refine ⟨board :: others, ⟨some board, others, rfl, read, rfl⟩, ?_, by simp⟩
                  rw [List.length_cons]
                  omega
                · rintro ⟨_, ⟨_, others, rfl, read, rfl⟩, fits, rfl⟩
                  rw [Option.toList_some, List.singleton_append, List.length_cons] at fits
                  exact ⟨others, read, by omega, by simp⟩
              · simp only [if_neg full, reduceCtorEq, false_iff]
                rintro ⟨_, ⟨_, others, rfl, _, rfl⟩, fits, _⟩
                rw [Option.toList_some, List.singleton_append, List.length_cons] at fits
                omega

/-- The load of a file is that of its lines, with what the buffer holds at column 11,
if the table has room for their records. -/
theorem extractValue_readLines {content : List Char} {count : Int} :
    extractValue buffer (some content) = .ok (count, records) ↔
      readLines (cstring (buffer.drop 11)) (fgetsAll 256 content) = .ok records ∧
        records.length ≤ boardNum ∧ count = records.length := by
  have loop : ∀ all, extractLines buffer (fgetsAll 256 content) [] = .ok all ↔
      readLines (cstring (buffer.drop 11)) (fgetsAll 256 content) = .ok all ∧
        all.length ≤ boardNum := by
    intro all
    rw [extractLines_ok (Nat.zero_le _)]
    simp
  simp only [extractValue]
  cases ran : extractLines buffer (fgetsAll 256 content) [] with
  | error fault =>
      refine iff_of_false (by simp) ?_
      rintro ⟨read, fits, _⟩
      have completed := (loop records).mpr ⟨read, fits⟩
      rw [ran] at completed
      cases completed
  | ok info =>
      obtain ⟨read, fits⟩ := (loop info).mp ran
      simp only [read, Except.ok.injEq, Prod.mk.injEq]
      constructor
      · rintro ⟨rfl, rfl⟩
        exact ⟨rfl, fits, rfl⟩
      · rintro ⟨rfl, _, rfl⟩
        exact ⟨rfl, rfl⟩

end Vi53xx.Lib
