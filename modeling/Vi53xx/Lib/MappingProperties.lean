import Vi53xx.Lib.MappingLines

/-! What loading the mapping file stores, and when a line is parsed as if it stood
alone. Nothing is counted or measured while the records are stored, and nothing clears
the buffer between two lines. -/

set_option autoImplicit false

namespace Vi53xx.Lib

open Foundation Foundation.CText

variable {line text : List Char} {texts : List (List Char)} {column other : Option (List Char)}
  {records : List DeviceInfo}

/-! ## What a line contributes -/

/-- The line has a first word, and it fits a name. -/
def Named (text : List Char) : Prop :=
  ∃ name, firstWord separators text = some name ∧ name.length < boardNameSize

/-- The string at the column ends, and a line with numbers has a word that fits. -/
def LineReads (column : Option (List Char)) (text : List Char) : Prop :=
  column ≠ none ∧ (Numbered column → Named text)

theorem not_numbered_iff {numbers : List Char} :
    ¬ Numbered (some numbers) ↔ scanMapping numbers = none := by
  simp [Numbered]

/-- A line contributes a record of its first word when numbers are at its column. -/
theorem lineRecord_ok {record : Option DeviceInfo} (read : lineRecord column text = .ok record) :
    LineReads column text ∧ (record.map fun board => some board.boardName) =
      if Numbered column then some (firstWord separators text) else none := by
  unfold lineRecord at read
  cases column with
  | none => cases read
  | some numbers =>
      cases scanned : scanMapping numbers with
      | none =>
          simp only [scanned] at read
          cases read
          have plain : ¬ Numbered (some numbers) := not_numbered_iff.mpr scanned
          exact ⟨⟨nofun, fun numbered => absurd numbered plain⟩, by simp [plain]⟩
      | some mapping =>
          have numbered : Numbered (some numbers) := by simp [Numbered, scanned]
          obtain ⟨inst, id, type⟩ := mapping
          simp only [scanned] at read
          cases found : firstWord separators text with
          | none => simp [found] at read
          | some name =>
              simp only [found] at read
              split at read
              · next short =>
                  cases read
                  exact ⟨⟨nofun, fun _ => ⟨name, found, short⟩⟩, by simp [numbered]⟩
              · cases read

theorem LineReads.ok (reads : LineReads column text) :
    ∃ record, lineRecord column text = .ok record := by
  obtain ⟨ends, named⟩ := reads
  cases column with
  | none => exact absurd rfl ends
  | some numbers =>
      cases scanned : scanMapping numbers with
      | none => exact ⟨none, by simp [lineRecord, scanned]⟩
      | some mapping =>
          obtain ⟨inst, id, type⟩ := mapping
          obtain ⟨name, found, short⟩ := named (by simp [Numbered, scanned])
          exact ⟨some ⟨inst, id, type, name⟩, by simp [lineRecord, scanned, found, short]⟩

/-- The lines at whose column numbers are found. -/
def numberedLines (column : Option (List Char)) (texts : List (List Char)) : List (List Char) :=
  ((columns column texts).filter fun entry => Numbered entry.1).map Prod.snd

/-- The lines that are read, in order, and the names of the records they give. -/
theorem readLines_ok (read : readLines column texts = .ok records) :
    (∀ entry ∈ columns column texts, LineReads entry.1 entry.2) ∧
      (records.map fun board => some board.boardName) =
        (numberedLines column texts).map (firstWord separators) := by
  induction texts generalizing column records with
  | nil =>
      cases read
      exact ⟨nofun, rfl⟩
  | cons text rest ih =>
      obtain ⟨record, others, first, later, rfl⟩ := readLines_cons_ok.mp read
      obtain ⟨reads, name⟩ := lineRecord_ok first
      obtain ⟨all, names⟩ := ih later
      refine ⟨List.forall_mem_cons.mpr ⟨reads, all⟩, ?_⟩
      rw [List.map_append, names]
      by_cases numbered : Numbered (columnAfter column text)
      · rw [if_pos numbered] at name
        cases record with
        | none => cases name
        | some board =>
            have named := Option.some.inj name
            simp [numberedLines, columns, numbered, named]
      · rw [if_neg numbered] at name
        cases record with
        | some board => cases name
        | none => simp [numberedLines, columns, numbered]

theorem readLines_completes (all : ∀ entry ∈ columns column texts, LineReads entry.1 entry.2) :
    ∃ records, readLines column texts = .ok records := by
  induction texts generalizing column with
  | nil => exact ⟨[], rfl⟩
  | cons text rest ih =>
      obtain ⟨reads, others⟩ := List.forall_mem_cons.mp all
      obtain ⟨record, first⟩ := reads.ok
      obtain ⟨records, later⟩ := ih others
      exact ⟨_, readLines_cons_ok.mpr ⟨record, records, first, later, rfl⟩⟩

/-! ## The column -/

theorem columnAfter_long (long : 11 ≤ text.length) :
    columnAfter column text = columnAfter other text := by
  rw [columnAfter, columnAfter, if_neg (Nat.not_lt.mpr long), if_neg (Nat.not_lt.mpr long)]

theorem columnAfter_short (short : text.length < 11) : columnAfter column text = column :=
  if_pos short

theorem columnAfter_long_ends (long : 11 ≤ text.length) : columnAfter column text ≠ none := by
  obtain ⟨string, here, _⟩ := @cstring_of_nul _ [] (cutWord_ends long)
  rw [columnAfter, if_neg (Nat.not_lt.mpr long), here]
  nofun

/-- The column can be read at every line unless the first lines are short and the buffer
has no NUL from there on. -/
theorem columns_end_iff : (∀ entry ∈ columns column texts, entry.1 ≠ none) ↔
    ∀ text rest, texts = text :: rest → text.length < 11 → column ≠ none := by
  have kept : ∀ {column : Option (List Char)} {texts : List (List Char)}, column ≠ none →
      ∀ entry ∈ columns column texts, entry.1 ≠ none := by
    intro column texts ends
    induction texts generalizing column with
    | nil => exact nofun
    | cons text rest ih =>
        have next : columnAfter column text ≠ none := by
          by_cases short : text.length < 11
          · rw [columnAfter_short short]
            exact ends
          · exact columnAfter_long_ends (Nat.not_lt.mp short)
        exact List.forall_mem_cons.mpr ⟨next, ih next⟩
  constructor
  · rintro all text rest rfl short
    have first := all _ List.mem_cons_self
    rwa [columnAfter_short short] at first
  · intro start
    cases texts with
    | nil => exact nofun
    | cons text rest =>
        have next : columnAfter column text ≠ none := by
          by_cases short : text.length < 11
          · rw [columnAfter_short short]
            exact start text rest rfl short
          · exact columnAfter_long_ends (Nat.not_lt.mp short)
        exact List.forall_mem_cons.mpr ⟨next, kept next⟩

/-! ## What is stored -/

/-- The load completes, and all it writes is within the board table. -/
def StoresInside (buffer content : List Char) : Prop :=
  ∃ count records, extractValue buffer (some content) = .ok (count, records) ∧
    records.length ≤ boardNum ∧ ∀ board ∈ records, board.boardName.length + 1 ≤ boardNameSize

/-- The file has at most `BOARD_NUM` lines with numbers at column 11, its own or those
left there, and each has a first word that fits a name. -/
structure Loadable (column : Option (List Char)) (texts : List (List Char)) : Prop where
  ends : ∀ text rest, texts = text :: rest → text.length < 11 → column ≠ none
  few : (numberedLines column texts).length ≤ boardNum
  named : ∀ text ∈ numberedLines column texts, Named text

theorem mem_numberedLines :
    text ∈ numberedLines column texts ↔
      ∃ there, (there, text) ∈ columns column texts ∧ Numbered there := by
  simp [numberedLines]

theorem Loadable.reads (loadable : Loadable column texts) :
    ∀ entry ∈ columns column texts, LineReads entry.1 entry.2 := by
  intro entry member
  refine ⟨columns_end_iff.mpr loadable.ends entry member, ?_⟩
  intro numbered
  exact loadable.named entry.2 (mem_numberedLines.mpr ⟨_, member, numbered⟩)

theorem names_length (read : readLines column texts = .ok records) :
    records.length = (numberedLines column texts).length := by
  have names := congrArg List.length (readLines_ok read).2
  simpa using names

theorem loadable_of_ok (read : readLines column texts = .ok records)
    (few : records.length ≤ boardNum) : Loadable column texts := by
  obtain ⟨reads, _⟩ := readLines_ok read
  refine ⟨columns_end_iff.mp fun entry member => (reads entry member).1, ?_, ?_⟩
  · rw [← names_length read]
    exact few
  · intro text member
    obtain ⟨there, listed, numbered⟩ := mem_numberedLines.mp member
    exact (reads _ listed).2 numbered

theorem Loadable.names_fit (loadable : Loadable column texts)
    (read : readLines column texts = .ok records) :
    ∀ board ∈ records, board.boardName.length + 1 ≤ boardNameSize := by
  intro board stored
  have word : some board.boardName ∈ (numberedLines column texts).map (firstWord separators) := by
    rw [← (readLines_ok read).2]
    exact List.mem_map.mpr ⟨board, stored, rfl⟩
  obtain ⟨text, member, same⟩ := List.mem_map.mp word
  obtain ⟨name, found, fits⟩ := loadable.named text member
  rw [found] at same
  rw [← Option.some.inj same]
  exact fits

theorem StoresInside.loadable {buffer content : List Char} (stores : StoresInside buffer content) :
    Loadable (cstring (buffer.drop 11)) (fgetsAll 256 content) := by
  obtain ⟨count, records, loaded, few, _⟩ := stores
  obtain ⟨read, _, _⟩ := extractValue_readLines.mp loaded
  exact loadable_of_ok read few

theorem Loadable.stores {buffer content : List Char}
    (loadable : Loadable (cstring (buffer.drop 11)) (fgetsAll 256 content)) :
    StoresInside buffer content := by
  obtain ⟨records, read⟩ := readLines_completes loadable.reads
  have few : records.length ≤ boardNum := by
    rw [names_length read]
    exact loadable.few
  exact ⟨records.length, records, extractValue_readLines.mpr ⟨read, few, rfl⟩, few,
    loadable.names_fit read⟩

/-- The load stays within the board table exactly for files with few enough lines with
numbers, of which each has a first word of fewer than 32 characters. -/
theorem stores_inside_iff {buffer content : List Char} :
    StoresInside buffer content ↔
      Loadable (cstring (buffer.drop 11)) (fgetsAll 256 content) :=
  ⟨StoresInside.loadable, Loadable.stores⟩

def clearedBuffer : List Char := List.replicate 256 nul

def boardLine : List Char := "es5341     0:7:0xb100".toList

theorem columns_replicate {count : Nat} (long : 11 ≤ text.length) :
    columns column (List.replicate count text) =
      List.replicate count (columnAfter column text, text) := by
  induction count generalizing column with
  | zero => rfl
  | succ count ih =>
      rw [List.replicate_succ, columns, ih, List.replicate_succ,
        @columnAfter_long text (columnAfter column text) column long]

/-- A file may have 129 lines as the driver prints them. -/
theorem many_lines_overrun :
    ¬ StoresInside clearedBuffer
      ((List.replicate 129 boardLine).flatMap fun line => line ++ ['\n']) := by
  intro stores
  have shaped : ∀ line ∈ List.replicate 129 boardLine, '\n' ∉ line ∧ line.length + 1 < 256 := by
    intro line member
    rw [List.eq_of_mem_replicate member]
    decide +kernel
  have long : 11 ≤ (boardLine ++ ['\n']).length := by decide +kernel
  have numbered : Numbered (columnAfter none (boardLine ++ ['\n'])) := by decide +kernel
  have few := stores.loadable.few
  rw [fgetsAll_lines shaped, List.map_replicate, numberedLines, columns_replicate long,
    @columnAfter_long _ _ none long] at few
  have size : boardNum = 128 := rfl
  simp only [List.filter_replicate, numbered, decide_true, if_true, List.map_replicate,
    List.length_replicate] at few
  omega

/-! ## Lines on their own -/

def alone (text : List Char) : Except Fault (List DeviceInfo) :=
  (extractValue clearedBuffer (some text)).map Prod.snd

/-- The lines as `fgets` delivers them; the last one may lack its newline. -/
def fileLines (lines : List (List Char)) (last : List Char) : List (List Char) :=
  (lines.map fun line => line ++ ['\n']) ++ if last = [] then [] else [last]

def fileText (lines : List (List Char)) (last : List Char) : List Char :=
  (lines.flatMap fun line => line ++ ['\n']) ++ last

/-- A line of fewer than 255 characters. -/
def ShortLine (line : List Char) : Prop := '\n' ∉ line ∧ line.length < 255

theorem fgetsAll_fileText {lines : List (List Char)} {last : List Char}
    (shaped : ∀ line ∈ lines, ShortLine line) (ending : ShortLine last) :
    fgetsAll 256 (fileText lines last) = fileLines lines last := by
  have shaped : ∀ line ∈ lines, '\n' ∉ line ∧ line.length + 1 < 256 := by
    intro line member
    obtain ⟨plain, fits⟩ := shaped line member
    exact ⟨plain, by omega⟩
  rw [fileText, fgetsAll_lines_append shaped,
    fgetsAll_unfinished ending.1 (Nat.lt_succ_of_lt ending.2), fileLines]

/-- A line is read in a piece. -/
theorem fgetsAll_fileLine {lines : List (List Char)} {last : List Char}
    (shaped : ∀ line ∈ lines, ShortLine line) (ending : ShortLine last)
    (member : text ∈ fileLines lines last) : fgetsAll 256 text = [text] := by
  rcases List.mem_append.mp member with finished | unfinished
  · obtain ⟨line, listed, rfl⟩ := List.mem_map.mp finished
    have one : ∀ other ∈ [line], ShortLine other := by simpa using shaped line listed
    have read := @fgetsAll_fileText [line] [] one ⟨by simp, by simp⟩
    simpa [fileText, fileLines] using read
  · by_cases empty : last = []
    · simp [empty] at unfinished
    · have same : text = last := by simpa [empty] using unfinished
      rw [same, fgetsAll_unfinished ending.1 (Nat.lt_succ_of_lt ending.2), if_neg empty]

theorem clearedBuffer_column : cstring (clearedBuffer.drop 11) = some [] := rfl

/-- The only line of a file is read with nothing at column 11. -/
theorem alone_iff {part : List DeviceInfo} (single : fgetsAll 256 text = [text]) :
    alone text = .ok part ↔
      (lineRecord (columnAfter (some []) text) text).map Option.toList = .ok part := by
  have loaded : alone text = .ok part ↔
      ∃ count, extractValue clearedBuffer (some text) = .ok (count, part) := by
    unfold alone
    cases extractValue clearedBuffer (some text) with
    | error fault => simp [Except.map]
    | ok outcome =>
        obtain ⟨count, records⟩ := outcome
        simp [Except.map]
  have lines : readLines (some []) [text] =
      (lineRecord (columnAfter (some []) text) text).map Option.toList := by
    cases read : lineRecord (columnAfter (some []) text) text with
    | error fault => simp [readLines, read, bind, Except.bind, Except.map]
    | ok record => simp [readLines, read, bind, Except.bind, pure, Except.pure, Except.map]
  simp only [loaded, extractValue_readLines, single, clearedBuffer_column, lines]
  constructor
  · rintro ⟨_, read, _⟩
    exact read
  · intro read
    cases contributed : lineRecord (columnAfter (some []) text) text with
    | error fault => simp [contributed, Except.map] at read
    | ok record =>
        have one : part.length ≤ boardNum := by
          simp only [contributed, Except.map, Except.ok.injEq] at read
          rw [← read]
          cases record with
          | none => exact Nat.zero_le _
          | some board => simp [boardNum]
        rw [contributed] at read
        exact ⟨part.length, read, one, rfl⟩

theorem columnAfter_eleven (length : text.length = 11) : columnAfter column text = some [] := by
  have size := @cutWord_length separators text
  have one : ((cutWord separators text).drop 11).length = 1 := by
    rw [List.length_drop]
    omega
  obtain ⟨char, rest⟩ := List.length_eq_one_iff.mp one
  have ends : (cutWord separators text)[11]? = some nul := by
    rw [← length]
    exact cutWord_nul nul_separators
  have first := congrArg (fun memory => memory[0]?) rest
  simp only [List.getElem?_drop, Nat.add_zero, ends, List.getElem?_cons_zero,
    Option.some.injEq] at first
  rw [columnAfter, if_neg (by omega), rest, ← first]
  rfl

theorem alone_short (single : fgetsAll 256 text = [text]) (short : text.length ≤ 11) :
    alone text = .ok [] := by
  refine (alone_iff single).mpr ?_
  rcases Nat.lt_or_eq_of_le short with below | same
  · rw [columnAfter_short below]
    rfl
  · rw [columnAfter_eleven same]
    rfl

/-- Where each line is parsed as if alone: no short line finds numbers at column 11, or
no end of what is there, a line with numbers has a word before them that fits a name,
and the table has room for as many records as there are such lines. -/
structure Independent (column : Option (List Char)) (texts : List (List Char)) : Prop where
  unaffected : ∀ entry ∈ columns column texts, entry.2.length < 11 →
    ∃ left, entry.1 = some left ∧ scanMapping left = none
  named : ∀ text ∈ texts, 11 ≤ text.length → Numbered (columnAfter none text) → Named text
  few : (numberedLines column texts).length ≤ boardNum

/-- The records that the lines give one by one. -/
def Parts (texts : List (List Char)) (parts : List (List DeviceInfo)) : Prop :=
  List.Forall₂ (fun text part =>
    (lineRecord (columnAfter (some []) text) text).map Option.toList = .ok part) texts parts

theorem readLines_parts
    (unaffected : ∀ entry ∈ columns column texts, entry.2.length < 11 →
      ∃ left, entry.1 = some left ∧ scanMapping left = none)
    (named : ∀ text ∈ texts, 11 ≤ text.length → Numbered (columnAfter none text) → Named text) :
    ∃ parts, Parts texts parts ∧ readLines column texts = .ok parts.flatten := by
  induction texts generalizing column with
  | nil => exact ⟨[], .nil, rfl⟩
  | cons text rest ih =>
      obtain ⟨here, others⟩ := List.forall_mem_cons.mp unaffected
      obtain ⟨parts, solo, later⟩ := ih others fun other member =>
        named other (List.mem_cons_of_mem text member)
      have both : ∃ record, lineRecord (columnAfter column text) text = .ok record ∧
          lineRecord (columnAfter (some []) text) text = .ok record := by
        by_cases short : text.length < 11
        · obtain ⟨left, residue, none⟩ := here short
          dsimp only at residue
          refine ⟨.none, ?_, ?_⟩
          · simp [residue, lineRecord, none]
          · rw [columnAfter_short short]
            rfl
        · have long := Nat.not_lt.mp short
          have reads : LineReads (columnAfter column text) text := by
            refine ⟨columnAfter_long_ends long, ?_⟩
            rw [@columnAfter_long _ column none long]
            exact named text List.mem_cons_self long
          obtain ⟨record, read⟩ := reads.ok
          exact ⟨record, read, by rw [@columnAfter_long _ (some []) column long, read]⟩
      obtain ⟨record, first, single⟩ := both
      refine ⟨record.toList :: parts, .cons (by rw [single]; rfl) solo, ?_⟩
      exact readLines_cons_ok.mpr ⟨record, parts.flatten, first, later, rfl⟩

theorem unaffected_of_none (read : lineRecord column text = .ok none) :
    ∃ left, column = some left ∧ scanMapping left = none := by
  obtain ⟨⟨ends, _⟩, name⟩ := lineRecord_ok read
  obtain ⟨left, there⟩ := Option.ne_none_iff_exists'.mp ends
  refine ⟨left, there, ?_⟩
  by_contra numbers
  have numbered : Numbered column := by
    rw [there]
    exact not_not.mp fun none => numbers (not_numbered_iff.mp none)
  rw [if_pos numbered] at name
  cases name

/-- A short line can only add to the records, and does so if it finds numbers. -/
theorem Parts.length_le {parts : List (List DeviceInfo)} (solo : Parts texts parts)
    (read : readLines column texts = .ok records) :
    parts.flatten.length ≤ records.length ∧
      (records.length ≤ parts.flatten.length → ∀ entry ∈ columns column texts,
        entry.2.length < 11 → ∃ left, entry.1 = some left ∧ scanMapping left = none) := by
  induction solo generalizing column records with
  | nil =>
      cases read
      exact ⟨le_rfl, fun _ => nofun⟩
  | @cons text part rest parts single _ ih =>
      obtain ⟨record, others, first, later, rfl⟩ := readLines_cons_ok.mp read
      obtain ⟨fewer, unaffected⟩ := ih later
      simp only [List.flatten_cons, List.length_append]
      by_cases short : text.length < 11
      · rw [columnAfter_short short] at single
        obtain rfl : [] = part := Except.ok.inj single
        rw [List.length_nil, Nat.zero_add]
        refine ⟨by omega, ?_⟩
        intro same
        have none : record = none := by
          cases record with
          | none => rfl
          | some board =>
              rw [Option.toList_some, List.length_singleton] at same
              omega
        subst none
        exact List.forall_mem_cons.mpr
          ⟨fun _ => unaffected_of_none first, unaffected (by simpa using same)⟩
      · have long := Nat.not_lt.mp short
        rw [@columnAfter_long _ (some []) column long, first] at single
        cases single
        refine ⟨by omega, ?_⟩
        intro same
        exact List.forall_mem_cons.mpr
          ⟨fun below => absurd below short, unaffected (by omega)⟩

theorem Parts.named {parts : List (List DeviceInfo)} (solo : Parts texts parts) :
    ∀ text ∈ texts, 11 ≤ text.length → Numbered (columnAfter none text) → Named text := by
  induction solo with
  | nil => exact nofun
  | @cons text part rest parts single _ ih =>
      refine List.forall_mem_cons.mpr ⟨?_, ih⟩
      intro long
      cases read : lineRecord (columnAfter (some []) text) text with
      | error fault => simp [read, Except.map] at single
      | ok record =>
          rw [@columnAfter_long _ none (some []) long]
          exact (lineRecord_ok read).1.2

/-- The records of the file are those of its lines, each read into a cleared buffer;
a line of up to 11 characters, its newline included, gives none. -/
structure ParsedAlone (buffer : List Char) (lines : List (List Char)) (last : List Char) :
    Prop where
  concatenated : ∃ count parts,
    List.Forall₂ (fun text part => alone text = .ok part) (fileLines lines last) parts ∧
      extractValue buffer (some (fileText lines last)) = .ok (count, parts.flatten)
  short : ∀ text ∈ fileLines lines last, text.length ≤ 11 → alone text = .ok []

theorem parts_iff_alone {parts : List (List DeviceInfo)}
    (single : ∀ text ∈ texts, fgetsAll 256 text = [text]) :
    Parts texts parts ↔ List.Forall₂ (fun text part => alone text = .ok part) texts parts := by
  induction texts generalizing parts with
  | nil => simp [Parts]
  | cons text rest ih =>
      obtain ⟨here, others⟩ := List.forall_mem_cons.mp single
      simp only [Parts, List.forall₂_cons_left_iff, alone_iff here] at ih ⊢
      simp only [ih others]

/-- For lines of fewer than 255 characters, each line is parsed as if it stood alone
exactly when no line too short for column 11 finds numbers there, and names and records
fit the board table. -/
theorem parsed_alone_iff {buffer last : List Char} {lines : List (List Char)}
    (shaped : ∀ line ∈ lines, ShortLine line) (ending : ShortLine last) :
    ParsedAlone buffer lines last ↔
      Independent (cstring (buffer.drop 11)) (fileLines lines last) := by
  have single : ∀ text ∈ fileLines lines last, fgetsAll 256 text = [text] :=
    fun text => fgetsAll_fileLine shaped ending
  constructor
  · rintro ⟨⟨count, parts, solo, ran⟩, _⟩
    have solo := (parts_iff_alone single).mpr solo
    obtain ⟨read, few, _⟩ := extractValue_readLines.mp ran
    rw [fgetsAll_fileText shaped ending] at read
    rw [names_length read] at few
    exact ⟨(solo.length_le read).2 le_rfl, solo.named, few⟩
  · rintro ⟨unaffected, named, few⟩
    obtain ⟨parts, solo, read⟩ := readLines_parts unaffected named
    rw [← names_length read] at few
    refine ⟨⟨parts.flatten.length, parts, (parts_iff_alone single).mp solo, ?_⟩, ?_⟩
    · refine extractValue_readLines.mpr ⟨?_, few, rfl⟩
      rw [fgetsAll_fileText shaped ending]
      exact read
    · intro text member short
      exact alone_short (single text member) short

/-- A line with a name only takes its numbers from the line before. -/
theorem short_line_repeats : ¬ ParsedAlone clearedBuffer [boardLine, ['x']] [] := by
  rintro ⟨⟨count, parts, solo, ran⟩, _⟩
  have two : (extractValue clearedBuffer (some (fileText [boardLine, ['x']] []))).map
      (fun (_, records) => records.length) = .ok 2 := by decide +kernel
  have one : (alone (boardLine ++ ['\n'])).map List.length = .ok 1 := by decide +kernel
  have none : (alone ['x', '\n']).map List.length = .ok 0 := by decide +kernel
  have solo : List.Forall₂ (fun text part => alone text = .ok part)
      [boardLine ++ ['\n'], ['x', '\n']] parts := solo
  cases solo with
  | @cons _ first _ _ full rest =>
      cases rest with
      | @cons _ second _ _ short rest =>
          cases rest
          rw [ran] at two
          rw [full] at one
          rw [short] at none
          simp only [Except.map, Except.ok.injEq, List.flatten_cons, List.length_append,
            List.flatten_nil, List.length_nil] at one none two
          omega

theorem parsed_alone_iff_repeats :
    ParsedAlone clearedBuffer [boardLine, ['x']] [] ↔
      Independent (cstring (clearedBuffer.drop 11)) (fileLines [boardLine, ['x']] []) := by
  refine parsed_alone_iff ?_ ⟨by simp, by simp⟩
  intro line member
  rcases List.mem_cons.mp member with rfl | member
  · exact ⟨by decide +kernel, by decide +kernel⟩
  · rw [List.mem_singleton.mp member]
    exact ⟨by decide, by decide⟩

end Vi53xx.Lib
