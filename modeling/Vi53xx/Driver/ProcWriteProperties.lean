import Vi53xx.Driver.ProcWrite
import Vi53xx.Driver.ChannelInitProperties

/-! What a write to the proc file of a board can do. A word of 255 characters does not fit
the array for it, and a dump keeps eight bits of the offset. -/

set_option autoImplicit false

namespace Vi53xx.Driver

open Foundation Foundation.CText Foundation.KernelScan Foundation.Program

variable {xdev : XdmaDev} {led : Led} {buf text : List Char} {kernel final : Kernel}
  {answer : WriteAnswer} {len count : Nat} {values : List Scanned} {format : List Directive}

/-! ## The copy -/

theorem kBuf_zeros : kBuf buf = buf.take 255 ++ List.replicate (256 - min 255 buf.length) nul := by
  have front : buf.take (min 255 buf.length) = buf.take 255 := by
    rcases Nat.le_total 255 buf.length with long | short
    · rw [Nat.min_eq_left long]
    · rw [Nat.min_eq_right short, List.take_length, List.take_of_length_le short]
  have behind : (buf.take 255).length ≤ 255 := List.length_take_le ..
  unfold kBuf
  dsimp only
  rw [front, List.set_append_right _ _ behind, List.set_replicate_self]

theorem kBuf_length : (kBuf buf).length = kBufSize := by
  rw [kBuf_zeros, List.length_append, List.length_take, List.length_replicate]
  unfold kBufSize
  omega

/-- The last byte is no part of the write. -/
theorem kBuf_terminated : kBuf buf =
    buf.take 255 ++ nul :: List.replicate (255 - min 255 buf.length) nul := by
  have zeros : 256 - min 255 buf.length = 255 - min 255 buf.length + 1 := by omega
  rw [kBuf_zeros, zeros, List.replicate_succ]

theorem cstring_takeWhile {rest : List Char} :
    cstring (text ++ nul :: rest) = some (text.takeWhile (· != nul)) := by
  induction text with
  | nil => simp [cstring]
  | cons char text ih =>
      by_cases ends : char = nul
      · simp [cstring, ends]
      · simp [cstring, ends, ih]

/-- What the scanner sees of a write. -/
def commandText (buf : List Char) : List Char := (buf.take 255).takeWhile (· != nul)

theorem cstring_kBuf : cstring (kBuf buf) = some (commandText buf) := by
  rw [kBuf_terminated, cstring_takeWhile, commandText]

theorem commandText_length : (commandText buf).length ≤ 255 :=
  (List.takeWhile_prefix _).length_le.trans (List.length_take_le ..)

/-! ## The stores -/

theorem scanCommand_run (fits : ∀ value ∈ sscanf format text, value.fits cmdSize = true) :
    scanCommand format text kernel = (.ok (sscanf format text), kernel) := by
  have all : (sscanf format text).all (Scanned.fits cmdSize) = true := List.all_eq_true.mpr fits
  have passed : scanCommand format text = pure (sscanf format text) := if_pos all
  rw [passed]
  rfl

theorem scanCommand_full (value : Scanned) (member : value ∈ sscanf format text)
    (full : value.fits cmdSize = false) :
    scanCommand format text kernel = (.error .outOfBounds, kernel) := by
  have some : ¬ (sscanf format text).all (Scanned.fits cmdSize) = true := by
    intro all
    simp [List.all_eq_true.mp all value member] at full
  have refused : scanCommand format text = Program.fault .outOfBounds := if_neg some
  rw [refused]
  rfl

theorem callDumpControl_inside {dc : DeviceControlState} :
    (callDumpControl dc kernel).1 ≠ .error .outOfBounds := by
  unfold callDumpControl
  cases dc.pData with
  | none => nofun
  | some block => nofun

/-- Only channel 1 is looked up. -/
theorem dumpScanned_inside :
    (dumpScanned xdev led len count values kernel).1 ≠ .error .outOfBounds := by
  unfold dumpScanned
  split
  · next ch dir offset =>
      cases xdev.dmaCfg dir with
      | none => nofun
      | some cfg =>
          dsimp only
          by_cases one : ch.toInt = CH1
          · have entry : entryAt cfg (ch.toInt - 1) = some (cfg 0) := by
              rw [one]
              rfl
            rw [if_neg (not_not.mpr one), entry]
            dsimp only
            have inside := @callDumpControl_inside kernel ⟨ch, dir, (cfg 0).pData 0, offset⟩
            cases ran : callDumpControl ⟨ch, dir, (cfg 0).pData 0, offset⟩ kernel with
            | mk outcome after =>
                rw [ran] at inside
                cases outcome with
                | ok report =>
                    rw [bind_ok ran]
                    nofun
                | error fault =>
                    rw [bind_error ran]
                    intro same
                    cases same
                    exact inside rfl
          · rw [if_pos one]
            nofun
  · nofun

/-- The word of a command, when it fits. -/
structure Command (text word rest : List Char) : Prop where
  scanned : scanWord text = some (word, rest)
  fits : word.length + 1 ≤ cmdSize

variable {word rest : List Char}

theorem Command.scan (command : Command text word rest) (numbers : .word ∉ format) :
    scanCommand (.word :: format) text kernel = (.ok (.word word :: sscanf format rest), kernel) := by
  have ran : sscanf (.word :: format) text = .word word :: sscanf format rest :=
    sscanf_word command.scanned
  rw [← ran]
  refine scanCommand_run ?_
  rw [ran]
  intro value member
  rcases List.mem_cons.mp member with rfl | member
  · exact decide_eq_true command.fits
  · exact sscanf_fits numbers value member

theorem wordScanned_blink {state : BitVec 32} (blink : blinkState word = some state) :
    wordScanned xdev led text len count [.word word] =
      pure ⟨count, led.callBlinkControl state, none⟩ := by
  simp only [wordScanned, blink]

theorem wordScanned_other (no_blink : blinkState word = none)
    (other : word ≠ ['d', 'u', 'm', 'p']) :
    wordScanned xdev led text len count [.word word] = pure ⟨count, led, none⟩ := by
  simp only [wordScanned, no_blink, if_neg other]

theorem wordScanned_dump (no_blink : blinkState word = none) (dump : word = ['d', 'u', 'm', 'p']) :
    wordScanned xdev led text len count [.word word] = writeDump xdev led text len count := by
  simp only [wordScanned, no_blink, if_pos dump]

theorem Command.dump (command : Command text word rest) :
    writeDump xdev led text len count kernel =
      dumpScanned xdev led len count (.word word :: sscanf dumpFormat.tail rest) kernel := by
  have ran : scanCommand dumpFormat text kernel =
      (.ok (.word word :: sscanf dumpFormat.tail rest), kernel) := command.scan (by decide)
  exact bind_ok ran

theorem Command.word_inside (command : Command text word rest) :
    (wordScanned xdev led text len count [.word word] kernel).1 ≠ .error .outOfBounds := by
  cases blink : blinkState word with
  | some state =>
      rw [wordScanned_blink blink]
      nofun
  | none =>
      by_cases dump : word = ['d', 'u', 'm', 'p']
      · rw [wordScanned_dump blink dump, command.dump]
        exact dumpScanned_inside
      · rw [wordScanned_other blink dump]
        nofun

theorem deviceWrite_copied : xdev.deviceWrite led buf true = (do
    let values ← scanCommand [.word] (commandText buf)
    wordScanned xdev led (commandText buf) (min 255 buf.length) buf.length values) := by
  unfold XdmaDev.deviceWrite
  simp only [cstring_kBuf, Bool.not_true, Bool.false_eq_true, if_false]

theorem Command.deviceWrite (command : Command (commandText buf) word rest) :
    xdev.deviceWrite led buf true kernel = wordScanned xdev led (commandText buf)
      (min 255 buf.length) buf.length [.word word] kernel := by
  have ran : scanCommand [.word] (commandText buf) kernel = (.ok [.word word], kernel) :=
    command.scan nofun
  rw [deviceWrite_copied]
  exact bind_ok ran

theorem dumpScanned_led
    (ran : dumpScanned xdev led len count values kernel = (.ok answer, final)) :
    answer.led = led := by
  unfold dumpScanned at ran
  split at ran
  · next ch dir offset =>
      cases direction : xdev.dmaCfg dir with
      | none =>
          rw [direction] at ran
          cases ran
          rfl
      | some cfg =>
          simp only [direction] at ran
          split at ran
          · cases ran
            rfl
          · cases found : entryAt cfg (ch.toInt - 1) with
            | none =>
                rw [found] at ran
                cases ran
            | some entry =>
                simp only [found] at ran
                obtain ⟨report, middle, _, last⟩ := bind_eq_ok ran
                cases last
                rfl
  · cases ran
    rfl

/-- A write that completes leaves the LED as its word asks for. -/
theorem Command.leaves_led (command : Command (commandText buf) word rest)
    (ran : xdev.deviceWrite led buf true kernel = (.ok answer, final)) :
    answer.led = led.deviceWrite word := by
  rw [command.deviceWrite] at ran
  cases blink : blinkState word with
  | some state =>
      rw [wordScanned_blink blink] at ran
      cases ran
      simp only [Led.deviceWrite, blink]
  | none =>
      have kept : led.deviceWrite word = led := by simp only [Led.deviceWrite, blink]
      rw [kept]
      by_cases dump : word = ['d', 'u', 'm', 'p']
      · rw [wordScanned_dump blink dump, command.dump] at ran
        exact dumpScanned_led ran
      · rw [wordScanned_other blink dump] at ran
        cases ran
        rfl

theorem deviceWrite_empty (empty : commandText buf = []) :
    xdev.deviceWrite led buf true kernel = (.ok ⟨-EINVAL, led, none⟩, kernel) := by
  rw [deviceWrite_copied, empty]
  rfl

theorem deviceWrite_long (scanned : scanWord (commandText buf) = some (word, rest))
    (long : cmdSize < word.length + 1) :
    xdev.deviceWrite led buf true kernel = (.error .outOfBounds, kernel) := by
  have member : .word word ∈ sscanf [.word] (commandText buf) := by
    rw [sscanf_word scanned]
    exact List.mem_cons_self
  have full : (Scanned.word word).fits cmdSize = false :=
    decide_eq_false (Nat.not_le.mpr long)
  rw [deviceWrite_copied]
  exact bind_error (scanCommand_full _ member full)

/-! ## Writes that fit -/

/-- The copy ends in a NUL inside `k_buf`, and every `%s` stores inside `cmd`. -/
structure WriteInside (xdev : XdmaDev) (led : Led) (buf : List Char) (kernel : Kernel) : Prop where
  terminated : (kBuf buf).length = kBufSize ∧ nul ∈ kBuf buf
  stored : (xdev.deviceWrite led buf true kernel).1 ≠ .error .outOfBounds

theorem commandText_start : commandText buf <+: buf.take 255 := List.takeWhile_prefix _

/-- The scanner sees 255 characters, and none of them is white space. -/
def OneLongWord (buf : List Char) : Prop :=
  (commandText buf).length = 255 ∧ ∀ char ∈ commandText buf, isspace char = false

theorem oneLongWord_iff : OneLongWord buf ↔
    ¬ (buf.length < 255 ∨ ∃ char ∈ buf.take 255, isspace char = true ∨ char = nul) := by
  have taken : (buf.take 255).length = min 255 buf.length := List.length_take
  constructor
  · rintro ⟨full, plain⟩
    have fewer := (@commandText_start buf).length_le
    have whole : commandText buf = buf.take 255 := commandText_start.eq_of_length (by omega)
    rintro (short | ⟨char, member, blank | zero⟩)
    · omega
    · rw [plain char (whole ▸ member)] at blank
      cases blank
    · have kept := List.takeWhile_eq_self_iff.mp whole char member
      simp [zero] at kept
  · intro neither
    obtain ⟨long, plain⟩ := not_or.mp neither
    have whole : commandText buf = buf.take 255 := by
      refine List.takeWhile_eq_self_iff.mpr fun char member => ?_
      simpa using fun zero => plain ⟨char, member, .inr zero⟩
    refine ⟨by rw [whole]; omega, fun char member => ?_⟩
    rw [whole] at member
    simpa using fun blank => plain ⟨char, member, .inl blank⟩

/-- A write stays inside its arrays exactly when it has fewer than 255 characters, or white
space or a NUL among the first 255 of them. -/
theorem write_inside_iff : WriteInside xdev led buf kernel ↔
    buf.length < 255 ∨ ∃ char ∈ buf.take 255, isspace char = true ∨ char = nul := by
  have terminated : (kBuf buf).length = kBufSize ∧ nul ∈ kBuf buf := by
    refine ⟨kBuf_length, ?_⟩
    rw [kBuf_terminated]
    simp
  rw [← not_iff_not, ← oneLongWord_iff]
  by_cases empty : commandText buf = []
  · refine iff_of_false ?_ ?_
    · refine not_not.mpr ⟨terminated, ?_⟩
      rw [deviceWrite_empty empty]
      nofun
    · rintro ⟨full, _⟩
      rw [empty] at full
      cases full
  · obtain ⟨word, rest, scanned⟩ := scanWord_isSome empty
    have atMost : (commandText buf).length ≤ 255 := commandText_length
    have shorter := scanWord_length scanned
    have size : cmdSize = 255 := rfl
    have whole := scanWord_whole scanned (atMost.trans (by decide))
    by_cases fits : word.length + 1 ≤ cmdSize
    · have command : Command (commandText buf) word rest := ⟨scanned, fits⟩
      refine iff_of_false ?_ ?_
      · refine not_not.mpr ⟨terminated, ?_⟩
        rw [command.deviceWrite]
        exact command.word_inside
      · rintro ⟨full, plain⟩
        have long := whole.mpr plain
        omega
    · have full : word.length = (commandText buf).length ∧ (commandText buf).length = 255 := by
        omega
      refine iff_of_true ?_ ⟨full.2, whole.mp full.1⟩
      intro inside
      refine inside.stored ?_
      rw [deviceWrite_long scanned (Nat.not_le.mp fits)]

/-- A word that fills what is taken of a write. -/
def longWord : List Char := List.replicate 255 'a'

theorem long_word_overruns :
    ¬ WriteInside (.allocated 0 fun _ => none) ⟨0, false, .idle, 0⟩ longWord .booted := by
  have scanned : scanWord (commandText longWord) = some (longWord, []) := by decide +kernel
  have long : cmdSize < longWord.length + 1 := by decide +kernel
  intro inside
  refine inside.stored ?_
  rw [deviceWrite_long scanned long]

end Vi53xx.Driver
