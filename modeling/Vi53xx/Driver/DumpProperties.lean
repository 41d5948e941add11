import Vi53xx.Driver.ProcWriteProperties

/-! What the proc command `dump` shows of the buffers of channel 1. The offset is scanned
in 32 bits, of which eight reach the buffer. -/

set_option autoImplicit false

namespace Vi53xx.Driver

open Foundation Foundation.CText Foundation.KernelScan Foundation.Program

/-! ## The command -/

def dirDigit (dir : Fin 2) : Char := if dir = 0 then '0' else '1'

def dumpHead (dir : Fin 2) : List Char :=
  ['d', 'u', 'm', 'p', ' ', '1', ' ', dirDigit dir, ' ']

/-- `dump 1 <dir> <offset>`, with or without the newline of a shell. -/
def dumpCommand (dir : Fin 2) (offset : HexText) (newline : Bool) : List Char :=
  dumpHead dir ++ (offset.text ++ if newline then ['\n'] else [])

variable {dir : Fin 2} {offset : HexText} {newline : Bool} {rest : List Char} {xdev : XdmaDev}
  {led : Led} {kernel before : Kernel} {block len count : Nat} {value : BitVec 32}

/-- What is left of the offset when the write has been cut. -/
def shown (offset : HexText) : HexText := offset.clip 246 (by decide)

theorem digit_ne_nul {char : Char} (digit : (digitIn 16 char).isSome = true) : char ≠ nul := by
  rintro rfl
  exact absurd digit (by decide)

theorem text_ne_nul : ∀ char ∈ offset.text, char ≠ nul := by
  intro char member
  rcases List.mem_append.mp member with radix | digits
  · rcases offset.optional with same | same | same
    all_goals
      rw [same] at radix
      rintro rfl
      exact absurd radix (by decide)
  · exact digit_ne_nul (offset.hexadecimal char digits)

theorem dumpHead_ne_nul : ∀ char ∈ dumpHead dir, char ≠ nul := by
  have all : (dumpHead dir).all (· != nul) = true := by
    match dir with
    | 0 | 1 => rfl
  intro char member
  exact bne_iff_ne.mp (List.all_eq_true.mp all char member)

theorem newline_take (room : Nat) :
    (if newline then ['\n'] else []).take room = [] ∨
      (if newline then ['\n'] else []).take room = ['\n'] := by
  cases newline with
  | false => exact .inl List.take_nil
  | true =>
      cases room with
      | zero => exact .inl rfl
      | succ room => exact .inr (List.take_of_length_le (Nat.succ_le_succ (Nat.zero_le room)))

/-- The scanner sees the start of the offset, and then at most the newline. -/
theorem commandText_dump : ∃ tail, (tail = [] ∨ tail = ['\n']) ∧
    commandText (dumpCommand dir offset newline) = dumpHead dir ++ ((shown offset).text ++ tail) := by
  refine ⟨_, @newline_take newline (246 - offset.text.length), ?_⟩
  have head : (dumpHead dir).take 255 = dumpHead dir := rfl
  have cut : (dumpCommand dir offset newline).take 255 = dumpHead dir ++ ((shown offset).text ++
      (if newline then ['\n'] else []).take (246 - offset.text.length)) := by
    rw [dumpCommand, List.take_append, head, shown, HexText.clip_text, List.take_append]
    rfl
  rw [commandText, cut]
  refine List.takeWhile_eq_self_iff.mpr ?_
  intro char member
  rw [bne_iff_ne]
  rcases List.mem_append.mp member with head | member
  · exact dumpHead_ne_nul char head
  · rcases List.mem_append.mp member with text | tail
    · exact text_ne_nul char text
    · rcases @newline_take newline (246 - offset.text.length) with none | one
      · rw [none] at tail
        cases tail
      · rw [one] at tail
        rcases List.mem_singleton.mp tail with rfl
        decide

/-! ## Scanning -/

theorem scanWord_dump : scanWord (dumpHead dir ++ rest) =
    some (['d', 'u', 'm', 'p'], ' ' :: '1' :: ' ' :: dirDigit dir :: ' ' :: rest) := rfl

theorem sscanf_dump : sscanf dumpFormat.tail (' ' :: '1' :: ' ' :: dirDigit dir :: ' ' :: rest) =
    .int 1 :: .int (BitVec.ofNat 32 dir.val) :: sscanf [.hex] (skipSpaces rest) := by
  match dir with
  | 0 | 1 => rfl

theorem sscanf_offset {tail : List Char} (ends : tail = [] ∨ tail = ['\n']) :
    sscanf [.hex] (skipSpaces (offset.text ++ tail)) = [.hex (BitVec.ofNat 32 offset.value)] := by
  have narrowed : (BitVec.ofNat 64 offset.value).setWidth 32 = BitVec.ofNat 32 offset.value := by
    refine BitVec.eq_of_toNat_eq ?_
    simp only [BitVec.toNat_setWidth, BitVec.toNat_ofNat]
    exact Nat.mod_mod_of_dvd _ (by decide)
  have spaced : ∀ char ∈ tail.head?, isspace char = true := by
    intro char member
    rcases ends with rfl | rfl
    · cases member
    · cases member
      rfl
  rw [skipSpaces_text]
  simp only [sscanf, scanHex_text spaced, narrowed]

/-! ## The byte -/

/-- The config of channel 1 in a direction. -/
def firstChannel (xdev : XdmaDev) (dir : Fin 2) : XdmaCfgInfo :=
  if dir = 0 then xdev.h2cDmaCfg 0 else xdev.c2hDmaCfg 0

theorem dumpScanned_first (allocated : (firstChannel xdev dir).pData 0 = some block)
    (word : List Char) :
    dumpScanned xdev led len count
      [.word word, .int 1, .int (BitVec.ofNat 32 dir.val), .hex value] kernel =
      (.ok ⟨count, led, some ⟨value.setWidth 8, kernel.buffers block (value.setWidth 8).toNat⟩⟩,
        kernel.logged (.buffer block (value.setWidth 8).toNat 1)) := by
  have control : dumpScanned xdev led len count
      [.word word, .int 1, .int (BitVec.ofNat 32 dir.val), .hex value] =
      callDumpControl ⟨1, BitVec.ofNat 32 dir.val, (firstChannel xdev dir).pData 0, value⟩ >>=
        fun report => pure ⟨count, led, some report⟩ := by
    match dir with
    | 0 | 1 => rfl
  rw [control, allocated]
  rfl

/-- A dump reads one byte, at the last eight bits of the offset that is left. -/
theorem deviceWrite_dump (allocated : (firstChannel xdev dir).pData 0 = some block) :
    ∃ answer report final,
      xdev.deviceWrite led (dumpCommand dir offset newline) true kernel = (.ok answer, final) ∧
      answer.report = some report ∧ report.offset.toNat = (shown offset).value % 256 ∧
      report.byte = kernel.buffers block ((shown offset).value % 256 : Nat) ∧
      final.trace = .buffer block ((shown offset).value % 256 : Nat) 1 :: kernel.trace := by
  obtain ⟨tail, ends, text⟩ := @commandText_dump dir offset newline
  have command : Command (commandText (dumpCommand dir offset newline)) ['d', 'u', 'm', 'p']
      (' ' :: '1' :: ' ' :: dirDigit dir :: ' ' :: ((shown offset).text ++ tail)) := by
    refine ⟨?_, by decide⟩
    rw [text]
    exact scanWord_dump
  have narrowed : ((BitVec.ofNat 32 (shown offset).value).setWidth 8).toNat =
      (shown offset).value % 256 := by
    simp only [BitVec.toNat_setWidth, BitVec.toNat_ofNat]
    exact Nat.mod_mod_of_dvd _ (by decide)
  rw [command.deviceWrite, wordScanned_dump rfl rfl, command.dump, sscanf_dump, sscanf_offset ends,
    dumpScanned_first allocated]
  refine ⟨_, _, _, rfl, rfl, narrowed, ?_, ?_⟩
  · rw [narrowed]
  · rw [Kernel.logged_trace, narrowed]

/-- The command reports the byte at an offset inside the buffer, and reads nothing at one
behind its end. -/
structure DumpsByte (block size offset : Nat) (before : Kernel)
    (result : Except Fault WriteAnswer × Kernel) : Prop where
  inside : offset < size → ∃ answer report, result.1 = .ok answer ∧ answer.report = some report ∧
    report.offset.toNat = offset ∧ report.byte = before.buffers block offset
  outside : size ≤ offset → result.2.trace = before.trace

/-- A dump shows the byte it names exactly when the offset has eight bits, and its numeral
is not cut unless it is zero. -/
theorem dumps_byte_iff {answers : Nat → Option (BitVec 64)} {idx : Nat}
    {bars : Fin xdmaBarNum → Option Nat} (probed : Probed answers idx bars before xdev)
    (allocated : (firstChannel xdev dir).pData 0 = some block) :
    DumpsByte block (firstChannel xdev dir).size.toNat offset.value kernel
        (xdev.deviceWrite led (dumpCommand dir offset newline) true kernel) ↔
      offset.value < 256 ∧ (offset.value = 0 ∨ offset.text.length ≤ 246) := by
  have size : (firstChannel xdev dir).size.toNat = 0x2000 := by
    match dir with
    | 0 => exact congrArg BitVec.toNat probed.ready.firstH2c.size
    | 1 => exact congrArg BitVec.toNat probed.ready.firstC2h.size
  obtain ⟨answer, report, final, ran, reported, low, byte, read⟩ :=
    @deviceWrite_dump dir offset newline xdev led kernel block allocated
  rw [ran, size]
  constructor
  · intro dumps
    by_cases inside : offset.value < 0x2000
    · obtain ⟨_, _, returned, same, named, _⟩ := dumps.inside inside
      cases returned
      cases reported.symm.trans same
      have below : (shown offset).value % 256 = offset.value := low.symm.trans named
      refine ⟨by omega, ?_⟩
      by_contra neither
      obtain ⟨nonzero, long⟩ := not_or.mp neither
      have cut : (shown offset).value * 16 ≤ offset.value := HexText.clip_long (Nat.not_le.mp long)
      omega
    · have unread := (dumps.outside (Nat.not_lt.mp inside)).symm.trans read
      exact absurd unread.symm (List.cons_ne_self _ _)
  · rintro ⟨small, kept⟩
    have whole : (shown offset).value = offset.value := by
      by_cases short : offset.text.length ≤ 246
      · exact HexText.clip_short short
      · have cut : (shown offset).value * 16 ≤ offset.value :=
          HexText.clip_long (Nat.not_le.mp short)
        omega
    rw [whole, Nat.mod_eq_of_lt small] at low byte
    exact ⟨fun _ => ⟨answer, report, rfl, reported, low, byte⟩, fun behind => by omega⟩

def withRadix (digits : List Char) (nonempty : digits ≠ [])
    (hexadecimal : digits.all (fun char => (digitIn 16 char).isSome) = true) : HexText :=
  ⟨['0', 'x'], digits, .inr (.inl rfl), nonempty, List.all_eq_true.mp hexadecimal⟩

def offset10 : HexText := withRadix ['1', '0'] nofun rfl

def offset100 : HexText := withRadix ['1', '0', '0'] nofun rfl

theorem dumps_byte_iff_small : ∃ xdev final,
    xdmaChannelInit (fun _ => some 0) (.allocated 0 fun bar => some bar.val) .booted = (.ok xdev, final) ∧
      DumpsByte 2 (firstChannel xdev 0).size.toNat 0x10 final
        (xdev.deviceWrite ⟨0, false, .idle, 0⟩ (dumpCommand 0 offset10 true) true final) := by
  obtain ⟨xdev, final, ran, ready, _⟩ :=
    @xdmaChannelInit_run (fun _ => some 0) 1 0 (fun bar => some bar.val) .booted rfl
  have small : offset10.value < 256 ∧ (offset10.value = 0 ∨ offset10.text.length ≤ 246) := by
    decide
  have allocated : (firstChannel xdev 0).pData 0 = some 2 := ready.firstH2c.pData
  have value : offset10.value = 0x10 := by decide
  refine ⟨xdev, final, ran, ?_⟩
  rw [← value]
  exact (dumps_byte_iff ⟨final, ran⟩ allocated).mpr small

/-- The byte at 0x100 is asked for, and the one at 0 is shown. -/
theorem dump_shows_another : ∃ xdev final,
    xdmaChannelInit (fun _ => some 0) (.allocated 0 fun bar => some bar.val) .booted = (.ok xdev, final) ∧
      (firstChannel xdev 0).pData 0 = some 2 ∧
      ¬ DumpsByte 2 (firstChannel xdev 0).size.toNat 0x100 final
        (xdev.deviceWrite ⟨0, false, .idle, 0⟩ (dumpCommand 0 offset100 true) true final) := by
  obtain ⟨xdev, final, ran, ready, _⟩ :=
    @xdmaChannelInit_run (fun _ => some 0) 1 0 (fun bar => some bar.val) .booted rfl
  have allocated : (firstChannel xdev 0).pData 0 = some 2 := ready.firstH2c.pData
  refine ⟨xdev, final, ran, allocated, ?_⟩
  have size : (firstChannel xdev 0).size.toNat = 0x2000 :=
    congrArg BitVec.toNat ready.firstH2c.size
  rw [size]
  obtain ⟨answer, report, after, wrote, reported, low, _⟩ :=
    @deviceWrite_dump 0 offset100 true xdev ⟨0, false, .idle, 0⟩ final 2 allocated
  rw [wrote]
  intro dumps
  obtain ⟨_, _, returned, same, named, _⟩ := dumps.inside (by decide)
  cases returned
  cases reported.symm.trans same
  have zero : (shown offset100).value % 256 = 0 := by decide
  rw [zero] at low
  exact absurd (low.symm.trans named) (by decide)

end Vi53xx.Driver
