import Vi53xx.Lib.Scope

/-! The run bit of the scope when one client clears the buffer while another selects
the mode. The clear writes back what it has read before. -/

set_option autoImplicit false

namespace Vi53xx.Lib

open Foundation Foundation.TwoClients

def runReg : BitVec 32 := 0x2008

variable {regs after : RegFile} {client : RegClient} {value : BitVec 32} {modeSel : BitVec 8}
  {outcomes : List Bool} {done : Nat}

/-! ## The mode selection alone -/

/-- What is left of the selection after some of its writes. -/
def modeRest (value : BitVec 32) : Nat → RegClient
  | 0 => .write 0x2008 0x0 (.write 0x2000 value (.write 0x2008 0x1 .done))
  | 1 => .write 0x2000 value (.write 0x2008 0x1 .done)
  | 2 => .write 0x2008 0x1 .done
  | _ => .done

/-- The run register when the selection goes from `done` writes to `now`. -/
def modeWrites (done now : Nat) (run : BitVec 32) : BitVec 32 :=
  if now = done then run else if now = 3 then 1 else if done = 0 then 0 else run

theorem modeRest_advance {state : RegFile × RegClient} (bounded : done ≤ 3)
    (advanced : advance serveRegister (regs, modeRest value done) true = some state) :
    done < 3 ∧ state.2 = modeRest value (done + 1) ∧
      state.1 runReg = modeWrites done (done + 1) (regs runReg) := by
  match done, bounded with
  | 0, _ | 1, _ | 2, _ =>
      cases advanced
      exact ⟨by decide, rfl, rfl⟩
  | 3, _ => cases advanced

theorem modeWrites_trans {now last : Nat} {run : BitVec 32} (first : done ≤ now) (second : now ≤ last)
    (bounded : last ≤ 3) :
    modeWrites now last (modeWrites done now run) = modeWrites done last run := by
  unfold modeWrites
  grind

theorem modeRest_alone (bounded : done ≤ 3) (written : ∀ outcome ∈ outcomes, outcome = true)
    (ran : runFrom (advance serveRegister) (regs, modeRest value done) outcomes =
      some (after, client)) :
    done + outcomes.length ≤ 3 ∧ client = modeRest value (done + outcomes.length) ∧
      after runReg = modeWrites done (done + outcomes.length) (regs runReg) := by
  induction outcomes generalizing done regs with
  | nil =>
      cases ran
      exact ⟨bounded, rfl, (if_pos rfl).symm⟩
  | cons outcome rest ih =>
      obtain ⟨⟨middle, next⟩, advanced, continued⟩ := Option.bind_eq_some_iff.mp ran
      rw [written outcome List.mem_cons_self] at advanced
      obtain ⟨below, next_eq, moved⟩ := modeRest_advance bounded advanced
      dsimp only at next_eq moved
      rw [next_eq] at continued
      obtain ⟨most, last, reached⟩ :=
        ih below (fun other member => written other (List.mem_cons_of_mem outcome member)) continued
      rw [moved, modeWrites_trans (Nat.le_succ done) (Nat.le_add_right _ _) most] at reached
      have total : done + (outcome :: rest).length = done + 1 + rest.length := by
        rw [List.length_cons]
        omega
      rw [total]
      exact ⟨most, last, reached⟩

theorem modeRest_done (finished : modeRest value done = .done) : 3 ≤ done := by
  match done with
  | 0 | 1 | 2 => cases finished
  | done + 3 => exact Nat.le_add_left 3 done

/-! ## Both clients -/

/-- What the last write of the clear carries, if its read has left `val`. -/
def cleared (val : BitVec 32) : BitVec 32 := (val ||| (1#32 <<< 1)) &&& ~~~(1#32 <<< 1)

theorem clearDonebits (val : BitVec 32) :
    (cleared val).getLsbD 0 = val.getLsbD 0 ∧ (cleared val).getLsbD 1 = false := by
  simp [cleared]

/-- The variable after the read, by how many writes of the selection come before it. -/
def readVal (initial : BitVec 32) (schedule : List (Turn Bool)) : BitVec 32 :=
  if firstOutcome 0 schedule = some true then
    modeWrites 0 (secondBefore 0 schedule) initial
  else 0

/-- The last of the two clients to write the register decides what it holds. -/
theorem both_finished {schedule : List (Turn Bool)} {final : TwoClients RegFile RegRequest (BitVec 32)}
    (ran : runFrom (turn serveRegister) ⟨regs, clearABuff, scopeSlectMode modeSel⟩ schedule =
      some final)
    (clearDone : final.first = .done) (selectDone : final.second = .done)
    (written : ∀ turn ∈ schedule, turn.party = .second → turn.outcome = true)
    (last : firstOutcome 2 schedule = some true) :
    final.state runReg =
      if secondBefore 2 schedule < 3 then 1 else cleared (readVal (regs runReg) schedule) := by
  obtain ⟨beforeRead, readOk, _, regsRead, _, rfl, aloneRead, ran⟩ := next_turn rfl ran clearDone
  obtain ⟨writtenRead, written⟩ := @outcome_of_second _ _ _ (· = true) written
  obtain ⟨mostRead, rfl, reachedRead⟩ :=
    modeRest_alone (Nat.zero_le 3) writtenRead aloneRead
  obtain ⟨beforeSet, setOk, _, regsSet, _, rfl, aloneSet, ran⟩ := next_turn rfl ran clearDone
  obtain ⟨writtenSet, written⟩ :=
    @outcome_of_second _ _ _ (· = true)
      fun turn member => written turn (List.mem_cons_of_mem _ member)
  obtain ⟨mostSet, rfl, reachedSet⟩ := modeRest_alone mostRead writtenSet aloneSet
  obtain ⟨beforeClear, clearOk, _, regsClear, _, rfl, aloneClear, ran⟩ := next_turn rfl ran clearDone
  obtain ⟨writtenClear, written⟩ :=
    @outcome_of_second _ _ _ (· = true)
      fun turn member => written turn (List.mem_cons_of_mem _ member)
  obtain ⟨mostClear, rfl, reachedClear⟩ := modeRest_alone mostSet writtenClear aloneClear
  obtain ⟨after, rfl, aloneAfter⟩ := last_turns rfl ran
  obtain ⟨mostAfter, finished, reachedAfter⟩ := modeRest_alone mostClear
    (fun outcome member => written _ (List.mem_cons_of_mem _ (List.mem_map_of_mem member)) rfl)
    aloneAfter
  have whole := modeRest_done (finished.symm.trans selectDone)
  -- The turns are known now, so the positions in the schedule can be read off.
  simp only [firstOutcome_succ, firstOutcome_zero, Option.some.injEq] at last
  subst last
  simp only [secondBefore_succ, secondBefore_zero, readVal, firstOutcome_zero, Option.some.injEq]
  have read : (serveRegister regsRead (.read 0x2008 0) readOk).1 =
      if readOk = true then modeWrites 0 beforeRead.length (regs runReg) else 0 := by
    rw [Nat.zero_add] at reachedRead
    rw [← reachedRead]
    rfl
  rw [← read]
  have position : 0 + beforeRead.length + beforeSet.length + beforeClear.length =
      beforeClear.length + beforeSet.length + beforeRead.length := by omega
  have total : beforeClear.length + beforeSet.length + beforeRead.length + after.length = 3 := by
    omega
  rw [position, total] at reachedAfter
  refine reachedAfter.trans ?_
  unfold modeWrites
  by_cases same : 3 = beforeClear.length + beforeSet.length + beforeRead.length
  · have late : ¬ beforeClear.length + beforeSet.length + beforeRead.length < 3 := by omega
    rw [if_pos same]
    refine Eq.trans ?_ (if_neg late).symm
    rfl
  · have early : beforeClear.length + beforeSet.length + beforeRead.length < 3 := by omega
    rw [if_neg same, if_pos rfl]
    exact (if_pos early).symm

/-- Bit 0 of the register is set and bit 1 is clear. -/
def Running (run : BitVec 32) : Prop := run.getLsbD 0 = true ∧ run.getLsbD 1 = false

/-- The last write of the clear comes before that of the selection, or the read has
found the run bit: after the selection, or before it with the bit set. -/
def RunBitKept (initial : BitVec 32) (schedule : List (Turn Bool)) : Prop :=
  secondBefore 2 schedule < 3 ∨
    firstOutcome 0 schedule = some true ∧
      (secondBefore 0 schedule = 3 ∨ secondBefore 0 schedule = 0 ∧ initial.getLsbD 0 = true)

theorem readVal_bit {initial : BitVec 32} {schedule : List (Turn Bool)} :
    (readVal initial schedule).getLsbD 0 = true ↔
      firstOutcome 0 schedule = some true ∧
        (secondBefore 0 schedule = 3 ∨ secondBefore 0 schedule = 0 ∧ initial.getLsbD 0 = true) := by
  unfold readVal
  by_cases readOk : firstOutcome 0 schedule = some true
  · simp only [readOk, if_true, true_and]
    unfold modeWrites
    by_cases first : secondBefore 0 schedule = 0
    · simp [first]
    · by_cases last : secondBefore 0 schedule = 3
      · simp [last]
      · simp [first, last]
  · simp [readOk]

/-- With both clients done and the mode selected, a clear whose last write succeeds
has kept the run bit exactly where it comes before the selection's last write or has
read the bit. -/
theorem run_bit_kept_iff {schedule : List (Turn Bool)}
    {final : TwoClients RegFile RegRequest (BitVec 32)}
    (ran : runFrom (turn serveRegister) ⟨regs, clearABuff, scopeSlectMode modeSel⟩ schedule =
      some final)
    (finished : final.first = .done ∧ final.second = .done)
    (written : ∀ turn ∈ schedule, turn.party = .second → turn.outcome = true) :
    (firstOutcome 2 schedule = some true → Running (final.state 0x2008)) ↔
      firstOutcome 2 schedule ≠ some true ∨ RunBitKept (regs 0x2008) schedule := by
  by_cases last : firstOutcome 2 schedule = some true
  · have reached := both_finished ran finished.1 finished.2 written last
    unfold runReg at reached
    simp only [last, ne_eq, not_true_eq_false, false_or, forall_const]
    rw [reached, RunBitKept]
    by_cases early : secondBefore 2 schedule < 3
    · simp only [early, if_true, true_or, iff_true]
      exact ⟨rfl, rfl⟩
    · obtain ⟨low, high⟩ := clearDonebits (readVal (regs 0x2008) schedule)
      simp only [early, if_false, false_or, Running, low, high, and_true]
      exact readVal_bit
  · simp [last]

/-- The read falls between the first and the last write of the selection. -/
def readInBetween : List (Turn Bool) :=
  [⟨.second, true⟩, ⟨.first, true⟩, ⟨.second, true⟩, ⟨.second, true⟩, ⟨.first, true⟩,
    ⟨.first, true⟩]

/-- The clear stops the scope although every access succeeds. -/
theorem run_bit_lost :
    ∃ final, runFrom (turn serveRegister) ⟨fun _ => 1, clearABuff, scopeSlectMode 0⟩ readInBetween =
        some final ∧ (final.first = .done ∧ final.second = .done) ∧
      (∀ turn ∈ readInBetween, turn.party = .second → turn.outcome = true) ∧
      firstOutcome 2 readInBetween = some true ∧ final.state 0x2008 = 0 ∧
      ¬ Running (final.state 0x2008) := by
  refine ⟨_, rfl, ⟨rfl, rfl⟩, by decide, rfl, rfl, ?_⟩
  intro running
  cases running.1

theorem run_bit_kept_iff_inBetween :
    ∃ final, runFrom (turn serveRegister) ⟨fun _ => 1, clearABuff, scopeSlectMode 0⟩ readInBetween =
        some final ∧
      ((firstOutcome 2 readInBetween = some true → Running (final.state 0x2008)) ↔
        firstOutcome 2 readInBetween ≠ some true ∨ RunBitKept 1 readInBetween) :=
  ⟨_, rfl, @run_bit_kept_iff (fun _ => 1) 0 readInBetween _ rfl ⟨rfl, rfl⟩ (by decide)⟩

end Vi53xx.Lib
