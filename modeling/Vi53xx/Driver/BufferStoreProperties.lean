import Vi53xx.Driver.AnswerProperties
import Vi53xx.Driver.BufferStore
import Vi53xx.Driver.ProbeMemory

/-! In-range requests for channel 1 make a store of bytes: what `DUMP` returns has been
written last, and the other buffers are the card's. -/

set_option autoImplicit false

namespace Vi53xx.Driver

open Foundation Foundation.Program

/-- The memory of a board that has been probed without a failed allocation. -/
structure Buffered (attempt : Nat) (xdev : XdmaDev) : Prop where
  h2c : (xdev.h2cDmaCfg 0).pData 0 = some (attempt + 2)
  c2h : ∀ index, (xdev.c2hDmaCfg index).pData 0 = some (attempt + 4 * index.val)
  small : (xdev.h2cDmaCfg 0).size.toNat < 2 ^ 31
  mapped : ∃ base, xdev.bar 1 = some base

variable {xdev : XdmaDev} {info : XdmaInfo} {outcome : CopyOutcome} {cmd : XdmaCmd}
  {state first second third : Kernel} {user : BitVec 64 → BitVec 8} {attempt : Nat}
  {index : Fin xdmaChannelNum}

/-! ## Requests that write no buffer -/

def KeepsBuffers (before after : Kernel) : Prop := after.buffers = before.buffers

theorem KeepsBuffers.refl (state : Kernel) : KeepsBuffers state state := rfl

theorem KeepsBuffers.trans (before : KeepsBuffers first second) (after : KeepsBuffers second third) :
    KeepsBuffers first third :=
  Eq.trans after before

theorem KeepsBuffers.bind {Value Other : Type} {program : KernelM Value}
    {next : Value → KernelM Other} (head : Respects KeepsBuffers program)
    (tail : ∀ value, Respects KeepsBuffers (next value)) : Respects KeepsBuffers (program >>= next) :=
  Respects.bind KeepsBuffers.trans head tail

theorem keeps_of_writes {Value : Type} {program : KernelM Value}
    (writes : Respects (WritesRegs fun _ => True) program) : Respects KeepsBuffers program :=
  fun state => (writes state).buffers

theorem keeps_logAccess {access : Access} : Respects KeepsBuffers (logAccess access) :=
  fun _ => rfl

theorem keeps_h2cDmaCfg {place : Int} : Respects KeepsBuffers (h2cDmaCfg xdev place) :=
  respects_h2cDmaCfg KeepsBuffers.refl KeepsBuffers.trans keeps_logAccess

theorem keeps_c2hDmaCfg {place : Int} : Respects KeepsBuffers (c2hDmaCfg xdev place) :=
  respects_c2hDmaCfg KeepsBuffers.refl KeepsBuffers.trans keeps_logAccess

theorem keeps_copyToUser {pData : Option Nat} {start : Int} {buf : BitVec 64} {size missed : Nat} :
    Respects KeepsBuffers (copyToUser pData start buf size missed) :=
  respects_copyToUser KeepsBuffers.refl KeepsBuffers.trans (fun _ _ => keeps_logAccess)
    fun _ _ => rfl

theorem keeps_xdmaStartDesc {channel : BitVec 8} {cfg : XdmaCfgInfo} :
    Respects KeepsBuffers (xdmaStartDesc xdev channel cfg) := by
  refine keeps_of_writes (WritesRegs.bind writes_regBase ?_)
  intro base
  split
  · exact writes_writeReg trivial
  · exact respects_pure WritesRegs.refl

theorem keeps_xdmaStart {channel direction : BitVec 8} :
    Respects KeepsBuffers (xdmaStart xdev channel direction) :=
  keeps_of_writes (WritesRegs.bind writes_regBase fun _ => WritesRegs.bind
    (writes_writeReg trivial) fun _ => WritesRegs.bind writes_readReg fun _ =>
      respects_pure WritesRegs.refl)

theorem keeps_vi53xxXdmaStart {channel : BitVec 32} {dir : BitVec 8} {uninitialised : XdmaCfgInfo} :
    Respects KeepsBuffers (vi53xxXdmaStart xdev channel dir uninitialised) := by
  refine KeepsBuffers.bind ?_ fun _ => KeepsBuffers.bind keeps_xdmaStartDesc fun _ =>
    KeepsBuffers.bind keeps_xdmaStart fun _ => respects_pure KeepsBuffers.refl
  unfold startCfg
  split
  · exact keeps_h2cDmaCfg
  · split
    · exact keeps_c2hDmaCfg
    · exact respects_pure KeepsBuffers.refl

theorem keeps_vi53xxXdmaReg {missed : Nat} :
    Respects KeepsBuffers (vi53xxXdmaReg xdev info missed) := by
  refine KeepsBuffers.bind (keeps_of_writes writes_regBase) ?_
  intro base
  split
  · exact KeepsBuffers.bind (keeps_of_writes writes_readReg) fun _ _ => rfl
  · split
    · exact KeepsBuffers.bind (keeps_of_writes (writes_writeReg trivial)) fun _ =>
        respects_pure KeepsBuffers.refl
    · exact respects_pure KeepsBuffers.refl

theorem keeps_getXdmaCfg : Respects KeepsBuffers (getXdmaCfg xdev info) := by
  unfold getXdmaCfg
  split
  · exact keeps_h2cDmaCfg
  · exact keeps_c2hDmaCfg

theorem keeps_runCommand (other : cmd ≠ .init) :
    Respects KeepsBuffers (runCommand xdev cmd info outcome) := by
  cases cmd with
  | init => exact absurd rfl other
  | start => exact keeps_vi53xxXdmaStart
  | stop =>
      exact KeepsBuffers.bind (keeps_of_writes (writes_xdmaStop trivial)) fun _ =>
        respects_pure KeepsBuffers.refl
  | reg => exact keeps_vi53xxXdmaReg
  | print => exact KeepsBuffers.bind keeps_c2hDmaCfg fun _ => keeps_copyToUser
  | setting => exact KeepsBuffers.bind (fun _ => rfl) fun _ => respects_pure KeepsBuffers.refl
  | exit => exact KeepsBuffers.bind keeps_getXdmaCfg fun _ => respects_pure KeepsBuffers.refl
  | dump => exact KeepsBuffers.bind keeps_h2cDmaCfg fun _ => keeps_copyToUser

theorem request_keeps (other : cmd ≠ .init) :
    (request xdev cmd info outcome user state).2.buffers = state.buffers := by
  unfold request
  by_cases copied : outcome.infoMissed = 0
  · rw [answer_ioctl copied]
    exact keeps_runCommand other { state with user }
  · rw [answer_unread copied]
    rfl

/-! ## Requests that complete -/

theorem startCfg_completes {uninitialised : XdmaCfgInfo} (number : info.channel = 1) :
    ∃ cfg after, startCfg xdev info.channel info.dir uninitialised state = (.ok cfg, after) := by
  have found : ∀ {Entry : Type} (table : Fin xdmaChannelNum → Entry),
      entryAt table info.channel.toInt = some (table 1) := by
    intro Entry table
    rw [number]
    rfl
  unfold startCfg
  split
  · exact ⟨_, _, h2cDmaCfg_run (found xdev.h2cDmaCfg)⟩
  · split
    · exact ⟨_, _, c2hDmaCfg_run (found xdev.c2hDmaCfg)⟩
    · exact ⟨_, _, rfl⟩

theorem xdmaStartDesc_completes {base : Nat} {channel : BitVec 8} {cfg : XdmaCfgInfo}
    (mapped : xdev.bar 1 = some base) :
    ∃ after, xdmaStartDesc xdev channel cfg state = (.ok (), after) := by
  simp only [xdmaStartDesc, bind_ok (regBase_run state), mapped]
  by_cases several : 1 < cfg.sgDescNum
  · simp only [several, if_true]
    exact ⟨_, rfl⟩
  · simp only [several, if_false]
    exact ⟨_, rfl⟩

theorem xdmaStart_completes {base : Nat} {channel direction : BitVec 8}
    (mapped : xdev.bar 1 = some base) :
    ∃ after, xdmaStart xdev channel direction state = (.ok (), after) := by
  simp only [xdmaStart, bind_ok (regBase_run state), mapped]
  exact ⟨_, rfl⟩

theorem vi53xxXdmaStart_completes {base : Nat} {uninitialised : XdmaCfgInfo}
    (mapped : xdev.bar 1 = some base) (number : info.channel = 1) :
    ∃ after, vi53xxXdmaStart xdev info.channel info.dir uninitialised state = (.ok 0, after) := by
  obtain ⟨cfg, first, ranCfg⟩ := @startCfg_completes xdev info state uninitialised number
  obtain ⟨second, ranDesc⟩ := @xdmaStartDesc_completes xdev first base (info.channel.setWidth 8) cfg
    mapped
  obtain ⟨third, ranStart⟩ := @xdmaStart_completes xdev second base (info.channel.setWidth 8) info.dir
    mapped
  exact ⟨third, (bind_ok ranCfg).trans ((bind_ok ranDesc).trans (bind_ok ranStart))⟩

/-- A board that has its buffers and its registers serves every request for channel 1. -/
theorem runCommand_completes (buffered : Buffered attempt xdev) (number : info.channel = 1)
    (other : cmd ≠ .reg) : ∃ ret, (runCommand xdev cmd info outcome state).1 = .ok ret := by
  obtain ⟨base, mapped⟩ := buffered.mapped
  have first : info.channel = BitVec.ofNat 32 ((0 : Fin xdmaChannelNum).val + 1) := number
  have h2c : ((xdev.h2cDmaCfg 0).pData 0).isSome := by
    rw [buffered.h2c]
    rfl
  have c2h : ((xdev.c2hDmaCfg 0).pData 0).isSome := by
    rw [buffered.c2h 0]
    rfl
  cases cmd with
  | init => exact ⟨_, @transfer_found .write xdev info state outcome 0 first (.inl h2c)⟩
  | print => exact ⟨_, @transfer_found .read xdev info state outcome 0 first (.inl c2h)⟩
  | dump => exact ⟨_, @transfer_found .dump xdev info state outcome 0 first (.inl h2c)⟩
  | start =>
      obtain ⟨after, ran⟩ := @vi53xxXdmaStart_completes xdev info state base outcome.uninitialised
        mapped number
      exact ⟨0, congrArg Prod.fst ran⟩
  | stop =>
      obtain ⟨after, ran, _⟩ := @xdmaStop_run xdev base (info.channel.setWidth 8) info.dir state mapped
      exact ⟨0, congrArg Prod.fst (bind_ok ran)⟩
  | reg => exact absurd rfl other
  | setting => exact ⟨0, rfl⟩
  | exit =>
      refine ⟨0, ?_⟩
      unfold runCommand getXdmaCfg
      split
      · exact congrArg Prod.fst (bind_ok (h2cDmaCfg_run (entryAt_channel first)))
      · exact congrArg Prod.fst (bind_ok (c2hDmaCfg_run (entryAt_channel first)))

theorem request_completes (buffered : Buffered attempt xdev) (number : info.channel = 1)
    (other : cmd ≠ .reg) :
    ∃ ret next, request xdev cmd info outcome user state = (.ok ret, next) := by
  have answered : ∃ ret, (request xdev cmd info outcome user state).1 = .ok ret := by
    unfold request
    by_cases copied : outcome.infoMissed = 0
    · rw [answer_ioctl copied]
      exact runCommand_completes buffered number other
    · rw [answer_unread copied]
      exact ⟨_, rfl⟩
  obtain ⟨ret, answered⟩ := answered
  exact ⟨ret, _, Prod.ext answered rfl⟩

/-! ## Requests that copy bytes -/

theorem copyFromUser_cell {block start size place : Nat} {buf : BitVec 64} :
    (copyFromUser (some block) start buf size 0 state).2.buffers block place =
      if start ≤ place ∧ place < start + size then
        state.user (buf + BitVec.ofNat 64 (place - start))
      else state.buffers block place := by
  have offset : ((place : Int) - start).toNat = place - start := Int.toNat_sub place start
  by_cases inside : start ≤ place ∧ place < start + size
  · rw [if_pos inside]
    have covered : block = block ∧ (start : Int) ≤ place ∧ ((place : Int) - start).toNat < size := by
      omega
    refine (if_pos covered).trans ((if_pos ?_).trans ?_)
    · exact covered.2.2
    · rw [offset]
  · rw [if_neg inside]
    refine if_neg ?_
    intro covered
    obtain ⟨_, low, high⟩ := covered
    omega

theorem copyToUser_cell {block size i : Nat} {start : Int} {buf : BitVec 64} (inside : i < size)
    (addressed : size < 2 ^ 64) :
    (copyToUser (some block) start buf size 0 state).2.user (buf + BitVec.ofNat 64 i) =
      state.buffers block (start + i) := by
  have offset : (buf + BitVec.ofNat 64 i - buf).toNat = i := by
    rw [BitVec.add_comm, BitVec.add_sub_cancel, BitVec.toNat_ofNat]
    exact Nat.mod_eq_of_lt (Nat.lt_trans inside addressed)
  refine (if_pos ?_).trans ?_
  · rw [offset]
    exact inside
  · rw [offset]

theorem small_of_inRange (buffered : Buffered attempt xdev) (inRange : InRange xdev info) :
    posInt info = info.pos.toNat :=
  posInt_eq (by have small := buffered.small; have bounded := inRange.2; omega)

theorem piece_bytes {i : Nat} (inside : i < info.len.toNat) :
    ∃ there : i < (piece info user).bytes.length,
      (piece info user).bytes[i] = user (info.buf + BitVec.ofNat 64 i) := by
  refine ⟨by simpa [piece] using inside, ?_⟩
  simp only [piece, List.getElem_map, List.getElem_range]

theorem piece_length : (piece info user).bytes.length = info.len.toNat := by
  simp only [piece, List.length_map, List.length_range]

/-- A write in range splices its bytes into the buffer, and touches no other. -/
theorem request_init (buffered : Buffered attempt xdev) (inRange : InRange xdev info)
    (copied : outcome.infoMissed = 0) (whole : outcome.dataMissed = 0) :
    ∃ next, request xdev .init info outcome user state = (.ok 0, next) ∧
      (∀ place : Nat, next.buffers (attempt + 2) place =
        splice (fun place => state.buffers (attempt + 2) place) (piece info user) place) ∧
      ∀ other, other ≠ attempt + 2 → next.buffers other = state.buffers other := by
  have position := small_of_inRange buffered inRange
  have ran := @runCommand_transfer .write xdev info { state with user } outcome 0 inRange.1
  rw [Transfer.cfgs, buffered.h2c, whole] at ran
  unfold request
  rw [answer_ioctl copied]
  refine ⟨_, ran, ?_, ?_⟩
  · intro place
    have cell := @copyFromUser_cell { state with
      user, trace := Access.h2cDmaCfg (info.channel.toInt - 1) :: state.trace } (attempt + 2)
      info.pos.toNat info.len.toNat place info.buf
    dsimp only [Transfer.copy]
    rw [position]
    refine cell.trans ?_
    by_cases inside : info.pos.toNat ≤ place ∧ place < info.pos.toNat + info.len.toNat
    · obtain ⟨i, rfl⟩ := Nat.exists_eq_add_of_le inside.1
      obtain ⟨there, byte⟩ := @piece_bytes info user i (Nat.lt_of_add_lt_add_left inside.2)
      rw [if_pos inside, Nat.add_sub_cancel_left]
      exact byte.symm.trans (splice_inside there).symm
    · have outside : ¬ ((piece info user).pos ≤ place ∧
          place < (piece info user).pos + (piece info user).bytes.length) := by
        rw [piece_length]
        exact inside
      rw [if_neg inside]
      exact (@splice_outside _ (fun place : Nat => state.buffers (attempt + 2) place)
        (piece info user) place outside).symm
  · intro other different
    funext place
    refine if_neg ?_
    intro here
    exact different here.1

/-- A read answers with the bytes of the buffer. -/
theorem request_read {transfer : Transfer} {block : Nat} (reads : transfer ≠ .write)
    (number : info.channel = BitVec.ofNat 32 (index.val + 1))
    (allocated : (transfer.cfgs xdev index).pData 0 = some block) :
    ∃ after, request xdev transfer.cmd info .complete user state = (.ok 0, after) ∧
      ∀ i < info.len.toNat, after.user (info.buf + BitVec.ofNat 64 i) =
        state.buffers block (posInt info + i) := by
  have ran := @runCommand_transfer transfer xdev info { state with user } .complete index number
  rw [allocated] at ran
  unfold request
  rw [answer_ioctl rfl]
  cases transfer with
  | write => exact absurd rfl reads
  | read | dump =>
      refine ⟨_, ran, ?_⟩
      intro i inside
      exact copyToUser_cell inside info.len.isLt

/-! ## The store -/

/-- A store of bytes, and beside it the buffers that are filled from the card. -/
structure Store where
  cells : Nat → BitVec 8
  filled : Fin xdmaChannelNum → Int → BitVec 8

def Store.step (store : Store) (step : StoreStep) : Store where
  cells := (step.piece.map (splice store.cells)).getD store.cells
  filled := putByCard store.filled step

theorem Store.foldl_step {store : Store} {steps : List StoreStep} :
    steps.foldl Store.step store =
      ⟨(pieces steps).foldl splice store.cells, steps.foldl putByCard store.filled⟩ := by
  induction steps generalizing store with
  | nil => rfl
  | cons step rest ih =>
      rw [List.foldl_cons, ih]
      cases written : step.piece with
      | none =>
          have none : (store.step step).cells = store.cells := by
            simp only [Store.step, written, Option.map_none, Option.getD_none]
          have unwritten : pieces (step :: rest) = pieces rest := List.filterMap_cons_none written
          rw [none, unwritten]
          rfl
      | some piece =>
          have spliced : (store.step step).cells = splice store.cells piece := by
            simp only [Store.step, written, Option.map_some, Option.getD_some]
          have grown : pieces (step :: rest) = piece :: pieces rest := List.filterMap_cons_some written
          rw [spliced, grown]
          rfl

/-- The board's buffers hold what the store says. -/
structure Holds (attempt : Nat) (xdev : XdmaDev) (store : Store) (state : Kernel) : Prop where
  cells : ∀ place : Nat, place < (xdev.h2cDmaCfg 0).size.toNat →
    state.buffers (attempt + 2) place = store.cells place
  filled : ∀ index : Fin xdmaChannelNum,
    state.buffers (attempt + 4 * index.val) = store.filled index

theorem Holds.keeps {store : Store} {next : Kernel} (holds : Holds attempt xdev store state)
    (kept : next.buffers = state.buffers) : Holds attempt xdev store next where
  cells := by
    rw [kept]
    exact holds.cells
  filled := by
    rw [kept]
    exact holds.filled

theorem Holds.init {store : Store} (buffered : Buffered attempt xdev)
    (holds : Holds attempt xdev store state)
    (permitted : Permitted xdev (.request .init info outcome user)) :
    ∃ next, storeStep xdev state (.request .init info outcome user) = some next ∧
      Holds attempt xdev (store.step (.request .init info outcome user)) next := by
  obtain ⟨inRange, copied, whole⟩ := permitted
  obtain ⟨next, ran, written, others⟩ :=
    @request_init xdev info outcome state user attempt buffered inRange copied whole
  refine ⟨next, by simp only [storeStep, ran], ?_, ?_⟩
  · intro place inside
    rw [written place]
    change _ = splice store.cells (piece info user) place
    rw [splice, splice, holds.cells place inside]
  · intro index
    rw [others _ (by have two := index.isLt; omega)]
    exact holds.filled index

theorem Holds.card {store : Store} {bytes : Int → BitVec 8} (buffered : Buffered attempt xdev)
    (holds : Holds attempt xdev store state) :
    Holds attempt xdev (store.step (.card index bytes)) (cardFills xdev index bytes state) := by
  unfold cardFills
  rw [buffered.c2h index]
  refine ⟨?_, ?_⟩
  · intro place inside
    have apart : attempt + 2 ≠ attempt + 4 * index.val := by omega
    exact (congrFun (if_neg apart) _).trans (holds.cells place inside)
  · intro other
    by_cases same : other = index
    · subst same
      exact (if_pos rfl).trans (if_pos rfl).symm
    · have apart : attempt + 4 * other.val ≠ attempt + 4 * index.val := by
        intro equal
        exact same (Fin.ext (by omega))
      exact ((if_neg apart).trans (holds.filled other)).trans (if_neg same).symm

theorem Holds.other {store : Store} (buffered : Buffered attempt xdev)
    (holds : Holds attempt xdev store state) (number : info.channel = 1) (read : cmd ≠ .init)
    (known : cmd ≠ .reg) :
    ∃ next, storeStep xdev state (.request cmd info outcome user) = some next ∧
      Holds attempt xdev store next := by
  obtain ⟨ret, next, ran⟩ := @request_completes xdev info outcome cmd state user attempt buffered
    number known
  have kept := @request_keeps xdev info outcome cmd state user read
  rw [ran] at kept
  exact ⟨next, by simp only [storeStep, ran], holds.keeps kept⟩

/-- Every permitted step can be taken, and the store follows it. -/
theorem Holds.step {store : Store} {step : StoreStep} (buffered : Buffered attempt xdev)
    (holds : Holds attempt xdev store state) (permitted : Permitted xdev step) :
    ∃ next, storeStep xdev state step = some next ∧ Holds attempt xdev (store.step step) next := by
  cases step with
  | card index bytes => exact ⟨_, rfl, holds.card buffered⟩
  | request cmd info outcome user =>
      cases cmd with
      | init => exact holds.init buffered permitted
      | reg => exact permitted.elim
      | start | stop | print | setting | exit | dump =>
          exact holds.other buffered permitted nofun nofun

/-! ## After a probe -/

variable {answers : Nat → Option (BitVec 64)} {idx : Nat} {bars : Fin xdmaBarNum → Option Nat}
  {before start : Kernel} {steps : List StoreStep}

/-- A probe leaves every buffer that it has memory for, and the one to the card cleared. -/
theorem probed_holds
    (probed : xdmaChannelInit answers (XdmaDev.allocated idx bars) before = (.ok xdev, start))
    (succeed : ∀ i < 6, (answers (before.allocated + i)).isSome) :
    Buffered before.allocated xdev ∧
      Holds before.allocated xdev ⟨fun _ => 0, c2hBytes xdev start⟩ start := by
  have ready := (xdmaChannelInit_ready probed).1
  obtain ⟨base, mapped⟩ := Option.isSome_iff_exists.mp ready.mapped
  obtain ⟨_, first, second, _, again, _, same, _, firstC2h, firstH2c, secondC2h⟩ :=
    @xdmaChannelInit_prepared answers bars idx base mapped before
  cases probed.symm.trans again
  have allocated : ∀ i < 6, (answers (before.allocated + i)).map (fun _ => before.allocated + i) =
      some (before.allocated + i) := by
    intro i below
    obtain ⟨phys, succeeded⟩ := Option.isSome_iff_exists.mp (succeed i below)
    rw [succeeded]
    rfl
  have buffered : Buffered before.allocated xdev := by
    refine ⟨ready.firstH2c.pData.trans (allocated 2 (by decide)), ?_, ?_, ?_⟩
    · intro index
      match index with
      | 0 => exact ready.firstC2h.pData.trans (allocated 0 (by decide))
      | 1 => exact ready.secondC2h.pData.trans (allocated 4 (by decide))
    · rw [ready.firstH2c.size]
      decide
    · exact ⟨base, (congrFun same 1).trans mapped⟩
  refine ⟨buffered, ?_, ?_⟩
  · intro place inside
    have cleared := firstH2c.cleared (by
      rw [firstC2h.allocated]
      exact succeed 2 (by decide))
    rw [firstC2h.allocated] at cleared
    have later := secondC2h.spares.cleared (by
      rw [firstH2c.allocated, firstC2h.allocated]
      omega) cleared
    exact later place (Int.natCast_nonneg place) (Int.ofNat_lt.mpr inside)
  · intro index
    simp only [c2hBytes, buffered.c2h index]

theorem Holds.serves {written : List (Piece (BitVec 8))}
    {filled : Fin xdmaChannelNum → Int → BitVec 8} (buffered : Buffered attempt xdev)
    (holds : Holds attempt xdev ⟨written.foldl splice fun _ => 0, filled⟩ state) :
    ServesBytes xdev written filled state where
  dump := by
    intro info user inRange
    obtain ⟨after, ran, read⟩ := @request_read xdev info state user 0 .dump (attempt + 2) (by decide)
      inRange.1 buffered.h2c
    refine ⟨after, ran, ?_⟩
    intro i inside
    rw [read i inside, small_of_inRange buffered inRange]
    have place : (info.pos.toNat : Int) + i = ((info.pos.toNat + i : Nat) : Int) := by omega
    rw [place, holds.cells _ (by have bounded := inRange.2; omega)]
    exact foldl_splice
  print := by
    intro index info user number _
    obtain ⟨after, ran, read⟩ := @request_read xdev info state user index .read _ (by decide) number
      (buffered.c2h index)
    refine ⟨after, ran, ?_⟩
    intro i inside
    rw [read i inside, holds.filled index]
  others := fun _ _ _ _ other => request_keeps other

/-- After a probe with all its memory, every sequence of requests for channel 1 whose
writes are in range is served: within the buffers `DUMP` answers with what has been written
last, `PRINT` with what has come from the card, and only `INIT` writes a buffer. -/
theorem in_range_byte_store
    (probed : xdmaChannelInit answers (XdmaDev.allocated idx bars) before = (.ok xdev, start))
    (succeed : ∀ i < 6, (answers (before.allocated + i)).isSome)
    (permitted : ∀ step ∈ steps, Permitted xdev step) :
    ∃ state, runFrom (storeStep xdev) start steps = some state ∧
      ServesBytes xdev (pieces steps) (steps.foldl putByCard (c2hBytes xdev start)) state := by
  obtain ⟨buffered, holds⟩ := probed_holds probed succeed
  obtain ⟨state, ran, last⟩ := @simulation Kernel StoreStep (storeStep xdev) Store Store.step
    (Holds before.allocated xdev) (fun _ step => Permitted xdev step) _ start steps
    (fun _ _ _ holds permitted => holds.step buffered permitted) holds
    (eachStep_of_forall permitted) steps [] (List.append_nil steps).symm
  rw [Store.foldl_step] at last
  exact ⟨state, ran, last.serves buffered⟩

def bytesAt (pos len : BitVec 64) : XdmaInfo :=
  { XdmaInfo.cleared with channel := 1, buf := 1, pos, len }

/-- Two writes that overlap, with other requests between them. -/
def overlapping : List StoreStep :=
  [.request .init (bytesAt 0x1FFC 4) .complete fun _ => 7,
    .request .start (bytesAt 0 0) .complete fun _ => 0,
    .request .init (bytesAt 0x1FFD 1) .complete fun _ => 9,
    .request .print (bytesAt 0 16) .complete fun _ => 0]

theorem in_range_byte_store_overlapping :
    ∃ xdev start,
      xdmaChannelInit (fun _ => some 0) (.allocated 0 fun _ => some 1) .booted = (.ok xdev, start) ∧
      ∃ state, runFrom (storeStep xdev) start overlapping = some state ∧
        ServesBytes xdev (pieces overlapping) (overlapping.foldl putByCard (c2hBytes xdev start))
          state := by
  obtain ⟨xdev, start, probed, ready, _⟩ :=
    @xdmaChannelInit_run (fun _ => some 0) 1 0 (fun _ => some 1) .booted rfl
  refine ⟨xdev, start, probed, in_range_byte_store probed (fun _ _ => rfl) ?_⟩
  have inRange : ∀ info, info = bytesAt 0x1FFC 4 ∨ info = bytesAt 0x1FFD 1 → InRange xdev info := by
    intro info same
    unfold InRange
    rw [ready.firstH2c.size]
    rcases same with rfl | rfl
    · decide
    · decide
  intro step member
  simp only [overlapping, List.mem_cons, List.not_mem_nil, or_false] at member
  rcases member with rfl | rfl | rfl | rfl
  · exact ⟨inRange _ (.inl rfl), rfl, rfl⟩
  · rfl
  · exact ⟨inRange _ (.inr rfl), rfl, rfl⟩
  · rfl

end Vi53xx.Driver
