import Vi53xx.Driver.FreedOnceProperties
import Vi53xx.Driver.InsideProperties

/-! Boards do not meet. In every state the driver comes to, a request on one board that
stays inside its buffers and BARs touches memory that this board holds and nothing that
belongs to another one. -/

set_option autoImplicit false

namespace Vi53xx.Driver

open Foundation

/-- The block of DMA memory that an access comes to, if it comes to one. -/
def Access.block : Access → Option Nat
  | .h2cDmaCfg _ | .c2hDmaCfg _ | .bar _ _ => none
  | .buffer block _ _ => some block
  | .setMemoryUc pData | .dmaCommonMmap pData => pData

/-- What a request on a board has done keeps to the board: to blocks that it holds, to
the bytes inside them and to the registers inside its BARs. -/
structure Confines (state : Machine) (xpdev : Nat) (board : Board) (mapping : Nat) (after : Kernel) :
    Prop where
  touches : ∀ access ∈ after.trace, ∀ block, access.block = some block →
    ∃ phys, .dma block phys ∈ state.held xpdev ∧ .dma block phys ∉ state.ledger.returned
  inside : ∀ access ∈ after.trace, access.Inside board.xdev mapping
  bytes : ∀ block place, ¬ board.xdev.HasByte block place →
    after.buffers block place = state.kernel.buffers block place
  buffers : ∀ other neighbour dir index block, other ≠ xpdev → state.boards other = some neighbour →
    neighbour.xdev.buffer dir index = some block →
      after.buffers block = state.kernel.buffers block
  flags : ∀ other, other ≠ xpdev → after.fmap other = state.kernel.fmap other
  tables : after.descs = state.kernel.descs
  regs : ∀ base offset, ¬ board.xdev.HasReg board.length base offset →
    after.regs base offset = state.kernel.regs base offset

variable {answers : Nat → Option (BitVec 64)} {stuck : List Resource} {state : Machine}
  {xpdev other block mapping : Nat} {board neighbour : Board} {xdev : XdmaDev} {kernel : Kernel}

theorem Access.Own.has {access : Access} (own : access.Own xdev) (touched : access.block = some block) :
    xdev.Has block := by
  cases access with
  | h2cDmaCfg | c2hDmaCfg | bar => cases touched
  | buffer =>
      cases touched
      exact own
  | setMemoryUc | dmaCommonMmap => exact own block touched

theorem Ready.single {attempt idx : Nat} {bars : Fin xdmaBarNum → Option Nat} {dir : Fin 2}
    {index : Fin xdmaChannelNum} (ready : Ready answers attempt idx bars xdev)
    (buffer : xdev.buffer dir index = some block) : (xdev.cfg dir index).sgDescNum = descNum := by
  obtain ⟨offset, known, _⟩ := ready.buffer_offset buffer
  match dir, index with
  | 0, 0 => exact ready.firstH2c.sgDescNum
  | 1, 0 => exact ready.firstC2h.sgDescNum
  | 1, 1 => exact ready.secondC2h.sgDescNum
  | 0, 1 => cases known

theorem bufferBlocks_memory {item : Resource} : ∀ (dir : Fin 2) (index : Fin xdmaChannelNum),
    item ∈ (xdev.cfg dir index).bufferBlocks → item ∈ xdev.memory := by
  refine Fin.forall_fin_two.mpr ⟨Fin.forall_fin_two.mpr ⟨?_, ?_⟩, Fin.forall_fin_two.mpr ⟨?_, ?_⟩⟩
  · intro listed
    simp [XdmaDev.memory, listed]
  · intro listed
    simp [XdmaDev.memory, listed]
  · intro listed
    simp [XdmaDev.memory, listed]
  · intro listed
    simp [XdmaDev.memory, listed]

theorem Ready.has_memory {attempt idx : Nat} {bars : Fin xdmaBarNum → Option Nat}
    (ready : Ready answers attempt idx bars xdev) (has : xdev.Has block) :
    ∃ phys, .dma block phys ∈ xdev.memory := by
  obtain ⟨dir, index, buffer⟩ := has
  refine ⟨(xdev.cfg dir index).dataPhyAddr 0, bufferBlocks_memory dir index ?_⟩
  rw [bufferBlocks_single (ready.single buffer), XdmaCfgInfo.bufferAt]
  have found : (xdev.cfg dir index).pData 0 = some block := buffer
  simp [found]

/-! ## Holdings -/

theorem Accounted.has_held (accounted : Accounted answers stuck state)
    (found : state.boards xpdev = some board) (has : board.xdev.Has block) :
    ∃ phys, .dma block phys ∈ state.held xpdev ∧ .dma block phys ∈ state.holdings := by
  obtain ⟨listed, whole⟩ := accounted.whole xpdev board found
  obtain ⟨attempt, ready⟩ := whole.ready
  obtain ⟨phys, member⟩ := ready.has_memory has
  have held : .dma block phys ∈ state.held xpdev := by
    rw [held_board found]
    exact List.mem_append_left _ member
  exact ⟨phys, held, List.mem_flatMap.mpr ⟨xpdev, listed, held⟩⟩

theorem Accounted.held_taken {item : Resource} (accounted : Accounted answers stuck state)
    (member : item ∈ state.holdings) : item ∈ state.ledger.taken :=
  accounted.accounts.mem_iff.mpr (List.mem_append_right _ (List.mem_append_left stuck member))

theorem Accounted.block_old (accounted : Accounted answers stuck state) (fresh : state.Fresh answers)
    (found : state.boards xpdev = some board) (has : board.xdev.Has block) :
    block < state.kernel.allocated := by
  obtain ⟨phys, _, held⟩ := accounted.has_held found has
  exact (fresh.old _ (accounted.held_taken held)).1

/-- No two boards have a block in common. -/
theorem Accounted.blocks_apart (accounted : Accounted answers stuck state)
    (fresh : state.Fresh answers) (distinct : (state.holdings.filter Resource.memory).Nodup)
    (found : state.boards xpdev = some board) (known : state.boards other = some neighbour)
    (different : other ≠ xpdev) (neighbours : neighbour.xdev.Has block) :
    ¬ board.xdev.Has block := by
  intro has
  obtain ⟨phys, mine, held⟩ := accounted.has_held found has
  obtain ⟨place, theirs, alsoHeld⟩ := accounted.has_held known neighbours
  have same : phys = place := by
    have first := (fresh.old _ (accounted.held_taken held)).2
    have second := (fresh.old _ (accounted.held_taken alsoHeld)).2
    exact Option.some.inj (first.symm.trans second)
  subst same
  rw [Machine.holdings, List.filter_flatMap] at distinct
  have separate := Ledger.holdings_apart distinct (accounted.whole xpdev board found).1
    (accounted.whole other neighbour known).1 different.symm
  exact separate (List.mem_filter.mpr ⟨mine, rfl⟩) (List.mem_filter.mpr ⟨theirs, rfl⟩)

/-- In every state the driver comes to, a request on a board that stays inside its buffers
and BARs, with a mapping no longer than its buffer, keeps to the board. -/
theorem requests_confined {procs : ProcOutcome} {major : Fin boardTepeNum → BitVec 32}
    {calls : List MachineCall} {request : Request}
    (ran : runFrom (machineStep answers) (Machine.start procs major kernel) calls = some state)
    (found : state.boards xpdev = some board)
    (inside : request.Inside board.xdev board.length state.kernel)
    (fits : ∀ outcome, request = .mmap outcome →
      SettingFits board.xdev state.kernel.xdmaSetting mapping) :
    Confines state xpdev board mapping (answer board.xdev request state.kernel.untraced).2 := by
  have accounted := accounted_start.run ran
  obtain ⟨_, _, attempt, ready⟩ := accounted.whole xpdev board found
  have isolated := isolated_answer board.xdev request state.kernel.untraced
  have within : StaysInside board.xdev board.length mapping state.kernel.untraced
      (answer board.xdev request state.kernel.untraced).2 := inside_answer inside fits
  constructor
  · intro access member block touched
    obtain ⟨new, grown, own⟩ := isolated.logs
    rw [grown, Kernel.untraced, List.append_nil] at member
    obtain ⟨phys, held, holding⟩ := accounted.has_held found ((own access member).has touched)
    exact ⟨phys, held, held_unfreed ran holding rfl⟩
  · intro access member
    obtain ⟨new, grown, allowed⟩ := within.logs
    rw [grown, Kernel.untraced, List.append_nil] at member
    exact allowed access member
  · exact within.bytes
  · intro other neighbour dir index block different known buffer
    exact isolated.buffers block (accounted.blocks_apart (fresh_run fresh_start ran) (held_distinct ran) found
      known different ⟨dir, index, buffer⟩)
  · intro other different
    refine isolated.fmap other ?_
    rw [ready.idx]
    exact different
  · exact isolated.descs
  · exact within.regs

/-- Two boards of one type, and a request to map a buffer of the second one. -/
def twoBoards : List MachineCall :=
  [.probe es5341Env es5341Turn.pdev, .probe es5341Env { es5341Turn.pdev with bus := 2 },
    .request 1 (.ioctl (rtpcIoctlXdma .setting) { XdmaInfo.cleared with channel := 1 } .complete)]

theorem requests_confined_twoBoards :
    ∃ state board,
      runFrom (machineStep fun _ => some 0x10000) (Machine.start ⟨true, true, true⟩ givenMajors .booted)
        twoBoards = some state ∧
      state.boards 1 = some board ∧
      Confines state 1 board 0x1000 (answer board.xdev (.mmap 0) state.kernel.untraced).2 := by
  have ran : ((runFrom (machineStep fun _ => some 0x10000)
      (Machine.start ⟨true, true, true⟩ givenMajors .booted) twoBoards).bind
        fun state => (state.boards 1).filter fun board =>
          decide (Request.Inside board.xdev board.length state.kernel (.mmap 0)) &&
            decide (SettingFits board.xdev state.kernel.xdmaSetting 0x1000)).isSome = true := by
    decide +kernel
  obtain ⟨board, reached⟩ := Option.isSome_iff_exists.mp ran
  obtain ⟨state, ran, found⟩ := Option.bind_eq_some_iff.mp reached
  obtain ⟨found, bounded⟩ := Option.filter_eq_some_iff.mp found
  simp only [Bool.and_eq_true, decide_eq_true_eq] at bounded
  exact ⟨state, board, ran, found, requests_confined ran found bounded.1 fun _ _ => bounded.2⟩

end Vi53xx.Driver
