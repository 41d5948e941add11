import Vi53xx.Driver.IsolationProperties
import Vi53xx.System.StackRefinement

/-! A process with boards that the driver has probed, and what it sees of them: which ones
it has open, and for these the registers and the bytes that the abstract system has. -/

set_option autoImplicit false

namespace Vi53xx.System

open Foundation Driver

variable {devices : Nat → Option Board} {boards : List Lib.DeviceInfo} {wiring : Wiring}
  {spec : BoardSystem} {state : Stack}

/-- The boards of the table are boards that the driver holds, with their device files and
all their buffers. -/
structure Attached (machine : Machine) (boards : List Lib.DeviceInfo) (wiring : Wiring) : Prop where
  filed : Filed machine.plugged.registry boards wiring
  board : ∀ info ∈ boards, ∃ board, machine.boards (wiring.place info.boardId) = some board ∧
    board.hold.bar 0 = some (wiring.block info.boardId 0) ∧
    board.hold.bar 1 = some (wiring.block info.boardId 1) ∧
    BarLengths (wiring.length info.boardId) board.length ∧
    (board.xdev.h2cDmaCfg 0).pData 0 = some (wiring.store info.boardId) ∧
    ∀ index, ((board.xdev.c2hDmaCfg index).pData 0).isSome
  apart : ∀ left ∈ boards, ∀ right ∈ boards, ∀ bar other : BitVec 32, (bar = 0 ∨ bar = 1) →
    (other = 0 ∨ other = 1) → wiring.block left.boardId bar = wiring.block right.boardId other →
      left.boardId = right.boardId ∧ bar = other

/-- What a process can see of a state: which boards are open, and for these what it reads
from a register, and what it gets back of the bytes it has given. -/
structure Shows (boards : List Lib.DeviceInfo) (wiring : Wiring) (spec : BoardSystem) (state : Stack) :
    Prop where
  isOpen : ∀ info ∈ boards,
    (Lib.getDevHandle state.lib info.boardId).isSome = spec.isOpen info.boardId
  reads : ∀ info ∈ boards, spec.isOpen info.boardId = true → ∀ bar : BitVec 32, bar = 0 ∨ bar = 1 →
    ∀ offset, RegisterInside (wiring.length info.boardId bar) offset → ∀ addr stack user, ∃ next,
      stackStep state
        (.board info.boardId (.transfer (.readRegister bar offset addr)) stack .complete user) = some next ∧
      wordAt next.machine.kernel.user addr = spec.regs info.boardId bar offset
  dumps : ∀ info ∈ boards, spec.isOpen info.boardId = true → ∀ buff pos len : BitVec 64, buff ≠ 0 →
    pos.toNat + len.toNat ≤ dataSize → ∀ stack user, ∃ next,
      stackStep state
        (.board info.boardId (.transfer (.buffer .dump 1 buff pos len)) stack .complete user) = some next ∧
      ∀ i < len.toNat, next.machine.kernel.user (buff + BitVec.ofNat 64 i) =
        spec.cells info.boardId (pos.toNat + i)

def BoardSystem.start (wiring : Wiring) (kernel : Kernel) : BoardSystem where
  isOpen := fun _ => false
  regs := fun boardId bar offset => kernel.regs (wiring.block boardId bar) offset
  cells := fun boardId place => kernel.buffers (wiring.store boardId) place

theorem unchained_of_ready {answers : Nat → Option (BitVec 64)} {attempt idx : Nat}
    {bars : Fin xdmaBarNum → Option Nat} {xdev : XdmaDev} (ready : Ready answers attempt idx bars xdev) :
    Unchained xdev := by
  have single : ∀ cfg : XdmaCfgInfo, cfg.sgDescNum = descNum → ¬ 1 < cfg.sgDescNum := by
    intro cfg one
    rw [one]
    decide
  intro dir index
  match dir, index with
  | 0, 0 => exact single _ ready.firstH2c.sgDescNum
  | 1, 0 => exact single _ ready.firstC2h.sgDescNum
  | 1, 1 => exact single _ ready.secondC2h.sgDescNum
  | 0, 1 =>
      have unused : xdev.cfg 0 1 = unset 0 1 := ready.secondH2c
      rw [unused]
      decide

theorem sized_of_ready {answers : Nat → Option (BitVec 64)} {attempt idx : Nat}
    {bars : Fin xdmaBarNum → Option Nat} {xdev : XdmaDev} (ready : Ready answers attempt idx bars xdev) :
    (xdev.h2cDmaCfg 0).size.toNat = dataSize := by
  rw [ready.firstH2c.size]
  rfl

theorem sizes_of_ready {answers : Nat → Option (BitVec 64)} {attempt idx : Nat}
    {bars : Fin xdmaBarNum → Option Nat} {xdev : XdmaDev} (ready : Ready answers attempt idx bars xdev) :
    ∀ index, (xdev.c2hDmaCfg index).size.toNat = cardSize index := by
  intro index
  match index with
  | 0 => rw [ready.firstC2h.size]; rfl
  | 1 => rw [ready.secondC2h.size]; rfl

theorem block_of_setUp {answers : Nat → Option (BitVec 64)} {attempt block : Nat} {dir : Fin 2}
    {index : Fin xdmaChannelNum} {cfg : XdmaCfgInfo} (setUp : SetUp answers attempt dir index cfg)
    (allocated : cfg.pData 0 = some block) : block = attempt := by
  rw [setUp.pData] at allocated
  obtain ⟨_, _, same⟩ := Option.map_eq_some_iff.mp allocated
  exact same.symm

theorem buffered_of_ready {answers : Nat → Option (BitVec 64)} {attempt idx store : Nat}
    {bars : Fin xdmaBarNum → Option Nat} {xdev : XdmaDev} (ready : Ready answers attempt idx bars xdev)
    (h2c : (xdev.h2cDmaCfg 0).pData 0 = some store)
    (c2h : ∀ index, ((xdev.c2hDmaCfg index).pData 0).isSome) :
    Buffered attempt xdev ∧ store = attempt + 2 := by
  have here := block_of_setUp ready.firstH2c h2c
  refine ⟨⟨by rw [h2c, here], ?_, ?_, ?_⟩, here⟩
  · intro index
    obtain ⟨block, given⟩ := Option.isSome_iff_exists.mp (c2h index)
    match index with
    | 0 => rw [given, block_of_setUp ready.firstC2h given]; rfl
    | 1 => rw [given, block_of_setUp ready.secondC2h given]; rfl
  · rw [sized_of_ready ready]
    decide
  · rw [ready.bar]
    exact Option.isSome_iff_exists.mp ready.mapped

/-- The driver has run, and the library has loaded a table of boards that are attached. -/
structure Started (answers : Nat → Option (BitVec 64)) (boards : List Lib.DeviceInfo)
    (wiring : Wiring) (state : Stack) : Prop where
  driven : ∃ procs major kernel plugs,
    runFrom (machineStep answers) (Machine.start procs major kernel) plugs = some state.machine
  checked : ∃ env before, before.initCheckOk = false ∧
    Lib.checkBoardsInfo env before = .ok (0, state.lib)
  searched : Lib.searchedBoards state.lib = .ok boards
  known : boards ≠ []
  attached : Attached state.machine boards wiring

variable {answers : Nat → Option (BitVec 64)}

/-- The driver has given each board a buffer of its own. -/
theorem Started.wired (started : Started answers boards wiring state) :
    Wired state.machine.boards boards wiring := by
  obtain ⟨procs, major, kernel, plugs, driven⟩ := started.driven
  have accounted := accounted_start.run driven
  refine ⟨?_, ?_, started.attached.apart, ?_⟩
  · intro info member
    exact pathOf_fits driven (fileBoard_eq_some_iff.mp (started.attached.filed info member)).2.1
  · intro info member
    obtain ⟨board, found, first, second, lengths, h2c, c2h⟩ := started.attached.board info member
    obtain ⟨attempt, ready⟩ := (accounted.whole _ board found).2.ready
    refine ⟨board, found, ?_, lengths, unchained_of_ready ready,
      ⟨attempt, buffered_of_ready ready h2c c2h⟩, sized_of_ready ready, sizes_of_ready ready⟩
    intro bar known
    rw [ready.bar]
    rcases known with rfl | rfl
    · exact congrArg some first
    · exact congrArg some second
  · intro left member right other same
    obtain ⟨board, found, first, _, _, h2c, _⟩ := started.attached.board left member
    obtain ⟨neighbour, known, second, _, _, theirs, _⟩ := started.attached.board right other
    by_cases together : wiring.place right.boardId = wiring.place left.boardId
    · rw [together, found] at known
      cases known
      have bars : wiring.block left.boardId 0 = wiring.block right.boardId 0 :=
        Option.some.inj (first.symm.trans second)
      exact (started.attached.apart left member right other 0 0 (.inl rfl) (.inl rfl) bars).1
    · rw [← same] at theirs
      exact absurd ⟨0, 0, h2c⟩ (accounted.blocks_apart (fresh_run fresh_start driven)
        (held_distinct driven) found known together ⟨0, 0, theirs⟩)

theorem Started.start (started : Started answers boards wiring state) :
    Matches state.machine.boards boards wiring (BoardSystem.start wiring state.machine.kernel) state := by
  obtain ⟨env, before, clear, checked⟩ := started.checked
  have outcome := Lib.checkBoardsInfo_checked checked
  have empty := (outcome.reset clear).1
  refine ⟨⟨_, Lib.Simulates.start outcome clear started.searched started.known, fun _ => rfl, ?_⟩, ?_,
    started.attached.filed, fun _ _ => rfl, fun _ _ _ _ _ => rfl, fun _ _ _ => rfl⟩
  · intro boardId fd held
    cases held
  · exact Lib.Owning.cleared (by simp [empty])

theorem Matches.shows (matched : Matches devices boards wiring spec state) (known : boards ≠ [])
    (wired : Wired devices boards wiring) : Shows boards wiring spec state := by
  -- A call about an open board that is passed on comes to the device of the board.
  have reached : ∀ info ∈ boards, spec.isOpen info.boardId = true → ∀ (call : BoardCall) (stack : XdmaInfo)
      (user : BitVec 64 → BitVec 8), call.Passed →
      call.Usable (wiring.length info.boardId) .complete → ∃ board : Board,
        wiring.Fits info.boardId board ∧
        ∀ ret final, answer board.xdev (.ioctl (rtpcIoctlXdma call.cmd) (call.info stack) .complete)
            { state.machine.kernel with user } = (.ok ret, final) →
          stackStep state (.board info.boardId call stack .complete user) =
            some { state with machine := { state.machine with kernel := final } } := by
    intro info member isOpen call stack user passed usable
    rcases @Matches.sent devices boards wiring spec state info.boardId call stack matched known with
      ⟨closed, _⟩ | ⟨_, _, fd, file, sent⟩
    · rw [isOpen] at closed
      cases closed
    · obtain ⟨board, found, fitted⟩ := wired.device info member
      refine ⟨board, fitted, ?_⟩
      intro ret final ran
      rw [stackStep, sent, boardCall_passed passed]
      rw [← matched.heap info member] at found
      exact ioctl_answered file found (fun _ => boardCall_inside fitted.lengths fitted.unchained
        fitted.sized fitted.sizes usable passed) ran
  refine ⟨?_, ?_, ?_⟩
  · intro info _
    obtain ⟨map, simulates, shown, _⟩ := matched.table
    obtain ⟨counted, _⟩ := simulates.tabled.searched simulates.searched known
    rw [simulates.tabled.getDevHandle_eq counted, shown, ← simulates.handles, Option.isSome_map]
  · intro info member isOpen bar inside offset register addr stack user
    obtain ⟨board, fitted, steps⟩ := reached info member isOpen
      (.transfer (.readRegister bar offset addr)) stack user inside register
    obtain ⟨ret, final, ran, _, word⟩ := @readRegister_regs (wiring.block info.boardId) board.xdev
      { state.machine.kernel with user } stack .complete bar offset addr fitted.mapped inside rfl
    refine ⟨_, steps ret final ran, ?_⟩
    rw [← matched.regs info member bar inside offset]
    exact word rfl
  · intro info member isOpen buff pos len pointed inside stack user
    obtain ⟨board, fitted, steps⟩ := reached info member isOpen
      (.transfer (.buffer .dump 1 buff pos len)) stack user ⟨pointed, by decide⟩ ⟨rfl, inside⟩
    obtain ⟨attempt, buffered, store⟩ := fitted.buffered
    obtain ⟨final, ran, bytes⟩ := @request_read board.xdev (Lib.bufferInfo stack 1 buff pos len)
      state.machine.kernel user 0 .dump (attempt + 2) (by decide) rfl buffered.h2c
    refine ⟨_, steps 0 final ran, ?_⟩
    intro i below
    have inRange : InRange board.xdev (Lib.bufferInfo stack 1 buff pos len) :=
      ⟨rfl, by rw [fitted.sized]; exact inside⟩
    have position := small_of_inRange buffered inRange
    refine (bytes i below).trans ?_
    rw [position, ← store]
    exact matched.cells info member (pos.toNat + i)

end Vi53xx.System
