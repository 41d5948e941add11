import Vi53xx.Lib.DescriptorProperties
import Vi53xx.Lib.HandleTableRefinement
import Vi53xx.System.BoardCalls

/-! A process and its boards refine the abstract system: each open board is a set of
registers and a buffer of its own, in which the calls about the board read and write. -/

set_option autoImplicit false

namespace Vi53xx.System

open Foundation Driver

/-- Where the board of an id is: its number, the blocks and the lengths of its BARs, and the
block of its buffer. -/
structure Wiring where
  place : BitVec 32 → Nat
  block : BitVec 32 → BitVec 32 → Nat
  length : BitVec 32 → BitVec 32 → BitVec 64
  store : BitVec 32 → Nat

/-- A device with its BARs and its buffers, in which no channel has a chain. -/
structure Fitted (bases : BitVec 32 → Nat) (length : BitVec 32 → BitVec 64) (store : Nat)
    (board : Board) : Prop where
  mapped : BarsMapped bases board.xdev
  lengths : BarLengths length board.length
  unchained : Unchained board.xdev
  buffered : ∃ attempt, Buffered attempt board.xdev ∧ store = attempt + 2
  sized : (board.xdev.h2cDmaCfg 0).size.toNat = dataSize
  sizes : ∀ index, (board.xdev.c2hDmaCfg index).size.toNat = cardSize index

def Wiring.Fits (wiring : Wiring) (boardId : BitVec 32) (board : Board) : Prop :=
  Fitted (wiring.block boardId) (wiring.length boardId) (wiring.store boardId) board

/-- Each board of the table has a short path and a device of its own; no block stands for
two BARs, or for the buffers of two boards. -/
structure Wired (devices : Nat → Option Board) (boards : List Lib.DeviceInfo) (wiring : Wiring) :
    Prop where
  path : ∀ info ∈ boards, Lib.PathFits boards info.boardId
  device : ∀ info ∈ boards, ∃ board, devices (wiring.place info.boardId) = some board ∧
    wiring.Fits info.boardId board
  apart : ∀ left ∈ boards, ∀ right ∈ boards, ∀ bar other : BitVec 32, (bar = 0 ∨ bar = 1) →
    (other = 0 ∨ other = 1) → wiring.block left.boardId bar = wiring.block right.boardId other →
      left.boardId = right.boardId ∧ bar = other
  stores : ∀ left ∈ boards, ∀ right ∈ boards,
    wiring.store left.boardId = wiring.store right.boardId → left.boardId = right.boardId

/-- The descriptor is not that of an open file. -/
def Pick.Fair (pick : Pick) : Prop := ∀ fds, 0 ≤ pick fds ∧ pick fds ∉ fds

/-- Boards of the table are opened, open boards are closed, and what is asked of an open
board stays inside its buffers and BARs. -/
def Allowed (boards : List Lib.DeviceInfo) (wiring : Wiring) (spec : BoardSystem) : StackCall → Prop
  | .deviceOpen boardId pick mallocOk =>
      (∃ info ∈ boards, info.boardId = boardId) ∧ pick.Fair ∧ mallocOk = true
  | .deviceClose boardId => spec.isOpen boardId = true
  | .board boardId call _ outcome _ => spec.isOpen boardId = true → outcome.infoMissed = 0 →
      call.Passed → call.Usable (wiring.length boardId) outcome

/-- The device files of the boards are those of their devices. -/
def Filed (registry : Registry) (boards : List Lib.DeviceInfo) (wiring : Wiring) : Prop :=
  ∀ info ∈ boards,
    registry.fileBoard (Lib.devicePath boards info.boardId) = some (wiring.place info.boardId)

/-- The handle table is a map whose boards are the open ones and whose descriptors are of
their files, and the registers and buffers are those of the boards. -/
structure Matches (devices : Nat → Option Board) (boards : List Lib.DeviceInfo) (wiring : Wiring)
    (spec : BoardSystem) (state : Stack) : Prop where
  table : ∃ map, Lib.Simulates boards map state.lib ∧
    (∀ boardId, spec.isOpen boardId = (map boardId).isSome) ∧
    ∀ boardId fd, map boardId = some fd → state.files fd = some (wiring.place boardId)
  owning : Lib.Owning state.lib
  filed : Filed state.machine.plugged.registry boards wiring
  heap : ∀ info ∈ boards,
    state.machine.boards (wiring.place info.boardId) = devices (wiring.place info.boardId)
  regs : ∀ info ∈ boards, ∀ bar : BitVec 32, bar = 0 ∨ bar = 1 → ∀ offset,
    state.machine.kernel.regs (wiring.block info.boardId bar) offset = spec.regs info.boardId bar offset
  cells : ∀ info ∈ boards, ∀ place : Nat,
    state.machine.kernel.buffers (wiring.store info.boardId) place = spec.cells info.boardId place

variable {devices : Nat → Option Board} {boards : List Lib.DeviceInfo} {wiring : Wiring}
  {spec : BoardSystem} {state next : Stack} {boardId : BitVec 32} {map : HandleMap (BitVec 32) Int}
  {call : BoardCall} {stack : XdmaInfo} {outcome : CopyOutcome} {user : BitVec 64 → BitVec 8}
  {kernel final : Kernel}

/-! ### The abstract step -/

theorem step_read (isOpen : spec.isOpen boardId = true) (copied : outcome.infoMissed = 0) :
    spec.step (.board boardId call stack outcome user) = spec.take boardId call user :=
  if_pos ⟨isOpen, copied⟩

theorem step_idle (idle : spec.isOpen boardId = false ∨ outcome.infoMissed ≠ 0) :
    spec.step (.board boardId call stack outcome user) = spec := by
  refine if_neg ?_
  rintro ⟨isOpen, copied⟩
  rcases idle with closed | unread
  · rw [closed] at isOpen
    cases isOpen
  · exact unread copied

theorem write_refused (refused : ¬ call.Passed) : call.write = none := by
  cases writes : call.write with
  | none => rfl
  | some write => exact absurd (write_passed writes) refused

theorem piece_refused (refused : ¬ call.Passed) : call.piece user = none := by
  cases call with
  | transfer sent =>
      cases sent with
      | buffer kind channel buff pos len =>
          cases kind with
          | write => exact if_pos (not_not.mp refused)
          | read | dump => rfl
      | readRegister | writeRegister => rfl
  | start | stop => rfl

theorem take_refused (refused : ¬ call.Passed) : spec.take boardId call user = spec := by
  unfold BoardSystem.take
  rw [write_refused refused, piece_refused refused]
  congr
  · funext other
    split
    · next here => rw [here]; rfl
    · rfl
  · funext other
    split
    · next here => rw [here]; rfl
    · rfl

theorem taken_regs (wired : Wired devices boards wiring) {regs : Nat → BitVec 32 → BitVec 32}
    (same : ∀ info ∈ boards, ∀ bar : BitVec 32, bar = 0 ∨ bar = 1 → ∀ offset,
      regs (wiring.block info.boardId bar) offset = spec.regs info.boardId bar offset)
    (listed : ∃ info ∈ boards, info.boardId = boardId) :
    ∀ info ∈ boards, ∀ bar : BitVec 32, bar = 0 ∨ bar = 1 → ∀ offset,
      written (wiring.block boardId) regs call.write (wiring.block info.boardId bar) offset =
        (spec.take boardId call user).regs info.boardId bar offset := by
  intro info member bar known offset
  obtain ⟨target, here, rfl⟩ := listed
  simp only [BoardSystem.take]
  cases writes : call.write with
  | none =>
      refine (same info member bar known offset).trans ?_
      split
      · next ids => rw [ids]; rfl
      · rfl
  | some write =>
      obtain ⟨number, register, val⟩ := write
      have usual := write_bar writes
      simp only [written, regsAfter]
      by_cases ids : info.boardId = target.boardId
      · have before := same info member bar known offset
        rw [ids] at before ⊢
        have blocks_iff : wiring.block target.boardId bar = wiring.block target.boardId number ↔
            bar = number := by
          constructor
          · intro blocks
            exact (wired.apart target here target here bar number known usual blocks).2
          · rintro rfl
            rfl
        rw [if_pos rfl, before]
        simp only [blocks_iff]
      · have foreign : ¬ (wiring.block info.boardId bar = wiring.block target.boardId number ∧
            offset = register) := by
          rintro ⟨blocks, _⟩
          exact ids (wired.apart info member target here bar number known usual blocks).1
        rw [if_neg foreign, if_neg ids]
        exact same info member bar known offset

theorem taken_cells (wired : Wired devices boards wiring)
    (same : ∀ info ∈ boards, ∀ place : Nat,
      kernel.buffers (wiring.store info.boardId) place = spec.cells info.boardId place)
    (listed : ∃ info ∈ boards, info.boardId = boardId)
    (leaves : Leaves (wiring.block boardId) (wiring.store boardId) call kernel final) :
    ∀ info ∈ boards, ∀ place : Nat, final.buffers (wiring.store info.boardId) place =
      (spec.take boardId call kernel.user).cells info.boardId place := by
  intro info member place
  obtain ⟨target, here, rfl⟩ := listed
  simp only [BoardSystem.take]
  by_cases ids : info.boardId = target.boardId
  · have before : (fun place : Nat => kernel.buffers (wiring.store target.boardId) place) =
        spec.cells target.boardId := funext (same target here)
    rw [if_pos ids, ids, leaves.cells, before]
  · have foreign : wiring.store info.boardId ≠ wiring.store target.boardId :=
      fun stores => ids (wired.stores info member target here stores)
    rw [if_neg ids, leaves.others _ foreign]
    exact same info member place

/-! ### Opening and closing -/

theorem held_descriptor (simulates : Lib.Simulates boards map state.lib)
    (owning : Lib.Owning state.lib) {fd : Int} (held : map boardId = some fd) :
    fd ∈ state.lib.descriptors := by
  rw [← simulates.handles boardId] at held
  obtain ⟨handle, found, rfl⟩ := Option.map_eq_some_iff.mp held
  obtain ⟨slot, _, stored, _⟩ := Slots.lookup_some found
  exact owning.live slot handle stored

theorem listed_boards (simulates : Lib.Simulates boards map state.lib)
    (isOpen : map boardId ≠ none) : ∃ board ∈ boards, board.boardId = boardId := by
  obtain ⟨handle, found⟩ := Option.ne_none_iff_exists'.mp (mt simulates.absent_iff.mp isOpen)
  obtain ⟨slot, _, stored, named⟩ := Slots.lookup_some found
  obtain ⟨board, member, same⟩ := List.mem_map.mp (simulates.known slot handle stored)
  exact ⟨board, member, same.trans (by simpa using named)⟩

theorem isSome_apply_opens {fd : Int} (other : BitVec 32) :
    (map.apply (.opens boardId fd) other).isSome =
      if other = boardId then true else (map other).isSome := by
  by_cases same : other = boardId
  · subst same
    rw [if_pos rfl]
    by_cases closed : map other = none
    · rw [HandleMap.apply_opens_self closed]
      rfl
    · rw [HandleMap.apply_opens_open closed]
      exact Option.isSome_iff_ne_none.mpr closed
  · rw [HandleMap.apply_opens_other same, if_neg same]

theorem Matches.opened {pick : Pick} {mallocOk : Bool} (matched : Matches devices boards wiring spec state)
    (wired : Wired devices boards wiring)
    (allowed : Allowed boards wiring spec (.deviceOpen boardId pick mallocOk)) :
    ∃ next, stackStep state (.deviceOpen boardId pick mallocOk) = some next ∧
      Matches devices boards wiring (spec.step (.deviceOpen boardId pick mallocOk)) next := by
  obtain ⟨map, simulates, shown, filed⟩ := matched.table
  obtain ⟨listed, fair, memory⟩ := allowed
  obtain ⟨nonnegative, fresh⟩ := fair state.lib.descriptors
  have file : state.machine.plugged.registry.fileBoard (Lib.devicePath boards boardId) =
        some (wiring.place boardId) ∧ Lib.PathFits boards boardId := by
    obtain ⟨board, member, rfl⟩ := listed
    exact ⟨matched.filed board member, wired.path board member⟩
  obtain ⟨node, fits⟩ := file
  have given : (fileEnv state.machine.plugged.registry (pick state.lib.descriptors) mallocOk).openFile
      (Lib.devicePath boards boardId) = pick state.lib.descriptors := by
    simp [fileEnv, node]
  obtain ⟨⟨answer, lib⟩, ran⟩ := Lib.vi53xxDeviceOpen_completes
    (fileEnv state.machine.plugged.registry (pick state.lib.descriptors) mallocOk) simulates.searched fits
  obtain ⟨others, again, _, opened⟩ := Lib.vi53xxDeviceOpen_opened ran
  rw [simulates.searched] at again
  cases again
  rw [given] at opened
  have simulated : Lib.Simulates boards
      (map.apply (.opens boardId (pick state.lib.descriptors))) lib := by
    by_cases closed : map boardId = none
    · exact (simulates.stored listed nonnegative memory closed opened).2
    · exact (simulates.opened_again listed closed opened).2
  refine ⟨{ state with
      lib
      files := fun other => if other = pick state.lib.descriptors then some (wiring.place boardId)
        else state.files other }, ?_, ⟨_, simulated, ?_, ?_⟩, ?_, matched.filed, matched.heap, matched.regs,
    matched.cells⟩
  · simp [stackStep, Stack.opened, simulates.searched, ran, Except.toOption, node]
  · intro other
    rw [isSome_apply_opens, ← shown other]
    rfl
  · intro other fd held
    have before : ∀ {fd : Int}, map other = some fd →
        (if fd = pick state.lib.descriptors then some (wiring.place boardId) else state.files fd) =
          some (wiring.place other) := by
      intro fd held
      have different : fd ≠ pick state.lib.descriptors := by
        rintro rfl
        exact fresh (held_descriptor simulates matched.owning held)
      rw [if_neg different]
      exact filed other fd held
    by_cases turned : other = boardId ∧ map boardId = none
    · obtain ⟨rfl, closed⟩ := turned
      rw [HandleMap.apply_opens_self closed] at held
      cases held
      exact if_pos rfl
    · exact before (by simpa [HandleMap.apply, turned] using held)
  · exact matched.owning.opened (fun _ => fresh) opened

theorem Matches.closed (matched : Matches devices boards wiring spec state)
    (isOpen : spec.isOpen boardId = true) :
    ∃ next, stackStep state (.deviceClose boardId) = some next ∧
      Matches devices boards wiring (spec.step (.deviceClose boardId)) next := by
  obtain ⟨map, simulates, shown, filed⟩ := matched.table
  rw [shown] at isOpen
  have closed := @Lib.vi53xxDeviceClose_closed state.lib boardId
  refine ⟨_, rfl, ⟨_, simulates.closed (Option.isSome_iff_ne_none.mp isOpen) closed, ?_, ?_⟩,
    (matched.owning.closed closed).1, matched.filed, matched.heap, matched.regs, matched.cells⟩
  · intro other
    by_cases same : other = boardId
    · subst same
      rw [HandleMap.apply_closes_self]
      exact if_pos rfl
    · rw [HandleMap.apply_closes_other same, ← shown other]
      exact if_neg same
  · intro other fd held
    by_cases same : other = boardId
    · subst same
      rw [HandleMap.apply_closes_self] at held
      cases held
    · rw [HandleMap.apply_closes_other same] at held
      exact filed other fd held

/-! ### Calls about a board -/

/-- What a call about a board comes to: the driver of the board it is about, if the board
is open. -/
theorem Matches.sent (matched : Matches devices boards wiring spec state) (known : boards ≠ []) :
    (spec.isOpen boardId = false ∧ call.sent state.lib stack boardId = .error (-1)) ∨
      (spec.isOpen boardId = true ∧ (∃ info ∈ boards, info.boardId = boardId) ∧
        ∃ fd, state.file fd = some (wiring.place boardId) ∧
          call.sent state.lib stack boardId =
            (call.forwarded stack).map fun request => (fd, request)) := by
  obtain ⟨map, simulates, shown, filed⟩ := matched.table
  obtain ⟨counted, _⟩ := simulates.tabled.searched simulates.searched known
  have lookup := @Lib.Tabled.getDevHandle_eq state.lib boardId boards.length simulates.tabled counted
  rw [boardCall_sent, Lib.sendTo, lookup]
  cases found : Lib.openHandle state.lib boardId with
  | none =>
      left
      rw [shown, simulates.absent_iff.mp found]
      exact ⟨rfl, rfl⟩
  | some handle =>
      right
      have held : map boardId = some handle.devHandle := by
        rw [← simulates.handles boardId, found]
        rfl
      refine ⟨by rw [shown, held, Option.isSome_some], ?_, handle.devHandle, ?_, rfl⟩
      · exact listed_boards simulates (by simp [held])
      · have isOpen := held_descriptor simulates matched.owning held
        exact (if_pos isOpen).trans (filed boardId handle.devHandle held)

theorem ioctl_answered {board : Board} {fd ret : Int} {xpdev : Nat} {cmd : XdmaCmd} {info : XdmaInfo}
    (file : state.file fd = some xpdev) (found : state.machine.boards xpdev = some board)
    (inside : outcome.infoMissed = 0 → CommandInside board.xdev board.length info outcome cmd)
    (ran : answer board.xdev (.ioctl (rtpcIoctlXdma cmd) info outcome)
      { state.machine.kernel with user } = (.ok ret, final)) :
    state.ioctl outcome user (.ok (fd, rtpcIoctlXdma cmd, info)) =
      some { state with machine := { state.machine with kernel := final } } := by
  have within : (Request.ioctl (rtpcIoctlXdma cmd) info outcome).Inside board.xdev board.length
      { state.machine.kernel with user } := by
    intro _ copied known number
    rw [rtpcIoctlXdma_nr] at number
    cases number
    exact inside copied
  have requested : requestMachine xpdev (.ioctl (rtpcIoctlXdma cmd) info outcome)
      { state.machine with kernel := { state.machine.kernel with user } } =
      some { state.machine with kernel := final } := by
    rw [requestMachine]
    dsimp only
    rw [found]
    dsimp only
    rw [if_pos within, ran]
  simp only [Stack.ioctl, file, requested, Option.map_some]

theorem Matches.called (matched : Matches devices boards wiring spec state) (known : boards ≠ [])
    (wired : Wired devices boards wiring)
    (allowed : Allowed boards wiring spec (.board boardId call stack outcome user)) :
    ∃ next, stackStep state (.board boardId call stack outcome user) = some next ∧
      Matches devices boards wiring (spec.step (.board boardId call stack outcome user)) next := by
  rcases @Matches.sent devices boards wiring spec state boardId call stack matched known with
    ⟨closed, refused⟩ | ⟨isOpen, listed, fd, file, sent⟩
  · rw [step_idle (.inl closed)]
    exact ⟨state, by rw [stackStep, refused]; rfl, matched⟩
  · by_cases passed : call.Passed
    · have forwards : call.sent state.lib stack boardId =
          .ok (fd, rtpcIoctlXdma call.cmd, call.info stack) := by
        rw [sent, boardCall_passed passed]
        rfl
      have device : ∃ board, devices (wiring.place boardId) = some board ∧
          state.machine.boards (wiring.place boardId) = some board ∧
          wiring.Fits boardId board := by
        obtain ⟨info, member, rfl⟩ := listed
        obtain ⟨board, found, fitted⟩ := wired.device info member
        exact ⟨board, found, (matched.heap info member).trans found, fitted⟩
      obtain ⟨board, found, present, fitted⟩ := device
      have inside : outcome.infoMissed = 0 →
          CommandInside board.xdev board.length (call.info stack) outcome call.cmd := fun copied =>
        boardCall_inside fitted.lengths fitted.unchained fitted.sized fitted.sizes
          (allowed isOpen copied passed) passed
      by_cases copied : outcome.infoMissed = 0
      · obtain ⟨attempt, buffered, store⟩ := fitted.buffered
        obtain ⟨ret, final, ran, leaves⟩ := @boardCall_answer (wiring.block boardId) board.xdev
          { state.machine.kernel with user } stack (wiring.length boardId) outcome call attempt fitted.mapped
          fitted.unchained buffered fitted.sized (allowed isOpen copied passed) passed copied
        rw [← store] at leaves
        rw [step_read isOpen copied]
        refine ⟨{ state with machine := { state.machine with kernel := final } }, ?_, matched.table,
          matched.owning, matched.filed, matched.heap, ?_, ?_⟩
        · rw [stackStep, forwards]
          exact ioctl_answered file present inside ran
        · intro info member bar number offset
          dsimp only
          rw [leaves.regs]
          exact taken_regs wired matched.regs listed info member bar number offset
        · exact @taken_cells devices boards wiring spec boardId call
            { state.machine.kernel with user } final wired matched.cells listed leaves
      · rw [step_idle (.inr copied)]
        have unread : answer board.xdev (.ioctl (rtpcIoctlXdma call.cmd) (call.info stack) outcome)
            { state.machine.kernel with user } =
            (.ok (copyResult outcome.infoMissed.val), { state.machine.kernel with user }) := by
          rw [answer_unread copied]
          rfl
        refine ⟨{ state with
            machine := { state.machine with kernel := { state.machine.kernel with user } } }, ?_,
          matched.table, matched.owning, matched.filed, matched.heap, matched.regs, matched.cells⟩
        rw [stackStep, forwards]
        exact ioctl_answered file present inside unread
    · have unchanged : spec.step (.board boardId call stack outcome user) = spec := by
        by_cases copied : outcome.infoMissed = 0
        · rw [step_read isOpen copied, take_refused passed]
        · exact step_idle (.inr copied)
      rw [unchanged]
      refine ⟨state, ?_, matched⟩
      rw [stackStep, sent, boardCall_refused passed]
      rfl

theorem Matches.step {stackCall : StackCall} (matched : Matches devices boards wiring spec state)
    (known : boards ≠ []) (wired : Wired devices boards wiring)
    (allowed : Allowed boards wiring spec stackCall) :
    ∃ next, stackStep state stackCall = some next ∧
      Matches devices boards wiring (spec.step stackCall) next := by
  cases stackCall with
  | deviceOpen boardId pick mallocOk => exact matched.opened wired allowed
  | deviceClose boardId => exact matched.closed allowed
  | board boardId call stack outcome user => exact matched.called known wired allowed

end Vi53xx.System
