import Vi53xx.Foundation.Family
import Vi53xx.System.StackRuns

/-! Any number of processes, each with a library and files of its own, and one driver behind
them. In whatever order they make their calls, each sees boards that are apart, with the
registers and the bytes that the calls of all processes have written. -/

set_option autoImplicit false

namespace Vi53xx.System

open Foundation Driver

/-- The part of a process that is its own, and the driver. -/
def stackSharing : Sharing Stack (Lib.LibState × (Int → Option Nat)) Machine where
  join own machine := ⟨own.1, own.2, machine⟩
  own state := (state.lib, state.files)
  common := Stack.machine
  join_parts _ := rfl
  own_join _ _ := rfl
  common_join _ _ := rfl

/-- The open boards of one process, and the boards. -/
def boardSharing : Sharing BoardSystem (BitVec 32 → Bool)
    ((BitVec 32 → BitVec 32 → BitVec 32 → BitVec 32) × (BitVec 32 → Nat → BitVec 8)) where
  join isOpen boards := ⟨isOpen, boards.1, boards.2⟩
  own := BoardSystem.isOpen
  common spec := (spec.regs, spec.cells)
  join_parts _ := rfl
  own_join _ _ := rfl
  common_join _ _ := rfl

abbrev Processes := Family Nat (Lib.LibState × (Int → Option Nat)) Machine

abbrev SharedBoards := Family Nat (BitVec 32 → Bool)
  ((BitVec 32 → BitVec 32 → BitVec 32 → BitVec 32) × (BitVec 32 → Nat → BitVec 8))

/-- A call and the process that makes it. -/
abbrev ProcessCall := Nat × StackCall

def Processes.process (state : Processes) (pid : Nat) : Stack := state.member stackSharing pid

def SharedBoards.process (spec : SharedBoards) (pid : Nat) : BoardSystem := spec.member boardSharing pid

/-- The process has the board open. -/
def SharedBoards.isOpen (spec : SharedBoards) (pid : Nat) (boardId : BitVec 32) : Bool :=
  spec.own pid boardId

/-- The registers of a board, which all processes share. -/
def SharedBoards.regs (spec : SharedBoards) (boardId : BitVec 32) : BitVec 32 → BitVec 32 → BitVec 32 :=
  spec.common.1 boardId

def processStep : Processes → ProcessCall → Option Processes :=
  Family.step stackSharing stackStep

def SharedBoards.step : SharedBoards → ProcessCall → SharedBoards :=
  Family.advance boardSharing BoardSystem.step

/-- No process has opened a board. -/
def SharedBoards.start (wiring : Wiring) (kernel : Kernel) : SharedBoards where
  own := fun _ => (BoardSystem.start wiring kernel).isOpen
  common := boardSharing.common (BoardSystem.start wiring kernel)

/-- A run that the abstract system allows, from what the boards hold in a state on. -/
def AllowedRun (boards : List Lib.DeviceInfo) (wiring : Wiring) (state : Processes)
    (calls : List ProcessCall) : Prop :=
  EachStep (fun spec made => some (SharedBoards.step spec made))
    (fun spec made => Allowed boards wiring (SharedBoards.process spec made.1) made.2)
    (SharedBoards.start wiring state.common.kernel) calls

/-- What the abstract system comes to. -/
def specAfter (wiring : Wiring) (state : Processes) (calls : List ProcessCall) : SharedBoards :=
  calls.foldl SharedBoards.step (SharedBoards.start wiring state.common.kernel)

variable {answers : Nat → Option (BitVec 64)} {devices : Nat → Option Board}
  {boards : List Lib.DeviceInfo} {wiring : Wiring} {state : Processes} {calls : List ProcessCall}

/-- The table and the files are the process's own, the rest is the driver's. -/
theorem matches_separate :
    Family.Separate stackSharing boardSharing (Matches devices boards wiring) :=
  fun _ _ _ _ own common => ⟨own.table, own.owning, common.filed, common.heap, common.regs, common.cells⟩

theorem matches_step {spec : SharedBoards} {reached : Processes} {made : ProcessCall}
    (known : boards ≠ []) (wired : Wired devices boards wiring)
    (matched : ∀ pid, Matches devices boards wiring (spec.process pid) (reached.process pid))
    (allowed : Allowed boards wiring (spec.process made.1) made.2) :
    ∃ next, processStep reached made = some next ∧ ∀ pid,
      Matches devices boards wiring (SharedBoards.process (spec.step made) pid)
        (Processes.process next pid) := by
  have alone : ∀ spec reached call, Matches devices boards wiring spec reached →
      Allowed boards wiring spec call →
      ∃ next, stackStep reached call = some next ∧
        Matches devices boards wiring (spec.step call) next :=
    fun _ _ _ matched allowed => matched.step known wired allowed
  exact Family.progress matches_separate alone made matched allowed

theorem matches_start (started : ∀ pid, Started answers boards wiring (Processes.process state pid)) :
    ∀ pid, Matches state.common.boards boards wiring
      (SharedBoards.process (SharedBoards.start wiring state.common.kernel) pid)
      (Processes.process state pid) :=
  fun pid => (started pid).start

theorem matches_after (started : ∀ pid, Started answers boards wiring (Processes.process state pid))
    (allowed : AllowedRun boards wiring state calls) {done rest : List ProcessCall}
    (split : calls = done ++ rest) :
    ∃ reached, runFrom processStep state done = some reached ∧ ∀ pid,
      Matches state.common.boards boards wiring (SharedBoards.process (specAfter wiring state done) pid)
        (Processes.process reached pid) := by
  have progress : ∀ (spec : SharedBoards) (reached : Processes) (made : ProcessCall),
      (∀ pid, Matches state.common.boards boards wiring (spec.process pid) (reached.process pid)) →
      Allowed boards wiring (spec.process made.1) made.2 →
      ∃ next, processStep reached made = some next ∧ ∀ pid,
        Matches state.common.boards boards wiring (SharedBoards.process (spec.step made) pid)
          (Processes.process next pid) :=
    fun _ _ _ matched allowed => matches_step (started 0).known (started 0).wired matched allowed
  exact simulation progress (matches_start started) allowed done rest split

/-- What the processes see after a whole run. -/
theorem shows_after (started : ∀ pid, Started answers boards wiring (Processes.process state pid))
    (allowed : AllowedRun boards wiring state calls) :
    ∃ reached, runFrom processStep state calls = some reached ∧ ∀ pid,
      Shows boards wiring (SharedBoards.process (specAfter wiring state calls) pid)
        (Processes.process reached pid) := by
  obtain ⟨reached, ran, matched⟩ := matches_after started allowed (List.append_nil calls).symm
  exact ⟨reached, ran, fun pid => (matched pid).shows (started pid).known (started pid).wired⟩

/-- With the boards of the table attached to the driver, every allowed run of any number of
processes completes, and after each of its calls each process sees the boards that the
abstract system has come to. -/
theorem processes_refine_boards
    (started : ∀ pid, Started answers boards wiring (Processes.process state pid))
    (allowed : AllowedRun boards wiring state calls) :
    ∀ done rest, calls = done ++ rest →
      ∃ reached, runFrom processStep state done = some reached ∧ ∀ pid,
        Shows boards wiring (SharedBoards.process (specAfter wiring state done) pid)
          (Processes.process reached pid) := by
  intro done rest split
  obtain ⟨reached, ran, matched⟩ := matches_after started allowed split
  exact ⟨reached, ran, fun pid => (matched pid).shows (started pid).known (started pid).wired⟩

/-! ## Two processes with two boards -/

/-- One more than the highest descriptor, past those of the standard streams. -/
def pastOpen : Pick := fun fds => fds.foldr max 2 + 1

theorem pastOpen_fair : pastOpen.Fair := by
  have above : ∀ fds : List Int, 2 ≤ fds.foldr max 2 ∧ ∀ fd ∈ fds, fd ≤ fds.foldr max 2 := by
    intro fds
    induction fds with
    | nil => exact ⟨Int.le_refl 2, fun fd member => absurd member List.not_mem_nil⟩
    | cons first rest ih =>
        refine ⟨Int.le_trans ih.1 (Int.le_max_right _ _), ?_⟩
        intro fd member
        rcases List.mem_cons.mp member with rfl | later
        · exact Int.le_max_left _ _
        · exact Int.le_trans (ih.2 fd later) (Int.le_max_right _ _)
  intro fds
  obtain ⟨standard, highest⟩ := above fds
  unfold pastOpen
  refine ⟨by omega, fun member => ?_⟩
  have most := highest _ member
  omega

/-- The second board, with its BARs at other addresses. -/
def secondEnv : ProbeEnv :=
  { es5341Env with map := { freeBus with bars := ⟨freeBus.bars.length, fun idx => some (idx.val + 2)⟩ } }

def twoPlugs : List MachineCall :=
  [.probe es5341Env es5341Turn.pdev, .probe secondEnv { es5341Turn.pdev with bus := 2 }]

def twoPath (boardId : BitVec 32) : List Char :=
  if boardId = 7 then "/dev/es5341_0".toList else "/dev/es5341_1".toList

def twoWiring : Wiring where
  place boardId := if boardId = 7 then 0 else 1
  block boardId bar := (if boardId = 7 then 0 else 2) + if bar = 0 then 0 else 1
  length _ _ := 0x100000
  store boardId := if boardId = 7 then 2 else 8

/-- Both processes open board 7, and what one of them writes there stays when it closes the
board; the other one gives board 8 a byte and starts a channel. -/
def twoCalls : List ProcessCall :=
  [(0, .deviceOpen 7 pastOpen true), (1, .deviceOpen 8 pastOpen true), (1, .deviceOpen 7 pastOpen true),
    (0, .board 7 (.transfer (.writeRegister 0 0x3000 5)) .cleared .complete fun _ => 0),
    (1, .board 8 (.transfer (.buffer .write 1 1 0x1FFF 1)) .cleared .complete fun _ => 7),
    (1, .board 8 (.start 1 0) .cleared .complete fun _ => 0), (0, .deviceClose 7)]

/-- What the driver has mapped and allocated for a board, and how long its BARs are. -/
def boardParts (board : Board) : List (Option Nat) :=
  [board.hold.bar 0, board.hold.bar 1, (board.xdev.h2cDmaCfg 0).pData 0,
    (board.xdev.c2hDmaCfg 0).pData 0, (board.xdev.c2hDmaCfg 1).pData 0,
    some (board.length 0).toNat, some (board.length 1).toNat]

theorem parts_eq {board : Board} {one two store first second : Nat}
    (parts : boardParts board =
      [some one, some two, some store, some first, some second, some 0x100000, some 0x100000]) :
    board.hold.bar 0 = some one ∧ board.hold.bar 1 = some two ∧
      BarLengths (fun _ => 0x100000) board.length ∧ (board.xdev.h2cDmaCfg 0).pData 0 = some store ∧
      ∀ index, ((board.xdev.c2hDmaCfg index).pData 0).isSome := by
  simp only [boardParts, List.cons.injEq, Option.some.injEq, and_true] at parts
  obtain ⟨barOne, barTwo, h2c, c2h, last, longOne, longTwo⟩ := parts
  refine ⟨barOne, barTwo, ⟨BitVec.eq_of_toNat_eq longOne, BitVec.eq_of_toNat_eq longTwo⟩, h2c, ?_⟩
  intro index
  match index with
  | 0 => exact Option.isSome_iff_exists.mpr ⟨_, c2h⟩
  | 1 => exact Option.isSome_iff_exists.mpr ⟨_, last⟩

theorem twoPlugs_ran :
    ∃ machine, runFrom (machineStep fun _ => some 0x10000)
        (Machine.start ⟨true, true, true⟩ givenMajors .booted) twoPlugs = some machine ∧
      ∀ boardId : BitVec 32, boardId = 7 ∨ boardId = 8 →
        machine.plugged.registry.fileBoard (twoPath boardId) = some (twoWiring.place boardId) ∧
        ∃ board, machine.boards (twoWiring.place boardId) = some board ∧
          board.hold.bar 0 = some (twoWiring.block boardId 0) ∧
          board.hold.bar 1 = some (twoWiring.block boardId 1) ∧
          BarLengths (twoWiring.length boardId) board.length ∧
          (board.xdev.h2cDmaCfg 0).pData 0 = some (twoWiring.store boardId) ∧
          ∀ index, ((board.xdev.c2hDmaCfg index).pData 0).isSome := by
  have seen : (runFrom (machineStep fun _ => some 0x10000)
      (Machine.start ⟨true, true, true⟩ givenMajors .booted) twoPlugs).map (fun machine =>
        ([7, 8] : List (BitVec 32)).map fun boardId =>
          (machine.boards (twoWiring.place boardId)).map fun board =>
            machine.plugged.registry.fileBoard (twoPath boardId) :: boardParts board) =
      some [some [some 0, some 0, some 1, some 2, some 0, some 4, some 0x100000, some 0x100000],
        some [some 1, some 2, some 3, some 8, some 6, some 10, some 0x100000, some 0x100000]] := by
    decide +kernel
  obtain ⟨machine, ran, parts⟩ := Option.map_eq_some_iff.mp seen
  obtain ⟨first, rest⟩ := List.cons.inj parts
  obtain ⟨second, _⟩ := List.cons.inj rest
  refine ⟨machine, ran, ?_⟩
  intro boardId known
  rcases known with rfl | rfl
  · obtain ⟨board, found, both⟩ := Option.map_eq_some_iff.mp first
    obtain ⟨filed, parts⟩ := List.cons.inj both
    exact ⟨filed, board, found, parts_eq parts⟩
  · obtain ⟨board, found, both⟩ := Option.map_eq_some_iff.mp second
    obtain ⟨filed, parts⟩ := List.cons.inj both
    exact ⟨filed, board, found, parts_eq parts⟩

theorem twoBoards_checked :
    ∃ lib boards, Lib.checkBoardsInfo Lib.twoBoards Lib.LibState.loaded = .ok (0, lib) ∧
      Lib.searchedBoards lib = .ok boards ∧ boards.map Lib.DeviceInfo.boardId = [7, 8] ∧
      ∀ info ∈ boards, Lib.devicePath boards info.boardId = twoPath info.boardId := by
  have seen : (Lib.checkBoardsInfo Lib.twoBoards Lib.LibState.loaded).toOption.bind (fun checked =>
      (Lib.searchedBoards checked.2).toOption.map fun boards => (checked.1, boards.map fun info =>
        (info.boardId, Lib.devicePath boards info.boardId))) =
      some (0, [(7, twoPath 7), (8, twoPath 8)]) := by
    decide +kernel
  obtain ⟨⟨ret, lib⟩, checked, seen⟩ := Option.bind_eq_some_iff.mp seen
  obtain ⟨boards, searched, both⟩ := Option.map_eq_some_iff.mp seen
  obtain ⟨rfl, rows⟩ := Prod.mk.inj both
  have paired : ∀ info ∈ boards, (info.boardId, Lib.devicePath boards info.boardId) ∈
      ([(7, twoPath 7), (8, twoPath 8)] : List (BitVec 32 × List Char)) := by
    intro info member
    rw [← rows]
    exact List.mem_map_of_mem member
  refine ⟨lib, boards, ok_of_toOption checked, ok_of_toOption searched, ?_, ?_⟩
  · have ids := congrArg (List.map Prod.fst) rows
    simpa [Function.comp_def] using ids
  · intro info member
    have row := paired info member
    simp only [List.mem_cons, Prod.mk.injEq, List.not_mem_nil, or_false] at row
    rcases row with ⟨id, path⟩ | ⟨id, path⟩
    · rw [path, id]
    · rw [path, id]

theorem twoBlock_apart {left right bar other : BitVec 32} (ids : left = 7 ∨ left = 8)
    (others : right = 7 ∨ right = 8) (inside : bar = 0 ∨ bar = 1) (within : other = 0 ∨ other = 1)
    (same : twoWiring.block left bar = twoWiring.block right other) : left = right ∧ bar = other := by
  rcases ids with rfl | rfl <;> rcases others with rfl | rfl <;>
    rcases inside with rfl | rfl <;> rcases within with rfl | rfl <;> revert same <;> decide

theorem two_known (ids : boards.map Lib.DeviceInfo.boardId = [7, 8]) :
    ∀ info ∈ boards, info.boardId = 7 ∨ info.boardId = 8 := by
  intro info member
  have id : info.boardId ∈ boards.map Lib.DeviceInfo.boardId := List.mem_map.mpr ⟨info, member, rfl⟩
  simpa [ids] using id

theorem two_started :
    ∃ boards state, (∀ pid, Started (fun _ => some 0x10000) boards twoWiring
      (Processes.process state pid)) ∧ boards.map Lib.DeviceInfo.boardId = [7, 8] ∧
      runFrom (machineStep fun _ => some 0x10000) (Machine.start ⟨true, true, true⟩ givenMajors .booted)
        twoPlugs = some state.common := by
  obtain ⟨machine, driven, bars⟩ := twoPlugs_ran
  obtain ⟨lib, boards, checked, searched, ids, paths⟩ := twoBoards_checked
  have known := two_known ids
  have attached : Attached machine boards twoWiring := by
    refine ⟨?_, fun info member => (bars info.boardId (known info member)).2,
      fun left first right second bar other inside within same =>
        twoBlock_apart (known left first) (known right second) inside within same⟩
    intro info member
    rw [paths info member]
    exact (bars info.boardId (known info member)).1
  have nonempty : boards ≠ [] := by
    rintro rfl
    cases ids
  exact ⟨boards, ⟨fun _ => (lib, fun _ => none), machine⟩, fun _ =>
    ⟨⟨_, _, _, _, driven⟩, ⟨_, _, rfl, checked⟩, searched, nonempty, attached⟩, ids, driven⟩

theorem twoCalls_allowed (ids : boards.map Lib.DeviceInfo.boardId = [7, 8]) :
    AllowedRun boards twoWiring state twoCalls := by
  have listed : ∀ boardId : BitVec 32, boardId = 7 ∨ boardId = 8 →
      ∃ info ∈ boards, info.boardId = boardId := by
    intro boardId known
    have member : boardId ∈ boards.map Lib.DeviceInfo.boardId := by simpa [ids] using known
    exact List.mem_map.mp member
  refine ⟨⟨listed 7 (.inl rfl), pastOpen_fair, rfl⟩, fun _ first => ?_⟩
  refine ⟨⟨listed 8 (.inr rfl), pastOpen_fair, rfl⟩, fun _ second => ?_⟩
  refine ⟨⟨listed 7 (.inl rfl), pastOpen_fair, rfl⟩, fun _ third => ?_⟩
  refine ⟨fun _ _ _ => ⟨by decide, by decide⟩, fun _ fourth => ?_⟩
  refine ⟨fun _ _ _ => ⟨rfl, by decide, rfl⟩, fun _ fifth => ?_⟩
  refine ⟨fun _ _ _ => ⟨rfl, by decide⟩, fun _ sixth => ?_⟩
  cases first
  cases second
  cases third
  cases fourth
  cases fifth
  cases sixth
  exact ⟨rfl, fun _ _ => trivial⟩

theorem processes_refine_boards_two :
    ∃ boards state reached,
      (∀ pid, Started (fun _ => some 0x10000) boards twoWiring (Processes.process state pid)) ∧
      runFrom processStep state twoCalls = some reached ∧ ∀ pid,
      Shows boards twoWiring (SharedBoards.process (specAfter twoWiring state twoCalls) pid)
        (Processes.process reached pid) := by
  obtain ⟨boards, state, started, ids, _⟩ := two_started
  obtain ⟨reached, ran, shows⟩ := processes_refine_boards started (twoCalls_allowed ids) twoCalls []
    (List.append_nil _).symm
  exact ⟨boards, state, reached, started, ran, shows⟩

end Vi53xx.System
