import Vi53xx.Lib.Scope
import Vi53xx.System.BoardsApart

/-! The scope module of a board. Each of its calls leaves the settings that it stands for,
whatever is done with other boards in between. -/

set_option autoImplicit false

namespace Vi53xx.System

open Foundation Driver

/-- The registers of a board, by BAR and offset. -/
abbrev BoardRegs := BitVec 32 → BitVec 32 → BitVec 32

/-- What a client of BAR 0 asks of a board whose accesses all succeed; a read puts its word
at `addr`. -/
def clientCalls (addr : BitVec 64) : Lib.RegFile → Lib.RegClient → List BoardCall
  | _, .done => []
  | regs, .call request next =>
      let (reply, regs) := Lib.serveRegister regs request true
      .transfer (registerCall request addr) :: clientCalls addr regs (next reply)

def clientRegs : Lib.RegFile → Lib.RegClient → Lib.RegFile
  | regs, .done => regs
  | regs, .call request next =>
      let (reply, regs) := Lib.serveRegister regs request true
      clientRegs regs (next reply)

inductive ScopeCall where
  | moduleInit
  | selectCh (datachlsel : Fin 8 → BitVec 8)
  | slectMode (modeSel : BitVec 8)
  | start
  | countSampling (val : BitVec 32)
  | clearABuff

def ScopeCall.clients : ScopeCall → List Lib.RegClient
  | .moduleInit => [Lib.scopeInitConfig, Lib.scopeClockSampling]
  | .selectCh datachlsel => [Lib.scopeSelectCh datachlsel]
  | .slectMode modeSel => [Lib.scopeSlectMode modeSel]
  | .start => [Lib.startScope]
  | .countSampling val => [Lib.scopeCountSampling val]
  | .clearABuff => [Lib.clearABuff]

/-- `scope_module_init` stops two channels before it writes to BAR 0. -/
def ScopeCall.stops : ScopeCall → List BoardCall
  | .moduleInit => [.stop 1 (H2C_DIR.setWidth 32), .stop 2 (C2H_DIR.setWidth 32)]
  | .selectCh _ | .slectMode _ | .start | .countSampling _ | .clearABuff => []

/-- One client after the other. -/
def clientsCalls (addr : BitVec 64) : Lib.RegFile → List Lib.RegClient → List BoardCall
  | _, [] => []
  | regs, client :: rest =>
      clientCalls addr regs client ++ clientsCalls addr (clientRegs regs client) rest

def ScopeCall.calls (addr : BitVec 64) (regs : BoardRegs) (call : ScopeCall) : List BoardCall :=
  call.stops ++ clientsCalls addr (regs 0) call.clients

/-- The registers after calls that the driver has read. -/
def regsCalled (regs : BoardRegs) (calls : List BoardCall) : BoardRegs :=
  calls.foldl (fun regs call => regsAfter regs call.write) regs

/-! ## Settings -/

/-- What the scope is set to. `limits` are the registers that only the init writes, and
`engines` the control registers of the two channels that it stops. -/
structure ScopeSettings where
  select : Fin 8 → BitVec 8
  clock : BitVec 32
  count : BitVec 32
  mode : BitVec 32
  run : BitVec 32
  trigger : BitVec 32
  limits : List (BitVec 32)
  engines : List (BitVec 32)

def limitRegs : List (BitVec 32) := [0x04, 0x0c, 0x1004, 0x100c, 0x2004, 0x200c, 0x3004, 0x300c]

def engineRegs : List (BitVec 32) :=
  [engineReg 1 (H2C_DIR.setWidth 32), engineReg 2 (C2H_DIR.setWidth 32)]

/-- The settings that the registers stand for. -/
def settings (regs : BoardRegs) : ScopeSettings where
  select i := (if i.val < 4 then regs 0 0x00 else regs 0 0x08).extractLsb' (8 * (i.val % 4)) 8
  clock := regs 0 0x1000
  count := regs 0 0x1008
  mode := regs 0 0x2000
  run := regs 0 0x2008
  trigger := regs 0 0x4000
  limits := limitRegs.map (regs 0)
  engines := engineRegs.map (regs 1)

/-- What a scope call stands for. -/
def ScopeSettings.step (settings : ScopeSettings) : ScopeCall → ScopeSettings
  | .moduleInit => { settings with
      clock := 150
      limits := [0, 0, 0, 0, 0, 0, 0xFFFFFFFF, 0xFFFFFFFF]
      engines := [DMA_STOP, DMA_STOP] }
  | .selectCh datachlsel => { settings with select := datachlsel }
  | .slectMode modeSel => { settings with mode := if modeSel = 0 then 1 else 0x10001, run := 1 }
  | .start => { settings with trigger := 0 }
  | .countSampling val => { settings with count := val }
  | .clearABuff => { settings with run := settings.run &&& ~~~2 }

def settingRegs : List (BitVec 32) := [0x00, 0x08, 0x1000, 0x1008, 0x2000, 0x2008, 0x4000]

/-- The registers of the settings. -/
def ScopeRegister (bar offset : BitVec 32) : Prop :=
  (bar = 0 ∧ offset ∈ settingRegs ++ limitRegs) ∨ (bar = 1 ∧ offset ∈ engineRegs)

variable {regs : BoardRegs} {addr : BitVec 64} {client : Lib.RegClient}

/-! ## Calls on BAR 0 -/

def BoardRegs.withFirst (regs : BoardRegs) (file : Lib.RegFile) : BoardRegs :=
  fun bar => if bar = 0 then file else regs bar

theorem withFirst_self : regs.withFirst (regs 0) = regs := by
  funext bar
  unfold BoardRegs.withFirst
  split
  · next first => rw [first]
  · rfl

theorem withFirst_twice {file later : Lib.RegFile} :
    (regs.withFirst file).withFirst later = regs.withFirst later := by
  funext bar
  unfold BoardRegs.withFirst
  split <;> rfl

theorem regsAfter_first {offset val : BitVec 32} :
    regsAfter regs (some (0, offset, val)) =
      regs.withFirst fun place => if place = offset then val else regs 0 place := by
  funext bar place
  dsimp only [regsAfter, BoardRegs.withFirst]
  by_cases first : bar = 0
  · rw [first, if_pos rfl]
    simp
  · rw [if_neg first]
    exact if_neg fun both => first both.1

theorem regsCalled_client :
    regsCalled regs (clientCalls addr (regs 0) client) = regs.withFirst (clientRegs (regs 0) client) := by
  induction client generalizing regs with
  | done => exact withFirst_self.symm
  | call request next ih =>
      have served : regsAfter regs (BoardCall.transfer (registerCall request addr)).write =
          regs.withFirst (Lib.serveRegister (regs 0) request true).2 := by
        cases request with
        | read offset val => exact withFirst_self.symm
        | write offset val => exact regsAfter_first
      have rest := @ih (Lib.serveRegister (regs 0) request true).1
        (regs.withFirst (Lib.serveRegister (regs 0) request true).2)
      rw [clientCalls, regsCalled, List.foldl_cons, served]
      exact rest.trans withFirst_twice

theorem shifted_bit {byte : BitVec 8} {place i j : Nat} (few : i < 4) (inside : j < 8) :
    (byte.setWidth 32 <<< (8 * place)).getLsbD (8 * i + j) = (decide (place = i) && byte.getLsbD j) := by
  have low : 8 * i + j < 32 := by omega
  rw [BitVec.getLsbD_shiftLeft]
  rcases Nat.lt_trichotomy place i with before | rfl | after
  · have beyond : byte.getLsbD (8 * i + j - 8 * place) = false := BitVec.getLsbD_of_ge _ _ (by omega)
    simp [beyond, Nat.ne_of_lt before]
  · simp [low]
    omega
  · have early : 8 * i + j < 8 * place := by omega
    simp [early, Nat.ne_of_gt after]

/-- The bytes can be read back from the register. -/
theorem packed_byte (bytes : Fin 4 → BitVec 8) (i : Fin 4) :
    (Lib.packed bytes).extractLsb' (8 * i.val) 8 = bytes i := by
  apply BitVec.eq_of_getLsbD_eq
  intro j inside
  have four : List.finRange 4 = [0, 1, 2, 3] := rfl
  simp only [Lib.packed, four, List.foldl_cons, List.foldl_nil]
  rw [BitVec.getLsbD_extractLsb']
  simp only [BitVec.getLsbD_or, shifted_bit i.isLt inside]
  match i with
  | 0 | 1 | 2 | 3 => simp [inside]

/-! ## Each call -/

theorem regsCalled_append {first second : List BoardCall} :
    regsCalled regs (first ++ second) = regsCalled (regsCalled regs first) second :=
  List.foldl_append

theorem regsCalled_clients {clients : List Lib.RegClient} :
    regsCalled regs (clientsCalls addr (regs 0) clients) =
      regs.withFirst (clients.foldl clientRegs (regs 0)) := by
  induction clients generalizing regs with
  | nil => exact withFirst_self.symm
  | cons client rest ih =>
      rw [clientsCalls, regsCalled_append, regsCalled_client]
      exact (@ih (regs.withFirst (clientRegs (regs 0) client))).trans withFirst_twice

theorem stops_regs {call : ScopeCall} :
    regsCalled regs call.stops = fun bar offset =>
      if call.stops ≠ [] ∧ bar = 1 ∧ offset ∈ engineRegs then DMA_STOP else regs bar offset := by
  have h2c : (BoardCall.stop 1 (H2C_DIR.setWidth 32)).write =
      some (1, engineReg 1 (H2C_DIR.setWidth 32), DMA_STOP) := by decide
  have c2h : (BoardCall.stop 2 (C2H_DIR.setWidth 32)).write =
      some (1, engineReg 2 (C2H_DIR.setWidth 32), DMA_STOP) := by decide
  cases call with
  | moduleInit =>
      funext bar offset
      simp only [ScopeCall.stops, regsCalled, List.foldl_cons, List.foldl_nil, h2c, c2h, regsAfter,
        engineRegs, List.mem_cons, List.not_mem_nil, or_false]
      grind
  | selectCh | slectMode | start | countSampling | clearABuff =>
      funext bar offset
      exact (if_neg fun both => both.1 rfl).symm

/-- Stops come to BAR 1, and the clients to BAR 0. -/
theorem regsCalled_call (call : ScopeCall) :
    regsCalled regs (call.calls addr regs) =
      (regsCalled regs call.stops).withFirst (call.clients.foldl clientRegs (regs 0)) := by
  have kept : regs 0 = regsCalled regs call.stops 0 := by
    rw [stops_regs]
    funext offset
    exact (if_neg fun both => absurd both.2.1 (by decide)).symm
  rw [ScopeCall.calls, regsCalled_append, kept, regsCalled_clients]

theorem selected_bytes (datachlsel : Fin 8 → BitVec 8) (i : Fin 8) :
    (if i.val < 4 then Lib.packed fun i => datachlsel (i.castLE (by decide))
      else Lib.packed fun i => datachlsel (i.natAdd 4)).extractLsb' (8 * (i.val % 4)) 8 =
      datachlsel i := by
  split
  · next low =>
      have place : i.val % 4 = i.val := Nat.mod_eq_of_lt low
      rw [place]
      exact packed_byte _ ⟨i.val, low⟩
  · next high =>
      have place : i.val % 4 = i.val - 4 := by omega
      have inside : i.val - 4 < 4 := by omega
      rw [place]
      refine (packed_byte _ ⟨i.val - 4, inside⟩).trans (congrArg datachlsel (Fin.ext ?_))
      simp only [Fin.val_natAdd]
      omega

/-- A scope call leaves the settings that it stands for. -/
theorem settings_call (call : ScopeCall) :
    settings (regsCalled regs (call.calls addr regs)) = (settings regs).step call := by
  rw [regsCalled_call, stops_regs]
  cases call with
  | moduleInit =>
      simp [settings, ScopeSettings.step, ScopeCall.stops, ScopeCall.clients, BoardRegs.withFirst,
        clientRegs, Lib.scopeInitConfig, Lib.scopeClockSampling, Lib.RegClient.write,
        Lib.serveRegister, limitRegs, engineRegs]
  | selectCh datachlsel =>
      have bytes := funext (selected_bytes datachlsel)
      simpa [settings, ScopeSettings.step, ScopeCall.stops, ScopeCall.clients, BoardRegs.withFirst,
        clientRegs, Lib.scopeSelectCh, Lib.RegClient.write, Lib.serveRegister, limitRegs, engineRegs]
        using bytes
  | slectMode | start | countSampling =>
      simp [settings, ScopeSettings.step, ScopeCall.stops, ScopeCall.clients, BoardRegs.withFirst,
        clientRegs, Lib.scopeSlectMode, Lib.startScope, Lib.scopeCountSampling, Lib.RegClient.write,
        Lib.serveRegister, limitRegs, engineRegs]
  | clearABuff =>
      have bits : ∀ run : BitVec 32, (run ||| 2) &&& ~~~2 = run &&& ~~~2 := by
        intro run
        rw [BitVec.and_or_distrib_right]
        simp
      simpa [settings, ScopeSettings.step, ScopeCall.stops, ScopeCall.clients, BoardRegs.withFirst,
        clientRegs, Lib.clearABuff, Lib.RegClient.write, Lib.RegClient.read, Lib.serveRegister,
        limitRegs, engineRegs] using bits (regs 0 0x2008)

theorem client_outside {call : ScopeCall} {offset : BitVec 32} {file : Lib.RegFile}
    (outside : offset ∉ settingRegs ++ limitRegs) :
    call.clients.foldl clientRegs file offset = file offset := by
  simp [settingRegs, limitRegs] at outside
  cases call with
  | moduleInit | selectCh | slectMode | start | countSampling | clearABuff =>
      simp [ScopeCall.clients, clientRegs, Lib.scopeInitConfig, Lib.scopeClockSampling,
        Lib.scopeSelectCh, Lib.scopeSlectMode, Lib.startScope, Lib.scopeCountSampling, Lib.clearABuff,
        Lib.RegClient.write, Lib.RegClient.read, Lib.serveRegister, outside]

theorem call_outside {bar offset : BitVec 32} (call : ScopeCall) (outside : ¬ ScopeRegister bar offset) :
    regsCalled regs (call.calls addr regs) bar offset = regs bar offset := by
  rw [regsCalled_call, stops_regs]
  unfold BoardRegs.withFirst
  by_cases first : bar = 0
  · rw [if_pos first, first]
    exact client_outside fun member => outside (.inl ⟨first, member⟩)
  · rw [if_neg first]
    exact if_neg fun both => outside (.inr both.2)

/-! ## Sessions -/

/-- The call is made about a board, by some process, and its copies are complete. -/
def Makes (boardId : BitVec 32) (made : ProcessCall) (call : BoardCall) : Prop :=
  ∃ pid stack outcome user, outcome.infoMissed = 0 ∧ outcome.dataMissed = 0 ∧
    made = (pid, .board boardId call stack outcome user)

theorem made_step {spec : SharedBoards} {boardId : BitVec 32} {made : ProcessCall} {call : BoardCall}
    (makes : Makes boardId made call) (isOpen : SharedBoards.isOpen spec made.1 boardId = true) :
    SharedBoards.regs (SharedBoards.step spec made) boardId =
        regsAfter (SharedBoards.regs spec boardId) call.write ∧
      ∀ pid, SharedBoards.isOpen (SharedBoards.step spec made) pid = SharedBoards.isOpen spec pid := by
  obtain ⟨pid, stack, outcome, user, copied, _, rfl⟩ := makes
  have isOpen : (SharedBoards.process spec pid).isOpen boardId = true := isOpen
  have taken : SharedBoards.step spec (pid, .board boardId call stack outcome user) =
      Family.put boardSharing spec pid ((SharedBoards.process spec pid).take boardId call user) :=
    congrArg (Family.put boardSharing spec pid) (step_read isOpen copied)
  rw [taken]
  refine ⟨if_pos rfl, fun other => ?_⟩
  exact congrFun (Function.update_eq_self pid spec.own) other

theorem made_regs {boardId : BitVec 32} {spec : SharedBoards} {made : List ProcessCall}
    {calls : List BoardCall} (makes : List.Forall₂ (Makes boardId) made calls)
    (isOpen : ∀ one ∈ made, SharedBoards.isOpen spec one.1 boardId = true) :
    SharedBoards.regs (made.foldl SharedBoards.step spec) boardId =
        regsCalled (SharedBoards.regs spec boardId) calls ∧
      ∀ pid, SharedBoards.isOpen (made.foldl SharedBoards.step spec) pid = SharedBoards.isOpen spec pid := by
  induction makes generalizing spec with
  | nil => exact ⟨rfl, fun _ => rfl⟩
  | @cons one call _ _ first rest ih =>
      obtain ⟨regs, same⟩ := made_step first (isOpen one List.mem_cons_self)
      obtain ⟨later, still⟩ := @ih (SharedBoards.step spec one) fun other member => by
        rw [same]
        exact isOpen other (List.mem_cons_of_mem _ member)
      refine ⟨?_, fun pid => (still pid).trans (same pid)⟩
      rw [List.foldl_cons, later, regs]
      rfl

/-- The process reads these words from the registers of the board. -/
def ReadsAs (wiring : Wiring) (boardId : BitVec 32) (regs : BoardRegs) (state : Stack) : Prop :=
  ∀ bar : BitVec 32, bar = 0 ∨ bar = 1 → ∀ offset,
    RegisterInside (wiring.length boardId bar) offset → ∀ addr stack user, ∃ next,
      stackStep state
        (.board boardId (.transfer (.readRegister bar offset addr)) stack .complete user) = some next ∧
      wordAt next.machine.kernel.user addr = regs bar offset

/-- Whatever is done with other boards in between, the processes that have a board open read
from it what the calls about it have left there. -/
theorem made_reads {answers : Nat → Option (BitVec 64)} {boards : List Lib.DeviceInfo}
    {wiring : Wiring} {state : Processes} {calls before made : List ProcessCall} {info : Lib.DeviceInfo}
    {asked : List BoardCall}
    (started : ∀ pid, Started answers boards wiring (Processes.process state pid))
    (allowed : AllowedRun boards wiring state calls) (member : info ∈ boards)
    (makes : List.Forall₂ (Makes info.boardId) made asked)
    (isOpen : ∀ one ∈ made,
      SharedBoards.isOpen (specAfter wiring state before) one.1 info.boardId = true)
    (own : calls.filter (AboutBoard info.boardId) = before ++ made) :
    ∃ reached, runFrom processStep state calls = some reached ∧ ∀ pid,
      SharedBoards.isOpen (specAfter wiring state before) pid info.boardId = true →
      ReadsAs wiring info.boardId
        (regsCalled (SharedBoards.regs (specAfter wiring state before) info.boardId) asked)
        (Processes.process reached pid) := by
  obtain ⟨reached, ran, shows⟩ := shows_after started allowed
  obtain ⟨_, same⟩ := about_board allowed info.boardId
  have split : specAfter wiring state (before ++ made) =
      made.foldl SharedBoards.step (specAfter wiring state before) := List.foldl_append
  rw [own, split] at same
  obtain ⟨regs, still⟩ := made_regs makes isOpen
  refine ⟨reached, ran, ?_⟩
  intro pid held bar inside offset register word stack user
  have after : (SharedBoards.process (specAfter wiring state calls) pid).isOpen info.boardId = true :=
    (same pid).isOpen.trans ((congrFun (still pid) info.boardId).trans held)
  obtain ⟨next, read, value⟩ := (shows pid).reads info member after bar inside offset register word stack user
  refine ⟨next, read, value.trans ?_⟩
  rw [(same pid).regs]
  exact congrFun (congrFun regs bar) offset

end Vi53xx.System
