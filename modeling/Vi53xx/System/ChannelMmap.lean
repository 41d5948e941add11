import Vi53xx.Driver.MmapProperties
import Vi53xx.System.TableIndices
import Mathlib.Data.List.Induction

/-! Clients that map channels. `vi53xx_xdma_mmap` takes two steps of the driver,
and all clients share the setting that the first leaves for the second. -/

set_option autoImplicit false

namespace Vi53xx.System

open Foundation Driver

structure Boards where
  device : Nat → XdmaDev
  probed : ∀ board, ∃ answers idx bars before, Probed answers idx bars before (device board)

/-- What a client asks for: a channel of a board, and a direction. The rest of
the argument is what the stack holds. -/
structure Choice where
  board : Nat
  dir : Fin 2
  index : Fin xdmaChannelNum
  stack : XdmaInfo
  deriving DecidableEq

def Choice.info (choice : Choice) : XdmaInfo :=
  { choice.stack with
    channel := BitVec.ofNat 32 (choice.index.val + 1)
    dir := BitVec.ofNat 8 choice.dir.val }

inductive ClientStep where
  | setting (client : Nat) (choice : Choice)
  | mmap (client : Nat) (outcome : Int)

structure Clients where
  kernel : Kernel
  pending : Nat → Option Choice

/-- The clients once one of them has asked, or has had its channel mapped. -/
def Clients.after (clients : Clients) (kernel : Kernel) (client : Nat) (due : Option Choice) : Clients :=
  ⟨kernel, fun other => if other = client then due else clients.pending other⟩

/-- A client that has not asked for a channel maps none. -/
def clientStep (boards : Boards) (clients : Clients) : ClientStep → Option Clients
  | .setting client choice => do
      let kernel ←
        match Lib.xdmaMmapSetting (some choice.info) with
        | .ok (cmd, info) =>
            driverStep boards.device clients.kernel ⟨choice.board, .ioctl cmd info .complete⟩
        -- `vi53xx_xdma_mmap` goes on even if its setting is turned down.
        | .error _ => some clients.kernel
      some (clients.after kernel client (some choice))
  | .mmap client outcome =>
      match clients.pending client with
      | none => some clients
      | some choice => do
          let kernel ← driverStep boards.device clients.kernel ⟨choice.board, .mmap outcome⟩
          some (clients.after kernel client none)

def Choice.bufferOn (boards : Boards) (board : Nat) (choice : Choice) : Option Nat :=
  (boards.device board).buffer choice.dir choice.index

/-- A client's `mmap` maps the buffer that it has asked for. -/
def MapsOwn (boards : Boards) (clients : Clients) : ClientStep → Prop
  | .setting _ _ => True
  | .mmap client outcome =>
      ∀ choice, clients.pending client = some choice →
        ∀ pData, .dmaCommonMmap pData ∈
            (handled boards.device clients.kernel ⟨choice.board, .mmap outcome⟩).2.trace ↔
          pData = choice.bufferOn boards choice.board

def lastSetting (schedule : List ClientStep) : Option Choice :=
  schedule.foldl
    (fun last step =>
      match step with
      | .setting _ choice => some choice
      | .mmap _ _ => last)
    none

/-- The choice that the client's `mmap` is due for. -/
def ownSetting (client : Nat) (schedule : List ClientStep) : Option Choice :=
  schedule.foldl
    (fun own step =>
      match step with
      | .setting other choice => if other = client then some choice else own
      | .mmap other _ => if other = client then none else own)
    none

/-- The two choices name one channel and direction, or channels without a buffer. -/
def SameChannel (boards : Boards) (own last : Choice) : Prop :=
  (own.dir = last.dir ∧ own.index = last.index) ∨
    (own.bufferOn boards own.board = none ∧ last.bufferOn boards own.board = none)

variable {boards : Boards} {clients : Clients} {schedule : List ClientStep} {client other : Nat}
  {choice own last : Choice} {outcome : Int}

/-! ## Settings of a schedule -/

@[simp] theorem lastSetting_setting :
    lastSetting (schedule ++ [.setting client choice]) = some choice := by
  simp [lastSetting]

@[simp] theorem lastSetting_mmap :
    lastSetting (schedule ++ [.mmap client outcome]) = lastSetting schedule := by
  simp [lastSetting]

@[simp] theorem ownSetting_setting :
    ownSetting other (schedule ++ [.setting client choice]) =
      if client = other then some choice else ownSetting other schedule := by
  simp [ownSetting]

@[simp] theorem ownSetting_mmap :
    ownSetting other (schedule ++ [.mmap client outcome]) =
      if client = other then none else ownSetting other schedule := by
  simp [ownSetting]

/-! ## What a schedule leads to -/

structure Follows (clients : Clients) (schedule : List ClientStep) : Prop where
  pending : ∀ client, clients.pending client = ownSetting client schedule
  recorded : ∀ last, lastSetting schedule = some last → clients.kernel.xdmaSetting = last.info
  asked : ∀ client own, ownSetting client schedule = some own → (lastSetting schedule).isSome

def Clients.idle (kernel : Kernel) : Clients := ⟨kernel, fun _ => none⟩

theorem follows_idle (kernel : Kernel) : Follows (.idle kernel) [] where
  pending := fun _ => rfl
  recorded := by simp [lastSetting]
  asked := by simp [ownSetting]

theorem Choice.names (choice : Choice) : Names choice.info choice.dir choice.index :=
  ⟨rfl, rfl⟩

theorem Choice.forwarded (choice : Choice) :
    Lib.xdmaMmapSetting (some choice.info) = .ok (rtpcIoctlXdma .setting, choice.info) := by
  have channel : ¬ Lib.channelRefused choice.info.channel := by
    simp only [Choice.info]
    generalize choice.index = index
    revert index
    decide
  have dir : ¬ (choice.info.dir < 0 ∨ 1 < choice.info.dir) := by
    simp only [Choice.info]
    generalize choice.dir = dir
    revert dir
    decide
  dsimp only [Lib.xdmaMmapSetting, Lib.channelRequest]
  rw [if_neg channel, if_neg dir]
  rfl

theorem driverStep_setting {devices : Nat → XdmaDev} {kernel : Kernel} {board : Nat}
    {info : XdmaInfo} :
    driverStep devices kernel ⟨board, .ioctl (rtpcIoctlXdma .setting) info .complete⟩ =
      some { kernel.untraced with xdmaSetting := info } := by
  unfold driverStep handled
  rw [answer_ioctl rfl]
  rfl

/-- An `mmap` maps the buffer of the last setting on the client's own board. -/
theorem Follows.mmap (follows : Follows clients schedule)
    (due : ownSetting client schedule = some own) :
    ∃ last next, lastSetting schedule = some last ∧
      driverStep boards.device clients.kernel ⟨own.board, .mmap outcome⟩ = some next ∧
      next.xdmaSetting = last.info ∧
      ∀ pData, .dmaCommonMmap pData ∈
          (handled boards.device clients.kernel ⟨own.board, .mmap outcome⟩).2.trace ↔
        pData = last.bufferOn boards own.board := by
  obtain ⟨last, set⟩ := Option.isSome_iff_exists.mp (follows.asked client own due)
  have recorded := follows.recorded last set
  have names : Names clients.kernel.xdmaSetting last.dir last.index := by
    rw [recorded]
    exact last.names
  obtain ⟨_, _, _, _, probed⟩ := boards.probed own.board
  obtain ⟨next, ran, same, mapped⟩ := vi53xxXdmaMmap_run outcome probed.ready names
  have answered : handled boards.device clients.kernel ⟨own.board, .mmap outcome⟩ =
      (.ok outcome, next) := ran
  refine ⟨last, next, set, ?_, same.trans recorded, ?_⟩
  · unfold driverStep
    rw [answered]
  · rw [answered]
    exact mapped

theorem Follows.asks {kernel : Kernel} (follows : Follows clients schedule)
    (recorded : kernel.xdmaSetting = choice.info) :
    Follows (clients.after kernel client (some choice)) (schedule ++ [.setting client choice]) where
  pending := by
    intro other
    simp only [Clients.after, ownSetting_setting, follows.pending other, eq_comm]
  recorded := by
    intro last set
    rw [lastSetting_setting] at set
    cases set
    exact recorded
  asked := by
    intro other own _
    rw [lastSetting_setting]
    rfl

theorem Follows.mapped {kernel : Kernel} (follows : Follows clients schedule)
    (set : lastSetting schedule = some last) (recorded : kernel.xdmaSetting = last.info) :
    Follows (clients.after kernel client none) (schedule ++ [.mmap client outcome]) where
  pending := by
    intro other
    simp only [Clients.after, ownSetting_mmap, follows.pending other, eq_comm]
  recorded := by
    intro other
    rw [lastSetting_mmap, set]
    rintro ⟨⟩
    exact recorded
  asked := by
    intro other own _
    rw [lastSetting_mmap, set]
    rfl

theorem Follows.unasked (follows : Follows clients schedule)
    (idle : clients.pending client = none) :
    Follows clients (schedule ++ [.mmap client outcome]) where
  pending := by
    intro other
    rw [ownSetting_mmap]
    split
    · next same => rw [← same, idle]
    · exact follows.pending other
  recorded := by
    rw [lastSetting_mmap]
    exact follows.recorded
  asked := by
    intro other own
    rw [lastSetting_mmap, ownSetting_mmap]
    split
    · intro none
      cases none
    · exact follows.asked other own

theorem Follows.step (follows : Follows clients schedule) (step : ClientStep) :
    ∃ next, clientStep boards clients step = some next ∧ Follows next (schedule ++ [step]) := by
  cases step with
  | setting client choice =>
      refine ⟨clients.after { clients.kernel.untraced with xdmaSetting := choice.info } client choice,
        ?_, follows.asks rfl⟩
      simp only [clientStep, choice.forwarded, driverStep_setting]
      rfl
  | mmap client outcome =>
      cases due : clients.pending client with
      | none => exact ⟨clients, by simp [clientStep, due], follows.unasked due⟩
      | some choice =>
          obtain ⟨last, kernel, set, stepped, recorded, _⟩ :=
            @Follows.mmap boards clients schedule client choice outcome follows
              ((follows.pending client).symm.trans due)
          refine ⟨clients.after kernel client none, ?_, follows.mapped set recorded⟩
          simp [clientStep, due, stepped]

theorem follows_run (boards : Boards) (kernel : Kernel) (schedule : List ClientStep) :
    ∃ clients, runFrom (clientStep boards) (.idle kernel) schedule = some clients ∧
      Follows clients schedule := by
  induction schedule using List.reverseRecOn with
  | nil => exact ⟨.idle kernel, rfl, follows_idle kernel⟩
  | append_singleton schedule step ih =>
      obtain ⟨clients, ran, follows⟩ := ih
      obtain ⟨next, stepped, after⟩ := @Follows.step boards clients schedule follows step
      exact ⟨next, by simp [runFrom_append, ran, runFrom, stepped], after⟩

theorem Follows.mapsOwn_iff (follows : Follows clients schedule) :
    MapsOwn boards clients (.mmap client outcome) ↔
      ∀ own last, ownSetting client schedule = some own → lastSetting schedule = some last →
        SameChannel boards own last := by
  have shared : ∀ own last : Choice,
      own.bufferOn boards own.board = last.bufferOn boards own.board ↔ SameChannel boards own last := by
    intro own last
    obtain ⟨_, _, _, _, probed⟩ := boards.probed own.board
    exact probed.ready.buffer_eq_iff
  constructor
  · intro mapsOwn own last due set
    obtain ⟨other, _, found, _, _, mapped⟩ :=
      @Follows.mmap boards clients schedule client own outcome follows due
    rw [set] at found
    cases found
    have both := mapsOwn own ((follows.pending client).trans due)
      (own.bufferOn boards own.board)
    exact (shared own last).mp ((mapped _).mp (both.mpr rfl))
  · intro same own pending pData
    have due := (follows.pending client).symm.trans pending
    obtain ⟨last, _, set, _, _, mapped⟩ :=
      @Follows.mmap boards clients schedule client own outcome follows due
    rw [mapped, (shared own last).mpr (same own last due set)]

/-- In every schedule of the steps of any clients, each `mmap` maps the buffer that
its client asked for exactly when the last setting before it, by whichever
client, names the same channel and direction. -/
theorem clients_map_own_iff (boards : Boards) (kernel : Kernel) (schedule : List ClientStep) :
    EachStep (clientStep boards) (MapsOwn boards) (.idle kernel) schedule ↔
      ∀ before client outcome after own last,
        schedule = before ++ .mmap client outcome :: after →
        ownSetting client before = some own → lastSetting before = some last →
          SameChannel boards own last := by
  rw [eachStep_iff_prefixes]
  constructor
  · intro mapped before client outcome after own last split due set
    obtain ⟨clients, ran, follows⟩ := follows_run boards kernel before
    have mapsOwn := mapped before (.mmap client outcome) after clients split ran
    exact follows.mapsOwn_iff.mp mapsOwn own last due set
  · intro same before step after reached split ran
    obtain ⟨clients, follow, follows⟩ := follows_run boards kernel before
    rw [follow] at ran
    cases ran
    cases step with
    | setting client choice => trivial
    | mmap client outcome =>
        exact follows.mapsOwn_iff.mpr fun own last => same before client outcome after own last split

def fromCard (board : Nat) (index : Fin xdmaChannelNum) : Choice := ⟨board, 1, index, .cleared⟩

/-- Client 1 asks for channel 1 of board 0 and gets channel 2, for which client 2
has asked on board 1 in between. -/
theorem mmap_gets_other_channel :
    ∃ boards final,
      xdmaChannelInit (fun _ => some 0) (.allocated 0 allMapped) .booted =
        (.ok (boards.device 0), final) ∧
      ¬ EachStep (clientStep boards) (MapsOwn boards) (.idle final)
        [.setting 1 (fromCard 0 0), .setting 2 (fromCard 1 1), .mmap 1 0, .mmap 2 0] := by
  obtain ⟨xdev, final, probed, ready, _⟩ :=
    @xdmaChannelInit_run (fun _ => some 0) 1 0 allMapped .booted rfl
  refine ⟨⟨fun _ => xdev, fun _ => ⟨_, _, _, _, final, probed⟩⟩, final, probed, ?_⟩
  intro mapped
  rw [eachStep_iff_prefixes] at mapped
  obtain ⟨clients, ran, follows⟩ :=
    follows_run ⟨fun _ => xdev, fun _ => ⟨_, _, _, _, final, probed⟩⟩ final
      [.setting 1 (fromCard 0 0), .setting 2 (fromCard 1 1)]
  have mapsOwn := mapped _ (.mmap 1 0) [.mmap 2 0] clients rfl ran
  rcases follows.mapsOwn_iff.mp mapsOwn (fromCard 0 0) (fromCard 1 1) rfl rfl with same | empty
  · exact absurd same.2 (by decide)
  · have buffer : (xdev.c2hDmaCfg 0).pData 0 = some 0 := ready.firstC2h.pData
    cases buffer.symm.trans empty.1

end Vi53xx.System
