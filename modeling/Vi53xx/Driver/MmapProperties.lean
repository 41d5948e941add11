import Vi53xx.Driver.ChannelInitProperties
import Vi53xx.Driver.FreeResource
import Vi53xx.Driver.TransferProperties

/-! What `mmap` maps: the buffer of the channel that the recorded setting names. -/

set_option autoImplicit false

namespace Vi53xx.Driver

open Foundation Foundation.Program

def XdmaDev.buffer (xdev : XdmaDev) (dir : Fin 2) (index : Fin xdmaChannelNum) : Option Nat :=
  (xdev.cfg dir index).pData 0

def Names (info : XdmaInfo) (dir : Fin 2) (index : Fin xdmaChannelNum) : Prop :=
  info.dir = BitVec.ofNat 8 dir.val ∧ info.channel = BitVec.ofNat 32 (index.val + 1)

variable {xdev : XdmaDev} {info : XdmaInfo} {state : Kernel} {dir other : Fin 2}
  {index place : Fin xdmaChannelNum} {cfg : XdmaCfgInfo} {answers : Nat → Option (BitVec 64)}
  {attempt idx : Nat} {bars : Fin xdmaBarNum → Option Nat} {outcome : Int}

/-! ## Configs of a probed board -/

theorem Ready.numbered (ready : Ready answers attempt idx bars xdev) :
    (xdev.cfg dir index).direction = BitVec.ofNat 8 dir.val ∧
      (xdev.cfg dir index).channel = index.val + 1 := by
  match dir, index with
  | 0, 0 => exact ⟨ready.firstH2c.direction, ready.firstH2c.channel⟩
  | 1, 0 => exact ⟨ready.firstC2h.direction, ready.firstC2h.channel⟩
  | 1, 1 => exact ⟨ready.secondC2h.direction, ready.secondC2h.channel⟩
  | 0, 1 =>
      have unset : xdev.cfg 0 1 = unset 0 1 := ready.secondH2c
      rw [unset]
      exact ⟨rfl, rfl⟩

/-- Which attempt of a probe allocates the buffer of a channel, if its setup makes one. -/
def bufferOffset : Fin 2 → Fin xdmaChannelNum → Option Nat
  | 1, 0 => some 0
  | 0, 0 => some 2
  | 1, 1 => some 4
  | _, _ => none

theorem bufferOffset_inj : ∀ (dir : Fin 2) (index : Fin xdmaChannelNum) (other : Fin 2)
    (place : Fin xdmaChannelNum), bufferOffset dir index = bufferOffset other place →
      (bufferOffset dir index).isSome → dir = other ∧ index = place := by
  decide

theorem Ready.buffer_offset {block : Nat} (ready : Ready answers attempt idx bars xdev)
    (allocated : xdev.buffer dir index = some block) :
    ∃ offset, bufferOffset dir index = some offset ∧ block = attempt + offset := by
  have tried : ∀ {one : Nat}, ((answers one).map fun _ => one) = some block → block = one := by
    intro one mapped
    obtain ⟨_, _, same⟩ := Option.map_eq_some_iff.mp mapped
    exact same.symm
  match dir, index with
  | 0, 0 => exact ⟨2, rfl, tried (ready.firstH2c.pData.symm.trans allocated)⟩
  | 1, 0 => exact ⟨0, rfl, tried (ready.firstC2h.pData.symm.trans allocated)⟩
  | 1, 1 => exact ⟨4, rfl, tried (ready.secondC2h.pData.symm.trans allocated)⟩
  | 0, 1 =>
      have unset : xdev.cfg 0 1 = unset 0 1 := ready.secondH2c
      unfold XdmaDev.buffer at allocated
      rw [unset] at allocated
      cases allocated

/-- Two channels of a board have one buffer only when neither has any. -/
theorem Ready.buffer_eq_iff (ready : Ready answers attempt idx bars xdev) :
    xdev.buffer dir index = xdev.buffer other place ↔
      (dir = other ∧ index = place) ∨
        (xdev.buffer dir index = none ∧ xdev.buffer other place = none) := by
  constructor
  · intro same
    cases allocated : xdev.buffer dir index with
    | none => exact .inr ⟨rfl, same.symm.trans allocated⟩
    | some block =>
        have second : xdev.buffer other place = some block := same.symm.trans allocated
        -- Buffers are numbered by the attempts that allocate them, one for each channel.
        obtain ⟨early, first, same⟩ := ready.buffer_offset allocated
        obtain ⟨late, last, equal⟩ := ready.buffer_offset second
        have offsets : early = late := Nat.add_left_cancel (same.symm.trans equal)
        refine .inl (bufferOffset_inj dir index other place ?_ ?_)
        · rw [first, last, offsets]
        · rw [first]
          rfl
  · rintro (⟨rfl, rfl⟩ | ⟨one, two⟩)
    · rfl
    · rw [one, two]

/-! ## Mapping -/

def tableAccess (dir : Fin 2) (index : Int) : Access :=
  if dir = 0 then .h2cDmaCfg index else .c2hDmaCfg index

theorem getXdmaCfg_run (names : Names info dir index) :
    getXdmaCfg xdev info state =
      (.ok (xdev.cfg dir index), state.logged (tableAccess dir (info.channel.toInt - 1))) := by
  obtain ⟨direction, channel⟩ := names
  match dir with
  | 0 =>
      have selected : getXdmaCfg xdev info = h2cDmaCfg xdev (info.channel.toInt - 1) :=
        if_pos direction
      rw [selected]
      exact h2cDmaCfg_run (entryAt_channel channel)
  | 1 =>
      have selected : getXdmaCfg xdev info = c2hDmaCfg xdev (info.channel.toInt - 1) := by
        refine if_neg ?_
        rw [direction]
        decide
      rw [selected]
      exact c2hDmaCfg_run (entryAt_channel channel)

/-- The flag of a channel is at its number, one past its index. -/
def mapFlag (index : Fin xdmaChannelNum) : Fin 4 :=
  ⟨index.val + 1, Nat.lt_of_lt_of_le (Nat.succ_lt_succ index.isLt) (by decide)⟩

def Kernel.marked (state : Kernel) (idx : Nat) (dir : Fin 2) (channel : Fin 4) : Kernel :=
  { state with fmap := fun other one place =>
      if other = idx ∧ one = dir ∧ place = channel then true else state.fmap other one place }

/-- The first mapping of a channel makes its buffer uncached. -/
def Kernel.uncached (state : Kernel) (idx : Nat) (dir : Fin 2) (index : Fin xdmaChannelNum)
    (pData : Option Nat) : Kernel :=
  if state.fmap idx dir (mapFlag index) then state
  else (state.logged (.setMemoryUc pData)).marked idx dir (mapFlag index)

@[simp] theorem Kernel.uncached_trace {pData : Option Nat} :
    (state.uncached idx dir index pData).trace =
      if state.fmap idx dir (mapFlag index) then state.trace
      else .setMemoryUc pData :: state.trace := by
  unfold Kernel.uncached
  split
  · rfl
  · rfl

@[simp] theorem Kernel.uncached_xdmaSetting {pData : Option Nat} :
    (state.uncached idx dir index pData).xdmaSetting = state.xdmaSetting := by
  unfold Kernel.uncached
  split
  · rfl
  · rfl

theorem xdmaMmap_run (direction : cfg.direction = BitVec.ofNat 8 dir.val)
    (channel : cfg.channel = index.val + 1) :
    xdmaMmap xdev cfg outcome state =
      (.ok outcome,
        (state.uncached xdev.idx dir index (cfg.pData 0)).logged (.dmaCommonMmap (cfg.pData 0))) := by
  have narrow := dir.isLt
  have small : index.val < 2 := index.isLt
  have dirNumber : cfg.direction.toNat = dir.val := by
    rw [direction, BitVec.toNat_ofNat]
    exact Nat.mod_eq_of_lt (by omega)
  have channelNumber : cfg.channel.toNat = index.val + 1 := by
    rw [channel]
    rfl
  have bounded : cfg.direction.toNat < 2 ∧ 0 ≤ cfg.channel ∧ cfg.channel.toNat < 4 := by
    omega
  have sameDir : (⟨cfg.direction.toNat, bounded.1⟩ : Fin 2) = dir := Fin.ext dirNumber
  have sameChannel : (⟨cfg.channel.toNat, bounded.2.2⟩ : Fin 4) = mapFlag index :=
    Fin.ext channelNumber
  unfold xdmaMmap
  rw [dif_pos bounded]
  dsimp only
  rw [Program.read_bind, sameDir, sameChannel]
  unfold Kernel.uncached
  cases state.fmap xdev.idx dir (mapFlag index) with
  | true => rfl
  | false => rfl

/-- The driver once `mmap` has mapped the channel that its setting names. -/
def Kernel.mapped (state : Kernel) (xdev : XdmaDev) (dir : Fin 2) (index : Fin xdmaChannelNum) :
    Kernel :=
  ((state.logged (tableAccess dir (state.xdmaSetting.channel.toInt - 1))).uncached xdev.idx dir index
    (xdev.buffer dir index)).logged (.dmaCommonMmap (xdev.buffer dir index))

theorem vi53xxXdmaMmap_mapped (ready : Ready answers attempt idx bars xdev)
    (names : Names state.xdmaSetting dir index) :
    vi53xxXdmaMmap xdev outcome state = (.ok outcome, state.mapped xdev dir index) := by
  obtain ⟨direction, channel⟩ := @Ready.numbered xdev dir index answers attempt idx bars ready
  unfold vi53xxXdmaMmap
  rw [Program.read_bind]
  exact (bind_ok (getXdmaCfg_run names)).trans (xdmaMmap_run direction channel)

/-- `mmap` maps the buffer of the channel that was set last, on its own board. -/
theorem vi53xxXdmaMmap_run (outcome : Int) (ready : Ready answers attempt idx bars xdev)
    (names : Names state.xdmaSetting dir index) :
    ∃ after, vi53xxXdmaMmap xdev outcome state.untraced = (.ok outcome, after) ∧
      after.xdmaSetting = state.xdmaSetting ∧
      ∀ pData, .dmaCommonMmap pData ∈ after.trace ↔ pData = xdev.buffer dir index := by
  have answered : vi53xxXdmaMmap xdev outcome state.untraced = _ := vi53xxXdmaMmap_mapped ready names
  refine ⟨_, answered, ?_, ?_⟩
  · simp [Kernel.mapped, Kernel.untraced]
  · intro pData
    have table : Access.dmaCommonMmap pData ≠
        tableAccess dir (state.xdmaSetting.channel.toInt - 1) := by
      unfold tableAccess
      split
      · simp
      · simp
    simp only [Kernel.mapped, Kernel.logged_trace, Kernel.uncached_trace, Kernel.untraced]
    split
    · simp [table]
    · simp [table]

end Vi53xx.Driver
