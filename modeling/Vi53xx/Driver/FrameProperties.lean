import Vi53xx.Driver.MmapProperties
import Vi53xx.Driver.Requests

/-! What a request on one board can reach: the registers behind its own BARs, its own
buffers and flags, and user memory. The setting of the driver is the one thing that
boards share. -/

set_option autoImplicit false

namespace Vi53xx.Driver

open Foundation Foundation.Program

def XdmaDev.Has (xdev : XdmaDev) (block : Nat) : Prop :=
  ∃ dir index, xdev.buffer dir index = some block

/-- The access comes to no memory but the buffers of the device. -/
def Access.Own (xdev : XdmaDev) : Access → Prop
  | .h2cDmaCfg _ | .c2hDmaCfg _ | .bar _ _ => True
  | .buffer block _ _ => xdev.Has block
  | .setMemoryUc pData | .dmaCommonMmap pData => ∀ block, pData = some block → xdev.Has block

structure Isolated (xdev : XdmaDev) (before after : Kernel) : Prop where
  regs : ∀ base, (∀ index, xdev.bar index ≠ some base) → after.regs base = before.regs base
  buffers : ∀ block, ¬ xdev.Has block → after.buffers block = before.buffers block
  descs : after.descs = before.descs
  fmap : ∀ idx, idx ≠ xdev.idx → after.fmap idx = before.fmap idx
  allocated : after.allocated = before.allocated
  logs : Logs (Access.Own xdev) before after

variable {xdev : XdmaDev} {first second third : Kernel} {index start : Int} {block : Nat}
  {offset value : BitVec 32} {buf : BitVec 64} {size missed : Nat} {channel direction : BitVec 8}
  {cfg : XdmaCfgInfo} {info : XdmaInfo} {outcome : CopyOutcome} {cmd : XdmaCmd} {pData : Option Nat}

theorem Isolated.refl (state : Kernel) : Isolated xdev state state :=
  ⟨fun _ _ => rfl, fun _ _ => rfl, rfl, fun _ _ => rfl, rfl, Logs.refl state⟩

theorem Isolated.trans (before : Isolated xdev first second) (after : Isolated xdev second third) :
    Isolated xdev first third where
  regs := fun base foreign => (after.regs base foreign).trans (before.regs base foreign)
  buffers := fun block foreign => (after.buffers block foreign).trans (before.buffers block foreign)
  descs := after.descs.trans before.descs
  fmap := fun idx other => (after.fmap idx other).trans (before.fmap idx other)
  allocated := after.allocated.trans before.allocated
  logs := before.logs.trans after.logs

theorem Isolated.bind {Value Other : Type} {program : KernelM Value} {next : Value → KernelM Other}
    (head : Respects (Isolated xdev) program) (tail : ∀ value, Respects (Isolated xdev) (next value)) :
    Respects (Isolated xdev) (program >>= next) :=
  Respects.bind Isolated.trans head tail

/-! ## Primitives -/

theorem isolated_logAccess {access : Access} (own : access.Own xdev) :
    Respects (Isolated xdev) (logAccess access) :=
  fun state => ⟨fun _ _ => rfl, fun _ _ => rfl, rfl, fun _ _ => rfl, rfl, logs_logAccess own state⟩

theorem entryAt_mem {Entry : Type} {length : Nat} {table : Fin length → Entry} {entry : Entry}
    (found : entryAt table index = some entry) : ∃ place, table place = entry := by
  unfold entryAt at found
  split at found
  · exact ⟨_, Option.some.inj found⟩
  · cases found

/-- A base is the address of one of the device's BARs, or NULL. -/
def XdmaDev.BarBase (xdev : XdmaDev) (base : Option Nat) : Prop :=
  ∀ one, base = some one → ∃ index, xdev.bar index = some one

theorem regBase_barBase {base : Option Nat} {state final : Kernel}
    (ran : regBase xdev index state = (.ok base, final)) : xdev.BarBase base := by
  intro one same
  obtain ⟨place, held⟩ := entryAt_mem (regBase_found ran)
  exact ⟨place, held.trans same⟩

theorem isolated_regBase {Value : Type} {next : Option Nat → KernelM Value}
    (tail : ∀ base, xdev.BarBase base → Respects (Isolated xdev) (next base)) :
    Respects (Isolated xdev) (regBase xdev index >>= next) :=
  Respects.bind_result Isolated.trans
    (respects_regBase Isolated.refl Isolated.trans (isolated_logAccess trivial))
    (fun _ _ _ ran => regBase_barBase ran) tail

theorem isolated_h2cDmaCfg {Value : Type} {next : XdmaCfgInfo → KernelM Value}
    (tail : ∀ place, Respects (Isolated xdev) (next (xdev.cfg 0 place))) :
    Respects (Isolated xdev) (h2cDmaCfg xdev index >>= next) := by
  refine Respects.bind_result Isolated.trans
    (respects_h2cDmaCfg Isolated.refl Isolated.trans (isolated_logAccess trivial))
    (fun _ _ _ ran => entryAt_mem (h2cDmaCfg_found ran)) ?_
  rintro _ ⟨place, rfl⟩
  exact tail place

theorem isolated_c2hDmaCfg {Value : Type} {next : XdmaCfgInfo → KernelM Value}
    (tail : ∀ place, Respects (Isolated xdev) (next (xdev.cfg 1 place))) :
    Respects (Isolated xdev) (c2hDmaCfg xdev index >>= next) := by
  refine Respects.bind_result Isolated.trans
    (respects_c2hDmaCfg Isolated.refl Isolated.trans (isolated_logAccess trivial))
    (fun _ _ _ ran => entryAt_mem (c2hDmaCfg_found ran)) ?_
  rintro _ ⟨place, rfl⟩
  exact tail place

theorem isolated_readReg {base : Option Nat} : Respects (Isolated xdev) (readReg base offset) :=
  respects_readReg Isolated.refl

theorem isolated_writeReg {base : Option Nat} (own : xdev.BarBase base) :
    Respects (Isolated xdev) (writeReg base offset value) := by
  cases base with
  | none => exact respects_fault Isolated.refl
  | some one =>
      intro state
      refine ⟨?_, fun _ _ => rfl, rfl, fun _ _ => rfl, rfl, Logs.of_same rfl⟩
      intro other foreign
      obtain ⟨index, held⟩ := own one rfl
      funext place
      refine if_neg ?_
      rintro ⟨rfl, _⟩
      exact foreign index held

theorem isolated_copyFromUser (own : ∀ block, pData = some block → xdev.Has block) :
    Respects (Isolated xdev) (copyFromUser pData start buf size missed) := by
  cases pData with
  | none =>
      dsimp only [copyFromUser]
      split
      · exact respects_pure Isolated.refl
      · exact respects_fault Isolated.refl
  | some block =>
      refine Isolated.bind (isolated_logAccess (own block rfl)) ?_
      intro _ state
      refine ⟨fun _ _ => rfl, ?_, rfl, fun _ _ => rfl, rfl, Logs.of_same rfl⟩
      intro other foreign
      funext place
      refine if_neg ?_
      rintro ⟨rfl, _⟩
      exact foreign (own other rfl)

theorem isolated_copyToUser (own : ∀ block, pData = some block → xdev.Has block) :
    Respects (Isolated xdev) (copyToUser pData start buf size missed) :=
  respects_copyToUser Isolated.refl Isolated.trans (fun block same => isolated_logAccess (own block same))
    fun _ _ => ⟨fun _ _ => rfl, fun _ _ => rfl, rfl, fun _ _ => rfl, rfl, Logs.of_same rfl⟩

theorem isolated_copyValueToUser : Respects (Isolated xdev) (copyValueToUser value buf missed) :=
  fun _ => ⟨fun _ _ => rfl, fun _ _ => rfl, rfl, fun _ _ => rfl, rfl, Logs.of_same rfl⟩

/-! ## Requests -/

theorem XdmaDev.has_buffer {dir : Fin 2} {place : Fin xdmaChannelNum} :
    ∀ block, (xdev.cfg dir place).pData 0 = some block → xdev.Has block :=
  fun _ held => ⟨dir, place, held⟩

theorem isolated_xdmaStart : Respects (Isolated xdev) (xdmaStart xdev channel direction) :=
  isolated_regBase fun _ own => Isolated.bind (isolated_writeReg own) fun _ =>
    Isolated.bind isolated_readReg fun _ => respects_pure Isolated.refl

theorem isolated_xdmaStartDesc : Respects (Isolated xdev) (xdmaStartDesc xdev channel cfg) := by
  refine isolated_regBase ?_
  intro base own
  split
  · exact isolated_writeReg own
  · exact respects_pure Isolated.refl

theorem isolated_xdmaStop : Respects (Isolated xdev) (xdmaStop xdev channel direction) :=
  isolated_regBase fun _ own => isolated_writeReg own

theorem isolated_startCfg {number : BitVec 32} {next : XdmaCfgInfo → KernelM Int}
    (tail : ∀ cfg, Respects (Isolated xdev) (next cfg)) :
    Respects (Isolated xdev) (startCfg xdev number direction cfg >>= next) := by
  unfold startCfg
  split
  · exact isolated_h2cDmaCfg fun _ => tail _
  · split
    · exact isolated_c2hDmaCfg fun _ => tail _
    · exact Isolated.bind (respects_pure Isolated.refl) tail

theorem isolated_getXdmaCfg {next : XdmaCfgInfo → KernelM Int}
    (tail : ∀ dir place, Respects (Isolated xdev) (next (xdev.cfg dir place))) :
    Respects (Isolated xdev) (getXdmaCfg xdev info >>= next) := by
  unfold getXdmaCfg
  split
  · exact isolated_h2cDmaCfg (tail 0)
  · exact isolated_c2hDmaCfg (tail 1)

theorem isolated_vi53xxXdmaReg : Respects (Isolated xdev) (vi53xxXdmaReg xdev info missed) := by
  refine isolated_regBase ?_
  intro base own
  split
  · exact Isolated.bind isolated_readReg fun _ => isolated_copyValueToUser
  · split
    · exact Isolated.bind (isolated_writeReg own) fun _ => respects_pure Isolated.refl
    · exact respects_pure Isolated.refl

theorem isolated_runCommand : Respects (Isolated xdev) (runCommand xdev cmd info outcome) := by
  cases cmd with
  | init => exact isolated_h2cDmaCfg fun _ => isolated_copyFromUser XdmaDev.has_buffer
  | start =>
      exact isolated_startCfg fun _ => Isolated.bind isolated_xdmaStartDesc fun _ =>
        Isolated.bind isolated_xdmaStart fun _ => respects_pure Isolated.refl
  | stop => exact Isolated.bind isolated_xdmaStop fun _ => respects_pure Isolated.refl
  | reg => exact isolated_vi53xxXdmaReg
  | print => exact isolated_c2hDmaCfg fun _ => isolated_copyToUser XdmaDev.has_buffer
  | setting =>
      exact fun _ => ⟨fun _ _ => rfl, fun _ _ => rfl, rfl, fun _ _ => rfl, rfl, Logs.of_same rfl⟩
  | exit => exact isolated_getXdmaCfg fun _ _ => respects_pure Isolated.refl
  | dump => exact isolated_h2cDmaCfg fun _ => isolated_copyToUser XdmaDev.has_buffer

theorem isolated_xdmaMmap {ret : Int} (own : ∀ block, cfg.pData 0 = some block → xdev.Has block) :
    Respects (Isolated xdev) (xdmaMmap xdev cfg ret) := by
  unfold xdmaMmap
  split
  · intro state
    rw [read_bind]
    have mapped : Respects (Isolated xdev) (logAccess (.dmaCommonMmap (cfg.pData 0))) :=
      isolated_logAccess own
    have returned : Respects (Isolated xdev) (pure ret : KernelM Int) := respects_pure Isolated.refl
    have answered := Isolated.bind mapped fun _ => returned
    split
    · have uncached : Respects (Isolated xdev) (logAccess (.setMemoryUc (cfg.pData 0))) :=
        isolated_logAccess own
      refine Isolated.bind uncached (fun _ => ?_) state
      refine Isolated.bind ?_ fun _ => answered
      intro state
      refine ⟨fun _ _ => rfl, fun _ _ => rfl, rfl, ?_, rfl, Logs.of_same rfl⟩
      intro idx other
      funext one place
      refine if_neg ?_
      rintro ⟨here, _⟩
      exact other here
    · exact answered state
  · exact respects_fault Isolated.refl

/-- A request comes to no other board, whatever it asks for and however it ends. -/
theorem isolated_answer (xdev : XdmaDev) (request : Request) :
    Respects (Isolated xdev) (answer xdev request) := by
  cases request with
  | ioctl cmd info outcome =>
      dsimp only [answer, vi53xxIoctl]
      split
      · unfold vi53xxIoctlXdma
        split
        · exact respects_pure Isolated.refl
        · split
          · exact respects_pure Isolated.refl
          · exact isolated_runCommand
      · exact respects_pure Isolated.refl
  | mmap outcome =>
      intro state
      dsimp only [answer, vi53xxXdmaMmap]
      rw [read_bind]
      exact isolated_getXdmaCfg (fun _ _ => isolated_xdmaMmap XdmaDev.has_buffer) state

end Vi53xx.Driver
