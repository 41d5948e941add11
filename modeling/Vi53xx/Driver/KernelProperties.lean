import Vi53xx.Driver.XdmaCtrl

/-! What the programs of the driver log, and that no request takes back a log entry. -/

set_option autoImplicit false

namespace Vi53xx.Driver

open Foundation Foundation.Program

variable {inside : Access → Prop} {first second third : Kernel}

def Logs (inside : Access → Prop) (before after : Kernel) : Prop :=
  ∃ new, after.trace = new ++ before.trace ∧ ∀ access ∈ new, inside access

theorem Logs.refl (state : Kernel) : Logs inside state state := by
  exact ⟨[], rfl, by simp⟩

theorem Logs.of_same (same : second.trace = first.trace) : Logs inside first second := by
  exact ⟨[], same, by simp⟩

theorem Logs.trans (before : Logs inside first second) (after : Logs inside second third) :
    Logs inside first third := by
  obtain ⟨early, grown, each⟩ := before
  obtain ⟨late, more, every⟩ := after
  refine ⟨late ++ early, by rw [more, grown, List.append_assoc], ?_⟩
  intro access member
  rcases List.mem_append.mp member with recent | old
  · exact every access recent
  · exact each access old

theorem Logs.bind {Value Other : Type} {program : KernelM Value} {next : Value → KernelM Other}
    (head : Respects (Logs inside) program) (tail : ∀ value, Respects (Logs inside) (next value)) :
    Respects (Logs inside) (program >>= next) :=
  Respects.bind Logs.trans head tail

theorem Logs.mem {access : Access} (logs : Logs inside first second) (member : access ∈ first.trace) :
    access ∈ second.trace := by
  obtain ⟨new, grown, _⟩ := logs
  rw [grown]
  exact List.mem_append_right new member

/-! ## Primitives -/

variable {xdev : XdmaDev} {index start : Int} {block : Option Nat} {offset value : BitVec 32}
  {buf : BitVec 64} {size missed : Nat} {channel direction : BitVec 8} {cfg : XdmaCfgInfo}

def barAccess (xdev : XdmaDev) (index : Int) : Access :=
  .bar index (entryAt xdev.bar index).join.isSome

section Relations

variable {relation : Kernel → Kernel → Prop} (reflexive : ∀ state, relation state state)
  (transitive : ∀ {first second third}, relation first second → relation second third →
    relation first third)

include reflexive

theorem respects_readReg : Respects relation (readReg block offset) := by
  intro state
  cases block with
  | none | some block => exact reflexive state

include transitive

theorem respects_h2cDmaCfg (logged : Respects relation (logAccess (.h2cDmaCfg index))) :
    Respects relation (h2cDmaCfg xdev index) := by
  refine Respects.bind transitive logged ?_
  intro _
  split
  · exact respects_pure reflexive
  · exact respects_fault reflexive

theorem respects_c2hDmaCfg (logged : Respects relation (logAccess (.c2hDmaCfg index))) :
    Respects relation (c2hDmaCfg xdev index) := by
  refine Respects.bind transitive logged ?_
  intro _
  split
  · exact respects_pure reflexive
  · exact respects_fault reflexive

theorem respects_regBase (logged : Respects relation (logAccess (barAccess xdev index))) :
    Respects relation (regBase xdev index) := by
  unfold barAccess at logged
  unfold regBase
  cases found : entryAt xdev.bar index with
  | some base =>
      rw [found] at logged
      exact Respects.bind transitive logged fun _ => respects_pure reflexive
  | none =>
      rw [found] at logged
      exact Respects.bind transitive logged fun _ => respects_fault reflexive

theorem respects_copyToUser
    (logged : ∀ one, block = some one →
      Respects relation (logAccess (.buffer one start (size - missed))))
    (copied : ∀ state user, relation state { state with user }) :
    Respects relation (copyToUser block start buf size missed) := by
  cases block with
  | none =>
      dsimp only [copyToUser]
      split
      · exact respects_pure reflexive
      · exact respects_fault reflexive
  | some block =>
      refine Respects.bind transitive (logged block rfl) ?_
      intro _ state
      exact copied state _

end Relations

theorem logs_logAccess {access : Access} (allowed : inside access) :
    Respects (Logs inside) (logAccess access) := by
  intro state
  refine ⟨[access], rfl, ?_⟩
  intro other member
  rw [List.mem_singleton.mp member]
  exact allowed

theorem logs_h2cDmaCfg (allowed : inside (.h2cDmaCfg index)) :
    Respects (Logs inside) (h2cDmaCfg xdev index) :=
  respects_h2cDmaCfg Logs.refl Logs.trans (logs_logAccess allowed)

theorem logs_c2hDmaCfg (allowed : inside (.c2hDmaCfg index)) :
    Respects (Logs inside) (c2hDmaCfg xdev index) :=
  respects_c2hDmaCfg Logs.refl Logs.trans (logs_logAccess allowed)

theorem logs_regBase (allowed : inside (barAccess xdev index)) :
    Respects (Logs inside) (regBase xdev index) :=
  respects_regBase Logs.refl Logs.trans (logs_logAccess allowed)

theorem logs_readReg : Respects (Logs inside) (readReg block offset) :=
  respects_readReg Logs.refl

theorem logs_writeReg : Respects (Logs inside) (writeReg block offset value) := by
  intro state
  cases block with
  | none => exact Logs.refl state
  | some block => exact Logs.of_same rfl

theorem logs_copyFromUser
    (allowed : ∀ one, block = some one → inside (.buffer one start size)) :
    Respects (Logs inside) (copyFromUser block start buf size missed) := by
  cases block with
  | none =>
      dsimp only [copyFromUser]
      split
      · exact respects_pure Logs.refl
      · exact respects_fault Logs.refl
  | some block =>
      refine Logs.bind (logs_logAccess (allowed block rfl)) ?_
      intro _ state
      exact Logs.of_same rfl

theorem logs_copyToUser
    (allowed : ∀ one, block = some one → inside (.buffer one start (size - missed))) :
    Respects (Logs inside) (copyToUser block start buf size missed) :=
  respects_copyToUser Logs.refl Logs.trans (fun one here => logs_logAccess (allowed one here))
    fun _ _ => Logs.of_same rfl

theorem logs_copyValueToUser : Respects (Logs inside) (copyValueToUser value buf missed) := by
  intro state
  exact Logs.of_same rfl

/-! ## What is logged for sure -/

variable {state : Kernel}

theorem logged_first {Value Other : Type} {program : KernelM Value} {next : Value → KernelM Other}
    {access : Access} (head : access ∈ (program state).2.trace)
    (tail : ∀ value, Respects (Logs fun _ => True) (next value)) :
    access ∈ ((program >>= next) state).2.trace := by
  cases ran : program state with
  | mk outcome middle =>
      rw [ran] at head
      cases outcome with
      | error reason =>
          rw [bind_error ran]
          exact head
      | ok value =>
          rw [bind_ok ran]
          exact (tail value middle).mem head

theorem logAccess_logged {access : Access} : access ∈ (logAccess access state).2.trace :=
  List.mem_cons_self

theorem h2cDmaCfg_logged : .h2cDmaCfg index ∈ (h2cDmaCfg xdev index state).2.trace := by
  refine logged_first logAccess_logged ?_
  intro _
  split
  · exact respects_pure Logs.refl
  · exact respects_fault Logs.refl

theorem c2hDmaCfg_logged : .c2hDmaCfg index ∈ (c2hDmaCfg xdev index state).2.trace := by
  refine logged_first logAccess_logged ?_
  intro _
  split
  · exact respects_pure Logs.refl
  · exact respects_fault Logs.refl

theorem regBase_logged : barAccess xdev index ∈ (regBase xdev index state).2.trace := by
  unfold regBase barAccess
  cases entryAt xdev.bar index with
  | some base => exact logged_first logAccess_logged fun _ => respects_pure Logs.refl
  | none => exact logged_first logAccess_logged fun _ => respects_fault Logs.refl

def Kernel.logged (state : Kernel) (access : Access) : Kernel :=
  { state with trace := access :: state.trace }

@[simp] theorem Kernel.logged_trace {access : Access} :
    (state.logged access).trace = access :: state.trace := rfl

@[simp] theorem Kernel.logged_fmap {access : Access} : (state.logged access).fmap = state.fmap := rfl

@[simp] theorem Kernel.logged_xdmaSetting {access : Access} :
    (state.logged access).xdmaSetting = state.xdmaSetting := rfl

theorem h2cDmaCfg_run (found : entryAt xdev.h2cDmaCfg index = some cfg) :
    h2cDmaCfg xdev index state =
      (.ok cfg, { state with trace := .h2cDmaCfg index :: state.trace }) := by
  simp [h2cDmaCfg, found, logAccess]

theorem c2hDmaCfg_run (found : entryAt xdev.c2hDmaCfg index = some cfg) :
    c2hDmaCfg xdev index state =
      (.ok cfg, { state with trace := .c2hDmaCfg index :: state.trace }) := by
  simp [c2hDmaCfg, found, logAccess]

theorem h2cDmaCfg_outside (outside : entryAt xdev.h2cDmaCfg index = none) :
    (h2cDmaCfg xdev index state) = (.error .outOfBounds, state.logged (.h2cDmaCfg index)) := by
  simp [h2cDmaCfg, outside, logAccess, Kernel.logged]

theorem c2hDmaCfg_outside (outside : entryAt xdev.c2hDmaCfg index = none) :
    (c2hDmaCfg xdev index state) = (.error .outOfBounds, state.logged (.c2hDmaCfg index)) := by
  simp [c2hDmaCfg, outside, logAccess, Kernel.logged]

theorem regBase_entry {base : Option Nat} (entry : entryAt xdev.bar index = some base) :
    regBase xdev index state = (.ok base, state.logged (.bar index base.isSome)) := by
  simp [regBase, entry, logAccess, Kernel.logged]

theorem h2cDmaCfg_found {final : Kernel} (ran : h2cDmaCfg xdev index state = (.ok cfg, final)) :
    entryAt xdev.h2cDmaCfg index = some cfg := by
  cases found : entryAt xdev.h2cDmaCfg index with
  | none => cases (h2cDmaCfg_outside found).symm.trans ran
  | some entry =>
      cases (h2cDmaCfg_run found).symm.trans ran
      rfl

theorem c2hDmaCfg_found {final : Kernel} (ran : c2hDmaCfg xdev index state = (.ok cfg, final)) :
    entryAt xdev.c2hDmaCfg index = some cfg := by
  cases found : entryAt xdev.c2hDmaCfg index with
  | none => cases (c2hDmaCfg_outside found).symm.trans ran
  | some entry =>
      cases (c2hDmaCfg_run found).symm.trans ran
      rfl

theorem regBase_found {base : Option Nat} {final : Kernel}
    (ran : regBase xdev index state = (.ok base, final)) : entryAt xdev.bar index = some base := by
  cases found : entryAt xdev.bar index with
  | none => simp [regBase, found, logAccess] at ran
  | some entry =>
      cases (regBase_entry found).symm.trans ran
      rfl

/-! ## Operations of a channel -/

theorem logs_xdmaStart (bar : inside (barAccess xdev 1)) :
    Respects (Logs inside) (xdmaStart xdev channel direction) := by
  refine Logs.bind (logs_regBase bar) ?_
  intro base
  refine Logs.bind logs_writeReg ?_
  intro _
  exact Logs.bind logs_readReg fun _ => respects_pure Logs.refl

theorem logs_xdmaStartDesc (bar : inside (barAccess xdev 1)) :
    Respects (Logs inside) (xdmaStartDesc xdev channel cfg) := by
  refine Logs.bind (logs_regBase bar) ?_
  intro base
  split
  · exact logs_writeReg
  · exact respects_pure Logs.refl

theorem logs_xdmaStop (bar : inside (barAccess xdev 1)) :
    Respects (Logs inside) (xdmaStop xdev channel direction) :=
  Logs.bind (logs_regBase bar) fun _ => logs_writeReg

theorem logs_xdmaMmap {outcome : Int} (uncached : inside (.setMemoryUc (cfg.pData 0)))
    (mapped : inside (.dmaCommonMmap (cfg.pData 0))) :
    Respects (Logs inside) (xdmaMmap xdev cfg outcome) := by
  unfold xdmaMmap
  split
  · refine Logs.bind (fun state => Logs.refl state) ?_
    intro before
    have last : Respects (Logs inside) (do
        logAccess (.dmaCommonMmap (cfg.pData 0))
        pure outcome) :=
      Logs.bind (logs_logAccess mapped) fun _ => respects_pure Logs.refl
    dsimp only
    split
    · refine Logs.bind (logs_logAccess uncached) ?_
      intro _
      refine Logs.bind (fun state => Logs.of_same rfl) ?_
      intro _
      exact last
    · exact last
  · exact respects_fault Logs.refl

end Vi53xx.Driver
