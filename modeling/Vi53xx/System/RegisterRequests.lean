import Vi53xx.Lib.ScopeProperties
import Vi53xx.Driver.ChainProperties
import Vi53xx.System.TransferReports

/-! The register calls of the library as the driver serves them: a call succeeds when
the copies are complete, and one that fails changes neither a register nor the
caller's variable. -/

set_option autoImplicit false

namespace Vi53xx.System

open Foundation Foundation.Program Driver

/-- The `unsigned int` at an address, whose lowest byte comes first. -/
def wordAt (user : BitVec 64 → BitVec 8) (addr : BitVec 64) : BitVec 32 :=
  user (addr + 3) ++ user (addr + 2) ++ user (addr + 1) ++ user addr

def registerCall : Lib.RegRequest → BitVec 64 → TransferCall
  | .read offset _, addr => .readRegister 0 offset addr
  | .write offset val, _ => .writeRegister 0 offset val

/-- The copies are complete, or nothing is copied at all. -/
def Decided (outcome : CopyOutcome) : Prop := outcome.infoMissed = 0 → outcome.dataMissed = 0

variable {stack : XdmaInfo} {outcome : CopyOutcome} {xdev : XdmaDev} {kernel : Kernel} {base : Nat}
  {offset val : BitVec 32} {addr : BitVec 64}

theorem join_bytes (value : BitVec 32) :
    value.extractLsb' 24 8 ++ value.extractLsb' 16 8 ++ value.extractLsb' 8 8 ++
      value.extractLsb' 0 8 = value := by
  ext i bounded
  simp
  grind

theorem copied_word (value : BitVec 32) :
    wordAt (fun place => if (place - addr).toNat < 4 then
      value.extractLsb' (8 * (place - addr).toNat) 8 else kernel.user place) addr = value := by
  have third : (addr + 3 - addr).toNat = 3 := by bv_omega
  have second : (addr + 2 - addr).toNat = 2 := by bv_omega
  have first : (addr + 1 - addr).toNat = 1 := by bv_omega
  have zeroth : (addr - addr).toNat = 0 := by bv_omega
  simp only [wordAt, first, second, third, zeroth]
  exact join_bytes value

/-- What the driver's answer to a register call leaves is what the library's view of the
registers says of it. -/
structure Serves (base : Nat) (addr : BitVec 64) (request : Lib.RegRequest) (succeeds : Bool)
    (before after : Kernel) : Prop where
  registers : after.regs base = (Lib.serveRegister (before.regs base) request succeeds).2
  others : ∀ block, block ≠ base → after.regs block = before.regs block
  value : ∀ offset, request = .read offset (wordAt before.user addr) →
    wordAt after.user addr = (Lib.serveRegister (before.regs base) request succeeds).1

theorem regBase_served (mapped : xdev.bar 0 = some base) :
    regBase xdev (0 : BitVec 32).toInt kernel =
      (.ok (some base), kernel.logged (.bar (0 : BitVec 32).toInt true)) := by
  have entry : entryAt xdev.bar (0 : BitVec 32).toInt = some (some base) :=
    congrArg some mapped
  exact regBase_entry entry

/-- A register call on a board with BAR 0 mapped, served or failed as a whole. -/
theorem register_served (request : Lib.RegRequest) (mapped : xdev.bar 0 = some base)
    (decided : Decided outcome) :
    ∃ ret final,
      answer xdev (.ioctl (rtpcIoctlXdma (registerCall request addr).cmd)
        ((registerCall request addr).info stack) outcome) kernel = (.ok ret, final) ∧
      Serves base addr request (decide (outcome.infoMissed = 0)) kernel final := by
  by_cases copied : outcome.infoMissed = 0
  · cases request with
    | read offset val =>
        have ran : answer xdev (.ioctl (rtpcIoctlXdma .reg)
            ((registerCall (.read offset val) addr).info stack) outcome) kernel =
            copyValueToUser (kernel.regs base offset) addr outcome.dataMissed
              (kernel.logged (.bar (0 : BitVec 32).toInt true)) := by
          rw [answer_ioctl copied]
          exact (bind_ok (regBase_served mapped)).trans rfl
        rw [decided copied] at ran
        refine ⟨_, _, ran, rfl, fun _ _ => rfl, ?_⟩
        intro place same
        cases same
        simp only [copied, decide_true]
        exact copied_word _
    | write offset val =>
        have ran : answer xdev (.ioctl (rtpcIoctlXdma .reg)
            ((registerCall (.write offset val) addr).info stack) outcome) kernel =
            (.ok 0, (kernel.logged (.bar (0 : BitVec 32).toInt true)).withReg base offset val) := by
          rw [answer_ioctl copied]
          exact (bind_ok (regBase_served mapped)).trans rfl
        refine ⟨_, _, ran, ?_, ?_, nofun⟩
        · simp only [copied, decide_true]
          funext place
          simp only [Lib.serveRegister, Kernel.withReg, true_and, if_true]
          rfl
        · intro block other
          funext place
          exact if_neg fun here => other here.1
  · refine ⟨copyResult outcome.infoMissed.val, kernel, ?_, ?_⟩
    · rw [answer_unread copied]
      rfl
    · simp only [copied, decide_false]
      cases request with
      | read offset val =>
          refine ⟨rfl, fun _ _ => rfl, ?_⟩
          intro place same
          cases same
          rfl
      | write offset val => exact ⟨rfl, fun _ _ => rfl, nofun⟩

end Vi53xx.System
