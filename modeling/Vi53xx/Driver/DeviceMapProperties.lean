import Vi53xx.Driver.BarsProperties
import Vi53xx.Driver.DeviceMap

/-! What mapping a device leaves on the account. A failure gives everything back but
the enabling of a device whose regions are taken, which is left on purpose. -/

set_option autoImplicit false

namespace Vi53xx.Driver

open Foundation

def iomaps (pdev : PciDev) (bar : Fin xdmaBarNum → Option Nat) : List Resource :=
  ((List.finRange xdmaBarNum).filterMap bar).map (.iomap pdev)

/-- What a mapped device holds. -/
def busHeld (xpdev : Nat) (pdev : PciDev) (xdev : BusHold) : List Resource :=
  iomaps pdev xdev.bar ++ [.regions pdev, .enabled pdev, .xdev xpdev]

/-- The device is enabled and its regions are refused. -/
def Busy (env : DeviceMapEnv) : Prop :=
  env.xdevAlloc = true ∧ env.enableDevice = 0 ∧ env.requestRegions ≠ 0

instance (env : DeviceMapEnv) : Decidable (Busy env) := inferInstanceAs (Decidable (_ ∧ _))

def leftEnabled (env : DeviceMapEnv) (pdev : PciDev) : List Resource :=
  if Busy env then [.enabled pdev] else []

/-- A device that has got its regions, and knows it. -/
structure OwnsRegions (xdev : BusHold) : Prop where
  gotRegions : xdev.gotRegions = true
  regionsInUse : xdev.regionsInUse = false

inductive DeviceMapped (env : DeviceMapEnv) (xpdev : Nat) (pdev : PciDev) (held : List Resource) :
    Option BusHold × Holdings → Prop where
  | refused {after : Holdings} (accounts : after.Accounts (leftEnabled env pdev ++ held)) :
      DeviceMapped env xpdev pdev held (none, after)
  | mapped {xdev : BusHold} {after : Holdings} (owns : OwnsRegions xdev) (free : ¬ Busy env)
      (accounts : after.Accounts (busHeld xpdev pdev xdev ++ held)) :
      DeviceMapped env xpdev pdev held (some xdev, after)

variable {env : DeviceMapEnv} {xpdev : Nat} {pdev : PciDev} {xdev : BusHold} {ledger : Holdings}
  {held : List Resource}

/-! ## BARs -/

theorem unmapBars_logged {bar : Fin xdmaBarNum → Option Nat} :
    unmapBars ⟨bar, [], []⟩ = ⟨fun _ => none, [], (List.finRange xdmaBarNum).filterMap bar⟩ := by
  have unmapped := @foldl_unmapBar ⟨bar, [], []⟩ (List.finRange xdmaBarNum) (List.nodup_finRange _)
  simp only [List.mem_finRange, if_true, List.nil_append] at unmapped
  exact unmapped

theorem logBars_unmapped {bar : Fin xdmaBarNum → Option Nat}
    (accounts : ledger.Accounts (iomaps pdev bar ++ held)) :
    (logBars pdev (unmapBars ⟨bar, [], []⟩) ledger).Accounts held := by
  rw [unmapBars_logged, logBars]
  have logged : (ledger.take []).Accounts (iomaps pdev bar ++ held) := accounts.take []
  exact logged.giveBack (iomaps pdev bar)

/-- The BARs are mapped, and then it shows where, or what has been mapped is unmapped. -/
theorem logBars_mapped (accounts : ledger.Accounts held) :
    ((mapBars env.bars .zeroed).1 ≠ 0 ∧
        (logBars pdev (mapBars env.bars .zeroed).2 ledger).Accounts held) ∨
      ((mapBars env.bars .zeroed).1 = 0 ∧
        (logBars pdev (mapBars env.bars .zeroed).2 ledger).Accounts
          (iomaps pdev (mapBars env.bars .zeroed).2.bar ++ held)) := by
  by_cases accepted : ∀ idx, ¬ Rejected env.bars idx
  · right
    rw [mapBars_accepted accepted]
    refine ⟨rfl, ?_⟩
    have present : (mappedUpTo env.bars (List.finRange xdmaBarNum)).bar = Driver.present env.bars := by
      funext idx
      exact if_pos (List.mem_finRange idx)
    rw [present, logBars, Ledger.giveBack]
    simp only [mappedUpTo, List.map_nil, List.append_nil]
    exact accounts.take _
  · left
    obtain ⟨idx, rejected⟩ := not_forall_not.mp accepted
    obtain ⟨addresses, ran⟩ := mapBars_rejected rejected
    rw [ran]
    exact ⟨(by decide : -EINVAL ≠ 0), accounts.borrow _⟩

/-! ## The exits -/

theorem errRegions_free (free : xdev.regionsInUse = false)
    (accounts : ledger.Accounts (.enabled pdev :: .xdev xpdev :: held)) :
    (errRegions xpdev pdev xdev ledger).Accounts held := by
  have disabled : (ledger.giveBack [Resource.enabled pdev]).Accounts ([.xdev xpdev] ++ held) :=
    Ledger.Accounts.giveBack [Resource.enabled pdev] accounts
  simp only [errRegions, free, Bool.false_eq_true, if_false]
  exact disabled.giveBack [Resource.xdev xpdev]

theorem errRegions_busy (busy : xdev.regionsInUse = true)
    (accounts : ledger.Accounts (.enabled pdev :: .xdev xpdev :: held)) :
    (errRegions xpdev pdev xdev ledger).Accounts (.enabled pdev :: held) := by
  have swapped : ledger.Accounts ([.xdev xpdev] ++ (.enabled pdev :: held)) :=
    accounts.perm (List.Perm.swap _ _ _)
  simp only [errRegions, busy, if_true]
  exact swapped.giveBack [Resource.xdev xpdev]

theorem errMap_owns (owns : OwnsRegions xdev)
    (accounts : ledger.Accounts (.regions pdev :: .enabled pdev :: .xdev xpdev :: held)) :
    (errMap xpdev pdev xdev ledger).Accounts held := by
  have released : (ledger.giveBack [Resource.regions pdev]).Accounts (.enabled pdev :: .xdev xpdev :: held) :=
    Ledger.Accounts.giveBack [Resource.regions pdev] accounts
  simp only [errMap, owns.gotRegions, if_true]
  exact errRegions_free owns.regionsInUse released

/-- Unmapping a device does what the last exit of its mapping does. -/
theorem xdmaDeviceUmap_eq : xdmaDeviceUmap xpdev pdev xdev ledger = errMask xpdev pdev xdev ledger :=
  rfl

theorem xdmaDeviceUmap_accounts (owns : OwnsRegions xdev)
    (accounts : ledger.Accounts (busHeld xpdev pdev xdev ++ held)) :
    (xdmaDeviceUmap xpdev pdev xdev ledger).Accounts held := by
  rw [busHeld, List.append_assoc] at accounts
  rw [xdmaDeviceUmap_eq, errMask]
  exact errMap_owns owns (logBars_unmapped accounts)

/-! ## The whole mapping -/

theorem xdmaDeviceMap_mapped (accounts : ledger.Accounts held) :
    DeviceMapped env xpdev pdev held (xdmaDeviceMap env xpdev pdev ledger) := by
  unfold xdmaDeviceMap
  cases allocated : env.xdevAlloc with
  | false =>
      have idle : leftEnabled env pdev = [] := by simp [leftEnabled, Busy, allocated]
      exact .refused (by simpa [idle] using accounts)
  | true =>
      simp only [Bool.not_true, Bool.false_eq_true, if_false]
      by_cases enabled : env.enableDevice = 0
      · rw [if_neg (not_not.mpr enabled)]
        have taken : ((ledger.take [.xdev xpdev]).take [.enabled pdev]).Accounts
            (.enabled pdev :: .xdev xpdev :: held) := (accounts.take [.xdev xpdev]).take _
        by_cases granted : env.requestRegions = 0
        · have free : ¬ Busy env := fun busy => busy.2.2 granted
          have idle : leftEnabled env pdev = [] := if_neg free
          simp only [requestRegions, granted, ne_eq, not_true_eq_false, if_false]
          have regioned := taken.take [.regions pdev]
          rcases @logBars_mapped env pdev _ _ regioned with
            ⟨failed, logged⟩ | ⟨mapped, logged⟩
          · rw [if_pos failed]
            refine .refused ?_
            rw [idle]
            exact errMap_owns ⟨rfl, rfl⟩ logged
          · rw [if_neg (not_not.mpr mapped)]
            have holds : (logBars pdev (mapBars env.bars .zeroed).2
                (((ledger.take [.xdev xpdev]).take [.enabled pdev]).take [.regions pdev])).Accounts
                (busHeld xpdev pdev ⟨(mapBars env.bars .zeroed).2.bar, false, true⟩ ++ held) := by
              rw [busHeld, List.append_assoc]
              exact logged
            split
            · refine .refused ?_
              rw [idle]
              exact xdmaDeviceUmap_accounts ⟨rfl, rfl⟩ holds
            · exact .mapped ⟨rfl, rfl⟩ free holds
        · have busy : Busy env := ⟨allocated, enabled, granted⟩
          have left : leftEnabled env pdev = [.enabled pdev] := if_pos busy
          simp only [requestRegions, ne_eq, granted, not_false_eq_true, if_true]
          refine .refused ?_
          rw [left]
          exact errRegions_busy rfl taken
      · have idle : leftEnabled env pdev = [] := if_neg fun busy => enabled busy.2.1
        rw [if_pos enabled]
        refine .refused ?_
        rw [idle]
        exact (accounts.take [.xdev xpdev]).giveBack [Resource.xdev xpdev]

theorem xpdevRelease_accounts (owns : OwnsRegions xdev)
    (accounts : ledger.Accounts (busHeld xpdev pdev xdev ++ (.xpdev xpdev :: held))) :
    (xpdevRelease xpdev pdev (some xdev) ledger).Accounts held := by
  have unmapped : (xdmaDeviceUmap xpdev pdev xdev ledger).Accounts ([.xpdev xpdev] ++ held) :=
    xdmaDeviceUmap_accounts owns accounts
  exact unmapped.giveBack [Resource.xpdev xpdev]

end Vi53xx.Driver
