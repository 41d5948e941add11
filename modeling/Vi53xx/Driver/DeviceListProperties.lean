import Vi53xx.Driver.HotplugProperties
import Vi53xx.Foundation.Runs

/-! The list of devices between any two steps of the probes and removals under way.
A removal frees the record of its board before it takes the node off the list. -/

set_option autoImplicit false

namespace Vi53xx.Driver

open Foundation

/-- Every node of the list is part of a record that has not been freed. -/
def ListLive (registry : Registry) : Prop :=
  ∀ xpdev ∈ registry.pcieDeviceList, registry.xpdevs xpdev ≠ none

/-- The step frees the record of a board that is being removed. -/
def FreesRemoved (state : Hotplug) (t : Turn) : Prop :=
  ∃ xpdev, state.doing t.pdev = some (.xpdevFree, xpdev)

variable {state : Hotplug} {t : Turn} {registry : Registry}

theorem listLive_iff_probed : ListLive registry ↔ ∃ boards, registry.probed = some boards := by
  unfold ListLive Registry.probed
  generalize registry.pcieDeviceList = list
  induction list with
  | nil => simp
  | cons xpdev rest ih =>
      cases held : registry.xpdevs xpdev with
      | none => simp [held]
      | some record =>
          simp only [List.mem_cons, forall_eq_or_imp, held, ne_eq, reduceCtorEq, not_false_eq_true,
            true_and, ih, List.mapM_cons]
          constructor
          · rintro ⟨boards, read⟩
            exact ⟨record :: boards, by simp [read]⟩
          · rintro ⟨boards, read⟩
            cases tail : rest.mapM registry.xpdevs with
            | none => simp [tail] at read
            | some others => exact ⟨others, rfl⟩

/-- Both files that show the devices can be read exactly when every node is live. -/
theorem listLive_iff_show :
    ListLive registry ↔ registry.show .mapping ≠ none ∧ registry.show .boards ≠ none := by
  rw [listLive_iff_probed]
  simp [Registry.show, Option.ne_none_iff_exists']

/-! ## The calls under way -/

/-- Between `list_add` and `list_del`. -/
def Stage.listed : Stage → Bool
  | .setDrvdata | .devClean | .freeResource | .xpdevFree | .listDel => true
  | _ => false

def Stage.removing : Stage → Bool
  | .devClean | .freeResource | .xpdevFree | .listDel | .clearDrvdata => true
  | _ => false

/-- Past `vi53xx_dev_init` and not yet on the list. -/
def Stage.recorded : Stage → Bool
  | .channelInit | .listAdd => true
  | _ => false

def InPlace (plugged : Plugged) (pdev : PciDev) : Option (Stage × Nat) → Prop
  | none => ∀ xpdev, plugged.drvdata pdev = some xpdev → xpdev ∈ plugged.registry.pcieDeviceList
  | some (stage, xpdev) =>
      (plugged.drvdata pdev = if stage.removing then some xpdev else none) ∧
        (xpdev ∈ plugged.registry.pcieDeviceList ↔ stage.listed = true) ∧
        (stage.recorded = true → plugged.registry.xpdevs xpdev ≠ none)

def Owns (plugged : Plugged) (doing : PciDev → Option (Stage × Nat)) (pdev : PciDev) (xpdev : Nat) :
    Prop :=
  (∃ stage, doing pdev = some (stage, xpdev)) ∨ plugged.drvdata pdev = some xpdev

/-- No two devices share a record, and each is where its call has brought it. -/
structure Orderly (state : Hotplug) : Prop where
  owners : ∀ first second xpdev, Owns state.plugged state.doing first xpdev →
    Owns state.plugged state.doing second xpdev → first = second
  below : ∀ pdev xpdev, Owns state.plugged state.doing pdev xpdev →
    xpdev < state.plugged.registry.allocated
  listedBelow : ∀ xpdev ∈ state.plugged.registry.pcieDeviceList,
    xpdev < state.plugged.registry.allocated
  inPlace : ∀ pdev, InPlace state.plugged pdev (state.doing pdev)

/-- A step of one device that stays with the record of the device, or takes a new one. -/
structure Moves (state : Hotplug) (pdev : PciDev) (xpdev : Nat) (next : Option (Stage × Nat))
    (plugged : Plugged) : Prop where
  mine : Owns state.plugged state.doing pdev xpdev ∨ state.plugged.registry.allocated ≤ xpdev
  grown : state.plugged.registry.allocated ≤ plugged.registry.allocated
  low : xpdev < plugged.registry.allocated
  drvdata : ∀ device, device ≠ pdev → plugged.drvdata device = state.plugged.drvdata device
  list : ∀ other, other ≠ xpdev → (other ∈ plugged.registry.pcieDeviceList ↔
    other ∈ state.plugged.registry.pcieDeviceList)
  records : ∀ other, other ≠ xpdev →
    plugged.registry.xpdevs other = state.plugged.registry.xpdevs other
  stays : ∀ stage other, next = some (stage, other) → other = xpdev
  keeps : ∀ other, plugged.drvdata pdev = some other → other = xpdev
  inPlace : InPlace plugged pdev next

section Moving

variable {pdev device : PciDev} {xpdev other : Nat} {next : Option (Stage × Nat)}
  {plugged : Plugged}

/-- What another device owns after the step it has owned before. -/
theorem Moves.foreign (moves : Moves state pdev xpdev next plugged) (different : device ≠ pdev)
    (owns : Owns plugged (state.proceed pdev next plugged).doing device other) :
    Owns state.plugged state.doing device other := by
  rcases owns with ⟨stage, doing⟩ | data
  · refine .inl ⟨stage, ?_⟩
    rwa [proceed_other different] at doing
  · right
    rw [← moves.drvdata device different, data]

theorem Moves.own (moves : Moves state pdev xpdev next plugged)
    (owns : Owns plugged (state.proceed pdev next plugged).doing pdev other) : other = xpdev := by
  rcases owns with ⟨stage, doing⟩ | data
  · rw [proceed_same] at doing
    exact moves.stays stage other doing
  · exact moves.keeps other data

/-- The record of the step is not that of another device. -/
theorem Orderly.apart (orderly : Orderly state) (moves : Moves state pdev xpdev next plugged)
    (different : device ≠ pdev) (owns : Owns state.plugged state.doing device other) :
    other ≠ xpdev := by
  rintro rfl
  rcases moves.mine with mine | new
  · exact different (orderly.owners device pdev other owns mine)
  · exact absurd (orderly.below device other owns) (Nat.not_lt.mpr new)

/-- The step leaves the other devices where their calls have brought them. -/
theorem Orderly.inPlace_other (orderly : Orderly state)
    (moves : Moves state pdev xpdev next plugged) (different : device ≠ pdev) :
    InPlace plugged device (state.doing device) := by
  have before := orderly.inPlace device
  cases doing : state.doing device with
  | none =>
      rw [doing] at before
      intro other data
      have owned : state.plugged.drvdata device = some other := by
        rw [← moves.drvdata device different]
        exact data
      exact (moves.list other (orderly.apart moves different (.inr owned))).mpr
        (before other owned)
  | some call =>
      obtain ⟨stage, other⟩ := call
      rw [doing] at before
      obtain ⟨data, listed, recorded⟩ := before
      have apart := orderly.apart moves different (.inl ⟨stage, doing⟩)
      refine ⟨(moves.drvdata device different).trans data, (moves.list other apart).trans listed, ?_⟩
      intro past
      rw [moves.records other apart]
      exact recorded past

theorem Orderly.moves (orderly : Orderly state) (moves : Moves state pdev xpdev next plugged) :
    Orderly (state.proceed pdev next plugged) := by
  constructor
  · intro first second other left right
    by_cases one : first = pdev
    · by_cases two : second = pdev
      · rw [one, two]
      · rw [one] at left
        exact absurd (moves.own left) (orderly.apart moves two (moves.foreign two right))
    · by_cases two : second = pdev
      · rw [two] at right
        exact absurd (moves.own right) (orderly.apart moves one (moves.foreign one left))
      · exact orderly.owners first second other (moves.foreign one left) (moves.foreign two right)
  · intro device other owns
    by_cases here : device = pdev
    · rw [here] at owns
      rw [moves.own owns]
      exact moves.low
    · exact Nat.lt_of_lt_of_le (orderly.below device other (moves.foreign here owns)) moves.grown
  · intro other member
    by_cases here : other = xpdev
    · rw [here]
      exact moves.low
    · exact Nat.lt_of_lt_of_le (orderly.listedBelow other ((moves.list other here).mp member))
        moves.grown
  · intro device
    by_cases here : device = pdev
    · rw [here, proceed_same]
      exact moves.inPlace
    · rw [proceed_other here]
      exact orderly.inPlace_other moves here

end Moving

/-! ## One step -/

/-- A step within a call, from what the call is to do next. -/
theorem Orderly.within {pdev : PciDev} {stage : Stage} {xpdev : Nat} {next : Option (Stage × Nat)}
    {plugged : Plugged} (orderly : Orderly state) (doing : state.doing pdev = some (stage, xpdev))
    (beside : Beside xpdev state.plugged.registry plugged.registry ∨
      plugged.registry = listAdd xpdev state.plugged.registry ∨
      plugged.registry = listDel xpdev state.plugged.registry)
    (drvdata : ∀ device, device ≠ pdev → plugged.drvdata device = state.plugged.drvdata device)
    (stays : ∀ stage other, next = some (stage, other) → other = xpdev)
    (keeps : ∀ other, plugged.drvdata pdev = some other → other = xpdev)
    (inPlace : InPlace plugged pdev next) : Orderly (state.proceed pdev next plugged) := by
  have mine : Owns state.plugged state.doing pdev xpdev := .inl ⟨stage, doing⟩
  have low := orderly.below pdev xpdev mine
  have allocated : plugged.registry.allocated = state.plugged.registry.allocated := by
    rcases beside with beside | added | deleted
    · exact beside.allocated
    · rw [added]
      rfl
    · rw [deleted]
      rfl
  refine orderly.moves ⟨.inl mine, Nat.le_of_eq allocated.symm, allocated ▸ low, drvdata, ?_, ?_,
    stays, keeps, inPlace⟩
  · intro other different
    rcases beside with beside | added | deleted
    · rw [beside.list]
    · rw [added]
      simp [listAdd, different]
    · rw [deleted]
      simp [listDel, different]
  · intro other different
    rcases beside with beside | added | deleted
    · exact beside.records other different
    · rw [added]
      rfl
    · rw [deleted]
      rfl

theorem beside_refl {xpdev : Nat} : Beside xpdev registry registry :=
  ⟨rfl, rfl, rfl, fun _ _ => rfl⟩

theorem Orderly.keeps {pdev : PciDev} {stage : Stage} {xpdev other : Nat} (orderly : Orderly state)
    (doing : state.doing pdev = some (stage, xpdev))
    (held : state.plugged.drvdata pdev = some other) : other = xpdev := by
  have before := orderly.inPlace pdev
  rw [doing] at before
  obtain ⟨data, _, _⟩ := before
  rw [held] at data
  split at data
  · exact Option.some.inj data
  · cases data

/-- A step to the next stage of the same call. -/
theorem Orderly.onward {pdev : PciDev} {stage following : Stage} {xpdev : Nat} {after : Registry}
    (orderly : Orderly state) (doing : state.doing pdev = some (stage, xpdev))
    (beside : Beside xpdev state.plugged.registry after ∨
      after = listAdd xpdev state.plugged.registry ∨
      after = listDel xpdev state.plugged.registry)
    (removing : following.removing = stage.removing)
    (listed : xpdev ∈ after.pcieDeviceList ↔ following.listed = true)
    (recorded : following.recorded = true → after.xpdevs xpdev ≠ none) :
    Orderly (state.proceed pdev (some (following, xpdev))
      { state.plugged with registry := after }) := by
  have before := orderly.inPlace pdev
  rw [doing] at before
  obtain ⟨data, _, _⟩ := before
  refine orderly.within doing beside (fun _ _ => rfl) ?_ ?_ ⟨?_, listed, recorded⟩
  · intro later other same
    cases same
    rfl
  · intro other held
    exact orderly.keeps doing held
  · rw [removing]
    exact data

/-- The step that starts a call, of a device that has none under way. -/
theorem Orderly.starts (orderly : Orderly state) (idle : state.doing t.pdev = none) :
    Orderly (turn state t) := by
  have before := orderly.inPlace t.pdev
  rw [idle] at before
  unfold turn
  simp only [idle]
  cases data : state.plugged.drvdata t.pdev with
  | some xpdev =>
      have mine : Owns state.plugged state.doing t.pdev xpdev := .inr data
      refine orderly.moves ⟨.inl mine, Nat.le_refl _, orderly.below t.pdev xpdev mine,
        fun _ _ => rfl, fun _ _ => Iff.rfl, fun _ _ => rfl, ?_, ?_, ?_⟩
      · intro later other same
        cases same
        rfl
      · intro other held
        exact Option.some.inj (held.symm.trans data)
      · exact ⟨data, iff_of_true (before xpdev data) rfl, nofun⟩
  | none =>
      dsimp only
      split
      · refine orderly.moves ⟨.inr (Nat.le_refl _), Nat.le_succ _, Nat.lt_succ_self _,
          fun _ _ => rfl, fun _ _ => Iff.rfl, fun _ _ => rfl, ?_, ?_, ?_⟩
        · intro later other same
          cases same
          rfl
        · intro other held
          rw [data] at held
          cases held
        · refine ⟨data, iff_of_false ?_ (by decide), nofun⟩
          intro member
          exact absurd (orderly.listedBelow _ member) (Nat.lt_irrefl _)
      · exact orderly

theorem unrecorded {stage : Stage} {claim : Prop} (before : stage.recorded = false) :
    stage.recorded = true → claim :=
  fun recorded => absurd (before.symm.trans recorded) Bool.false_ne_true

theorem Orderly.turn (orderly : Orderly state) : Orderly (turn state t) := by
  have before := orderly.inPlace t.pdev
  cases doing : state.doing t.pdev with
  | none => exact orderly.starts doing
  | some call =>
      obtain ⟨stage, xpdev⟩ := call
      rw [doing] at before
      obtain ⟨data, listed, recorded⟩ := before
      unfold Driver.turn
      cases stage with
      | deviceMap =>
          simp only [doing]
          cases mapped : t.outcome.deviceMap with
          | false => exact orderly.onward doing (.inl beside_refl) rfl listed (unrecorded rfl)
          | true => exact orderly.onward doing (.inl beside_refl) rfl listed (unrecorded rfl)
      | devInit =>
          simp only [doing]
          cases create : createCdev t.outcome t.readReg xpdev t.pdev state.plugged.registry with
          | mk rv after =>
              have created := createCdev_created create
              have beside := created.beside
              have unlisted : xpdev ∈ after.pcieDeviceList ↔ Stage.channelInit.listed = true := by
                rw [beside.list]
                exact listed
              dsimp only
              split
              · exact orderly.onward doing (.inl beside) rfl unlisted (unrecorded rfl)
              · next success =>
                  exact orderly.onward doing (.inl beside) rfl unlisted
                    fun _ => created.recorded success
      | channelInit =>
          simp only [doing]
          exact orderly.onward doing (.inl beside_refl) rfl listed fun _ => recorded rfl
      | listAdd =>
          simp only [doing]
          exact orderly.onward doing (.inr (.inl rfl)) rfl (by simp [listAdd, Stage.listed]) (unrecorded rfl)
      | devClean =>
          simp only [doing]
          refine orderly.onward doing (.inl vi53xxDevClean_beside) rfl ?_ (unrecorded rfl)
          rw [vi53xxDevClean_beside.list]
          exact listed
      | freeResource =>
          simp only [doing]
          exact orderly.onward doing (.inl beside_refl) rfl listed (unrecorded rfl)
      | xpdevFree =>
          simp only [doing]
          exact orderly.onward doing (.inl xpdevFree_beside) rfl listed (unrecorded rfl)
      | listDel =>
          simp only [doing]
          exact orderly.onward doing (.inr (.inr rfl)) rfl (by simp [listDel, Stage.listed]) (unrecorded rfl)
      | setDrvdata =>
          simp only [doing]
          refine orderly.within doing (.inl beside_refl) ?_ ?_ ?_ ?_
          · intro device different
            exact if_neg different
          · intro _ _ started
            cases started
          · intro other held
            exact (Option.some.inj ((if_pos rfl).symm.trans held)).symm
          · intro other held
            have same : some xpdev = some other := (if_pos rfl).symm.trans held
            cases same
            exact listed.mpr rfl
      | errOut =>
          simp only [doing]
          refine orderly.within doing (.inl xpdevFree_beside) (fun _ _ => rfl) ?_ ?_ ?_
          · intro _ _ started
            cases started
          · intro other held
            exact orderly.keeps doing held
          · intro other held
            cases data.symm.trans held
      | clearDrvdata =>
          simp only [doing]
          refine orderly.within doing (.inl beside_refl) ?_ ?_ ?_ ?_
          · intro device different
            exact if_neg different
          · intro _ _ started
            cases started
          · intro other held
            cases (if_pos rfl).symm.trans held
          · intro other held
            cases (if_pos rfl).symm.trans held

/-! ## What keeps the list live -/

theorem ListLive.beside {xpdev : Nat} {after : Registry} (live : ListLive registry)
    (beside : Beside xpdev registry after)
    (kept : xpdev ∈ registry.pcieDeviceList → after.xpdevs xpdev ≠ none) : ListLive after := by
  intro other member
  rw [beside.list] at member
  by_cases here : other = xpdev
  · rw [here] at member ⊢
    exact kept member
  · rw [beside.records other here]
    exact live other member

theorem not_frees {stage : Stage} {xpdev : Nat} (doing : state.doing t.pdev = some (stage, xpdev))
    (other : stage ≠ .xpdevFree) : ¬ FreesRemoved state t := by
  rintro ⟨freed, same⟩
  rw [doing] at same
  cases same
  exact other rfl

theorem ListLive.turn_iff (orderly : Orderly state) (live : ListLive state.plugged.registry) :
    ListLive (turn state t).plugged.registry ↔ ¬ FreesRemoved state t := by
  have before := orderly.inPlace t.pdev
  unfold turn
  cases doing : state.doing t.pdev with
  | none =>
      have idle : ¬ FreesRemoved state t := by
        rintro ⟨xpdev, same⟩
        rw [doing] at same
        cases same
      refine iff_of_true ?_ idle
      cases data : state.plugged.drvdata t.pdev with
      | some xpdev =>
          simp only [data]
          exact live
      | none =>
          simp only [data]
          split <;> exact live
  | some call =>
      obtain ⟨stage, xpdev⟩ := call
      rw [doing] at before
      obtain ⟨data, listed, recorded⟩ := before
      cases stage with
      | deviceMap | channelInit | setDrvdata | freeResource | clearDrvdata =>
          exact iff_of_true live (not_frees doing (by decide))
      | devInit =>
          simp only
          refine iff_of_true ?_ (not_frees doing (by decide))
          cases create : createCdev t.outcome t.readReg xpdev t.pdev state.plugged.registry with
          | mk rv after =>
              have created := createCdev_created create
              exact live.beside created.beside fun member => created.kept (live xpdev member)
      | listAdd =>
          refine iff_of_true ?_ (not_frees doing (by decide))
          intro other member
          rcases List.mem_cons.mp member with rfl | member
          · exact recorded rfl
          · exact live other member
      | errOut =>
          refine iff_of_true ?_ (not_frees doing (by decide))
          refine live.beside xpdevFree_beside ?_
          intro member
          cases listed.mp member
      | devClean =>
          simp only
          refine iff_of_true ?_ (not_frees doing (by decide))
          refine live.beside vi53xxDevClean_beside ?_
          intro member
          rw [proceed_plugged, vi53xxDevClean_xpdevs]
          exact live xpdev member
      | listDel =>
          refine iff_of_true ?_ (not_frees doing (by decide))
          intro other member
          exact live other (List.mem_of_mem_filter member)
      | xpdevFree =>
          refine iff_of_false ?_ (not_not.mpr ⟨xpdev, doing⟩)
          intro after
          exact after xpdev (listed.mpr rfl) (if_pos rfl)

def Hotplug.start (outcome : ProcOutcome) (major : Fin boardTepeNum → BitVec 32) : Hotplug :=
  ⟨Plugged.start outcome major, fun _ => none⟩

theorem orderly_start {outcome : ProcOutcome} {major : Fin boardTepeNum → BitVec 32} :
    Orderly (Hotplug.start outcome major) := by
  have none : (Plugged.start outcome major).registry.pcieDeviceList = [] := start_same.list
  have unowned : ∀ pdev xpdev, ¬ Owns (Plugged.start outcome major) (fun _ => .none) pdev xpdev := by
    rintro pdev xpdev (⟨stage, doing⟩ | data)
    · cases doing
    · cases data
  refine ⟨?_, ?_, ?_, ?_⟩
  · intro first second xpdev owns
    exact absurd owns (unowned first xpdev)
  · intro pdev xpdev owns
    exact absurd owns (unowned pdev xpdev)
  · intro xpdev member
    rw [Hotplug.start, none] at member
    cases member
  · intro pdev xpdev data
    cases data

/-- Whatever the order of the steps, every node of the list is live between any two
of them exactly as long as no removal frees the record of its board. -/
theorem list_live_iff {outcome : ProcOutcome} {major : Fin boardTepeNum → BitVec 32}
    {turns : List Turn} :
    Throughout turnStep (fun state => ListLive state.plugged.registry)
        (Hotplug.start outcome major) turns ↔
      EachStep turnStep (fun state t => ¬ FreesRemoved state t)
        (Hotplug.start outcome major) turns := by
  have unguarded : EachStep turnStep (fun _ _ => True) (Hotplug.start outcome major) turns :=
    eachStep_of_forall fun _ _ => trivial
  refine throughout_iff_eachStep ?_ ?_ orderly_start ?_ unguarded
  · intro state t next orderly live _ stepped
    cases stepped
    exact ⟨live.turn_iff orderly, fun _ => orderly.turn⟩
  · intro state t _ _ _ stuck
    cases stuck
  · intro xpdev member
    rw [Hotplug.start, start_same.list] at member
    cases member

/-- Ten steps probe a board and remove it as far as the freeing of its record. -/
theorem freed_node_listed :
    ∃ final, runFrom turnStep (Hotplug.start ⟨true, true, true⟩ givenMajors)
        (List.replicate 10 es5341Turn) = some final ∧ ¬ ListLive final.plugged.registry := by
  have seen : (runFrom turnStep (Hotplug.start ⟨true, true, true⟩ givenMajors)
      (List.replicate 10 es5341Turn)).map (fun final =>
        (final.plugged.registry.pcieDeviceList, (final.plugged.registry.xpdevs 0).isSome)) =
      some ([0], false) := by decide +kernel
  obtain ⟨final, ran, observed⟩ := Option.map_eq_some_iff.mp seen
  obtain ⟨list, freed⟩ := Prod.mk.inj observed
  refine ⟨final, ran, ?_⟩
  intro live
  have there := live 0 (by rw [list]; exact List.mem_singleton.mpr rfl)
  exact there (Option.not_isSome_iff_eq_none.mp (by rw [freed]; decide))

end Vi53xx.Driver
