import Vi53xx.Lib.Calls

/-! Where the descriptors go that `open(2)` returns. A descriptor is opened
before it is known whether a slot will take it, and slots are emptied without
closing what they hold. -/

set_option autoImplicit false

namespace Vi53xx.Lib

open Foundation

variable {state next : LibState} {env : OpenEnv} {boardId : BitVec 32} {fd : Int}
  {answer : OpenReturn} {devName : List Char}

/-- Every open descriptor is stored in exactly one slot. -/
def Stored (state : LibState) : Prop :=
  ∀ fd ∈ state.descriptors, ∃! slot, ∃ handle,
    state.devHandleList slot = some handle ∧ handle.devHandle = fd

/-- Slots hold open descriptors, and no two hold the same one. -/
structure Owning (state : LibState) : Prop where
  live : ∀ slot handle, state.devHandleList slot = some handle →
    handle.devHandle ∈ state.descriptors
  distinct : Slots.Keyed DevHandle.devHandle state.devHandleList

/-- `open(2)` returns a descriptor that is not open, or fails. -/
def Fresh (state : LibState) : Call → Prop
  | .deviceOpen env boardId => ∀ boards, searchedBoards state = .ok boards →
      0 ≤ env.openFile (devicePath boards boardId) →
        env.openFile (devicePath boards boardId) ∉ state.descriptors
  | _ => True

/-- The calls after which no descriptor is lost: an open fails in `open(2)`, or
meets a loaded board table in which the board has no handle but, if memory is
there, a slot; slots are cleared only when none is in use. -/
def KeepsDescriptors (state : LibState) : Call → Prop
  | .deviceOpen env boardId => ∀ boards, searchedBoards state = .ok boards →
      env.openFile (devicePath boards boardId) < 0 ∨
        (getAvailableBoardCount state ≠ 0 ∧ getDevHandle state boardId = none ∧
          (env.mallocOk = true →
            (state.devHandleList.freeSlot (getAvailableBoardCount state).toNat).isSome = true))
  | .deviceClose _ => True
  | .checkBoards _ => state.initCheckOk = true ∨ ∀ slot, state.devHandleList slot = none
  | .freeBoards _ => ∀ slot, state.devHandleList slot = none

theorem Owning.stored_iff (owning : Owning state) :
    Stored state ↔ ∀ fd ∈ state.descriptors, ∃ slot handle,
      state.devHandleList slot = some handle ∧ handle.devHandle = fd := by
  constructor
  · intro stored fd member
    obtain ⟨slot, held, _⟩ := stored fd member
    exact ⟨slot, held⟩
  · intro placed fd member
    obtain ⟨slot, handle, held, same⟩ := placed fd member
    refine ⟨slot, ⟨handle, held, same⟩, ?_⟩
    intro other there
    obtain ⟨found, elsewhere, alike⟩ := there
    exact owning.distinct other slot found handle elsewhere held (by rw [alike, same])

theorem Owning.cleared (empty : ∀ slot, state.devHandleList slot = none) : Owning state := by
  constructor
  · intro slot handle held
    simp [empty slot] at held
  · intro first second left right held
    simp [empty first] at held

theorem stored_of_cleared (empty : ∀ slot, state.devHandleList slot = none) :
    Stored state ↔ state.descriptors = [] := by
  rw [(Owning.cleared empty).stored_iff]
  constructor
  · intro placed
    apply List.eq_nil_iff_forall_not_mem.mpr
    intro fd member
    obtain ⟨slot, handle, held, _⟩ := placed fd member
    simp [empty slot] at held
  · intro none_open fd member
    simp [none_open] at member

theorem Owning.descriptors_eq_nil_iff (owning : Owning state) (stored : Stored state) :
    state.descriptors = [] ↔ ∀ slot, state.devHandleList slot = none := by
  constructor
  · intro none_open slot
    cases held : state.devHandleList slot with
    | none => rfl
    | some handle =>
        have member := owning.live slot handle held
        simp [none_open] at member
  · exact (stored_of_cleared · |>.mp stored)

/-! ## Opening -/

theorem Owning.opened (owning : Owning state) (fresh : 0 ≤ fd → fd ∉ state.descriptors)
    (opened : Opened env state boardId fd devName answer next) : Owning next := by
  cases opened with
  | noBoards =>
      unfold received
      split
      · exact owning
      · exact ⟨fun slot handle held => List.mem_cons_of_mem _ (owning.live slot handle held),
          owning.distinct⟩
  | openFailed => exact owning
  | alreadyOpen | fallThrough =>
      exact ⟨fun slot handle held => List.mem_cons_of_mem _ (owning.live slot handle held),
        owning.distinct⟩
  | outOfMemory counted nonnegative =>
      refine ⟨?_, owning.distinct⟩
      intro slot handle held
      have member := owning.live slot handle held
      have other : handle.devHandle ≠ fd := by
        intro same
        exact fresh nonnegative (same ▸ member)
      simp [member, other]
  | stored counted nonnegative =>
      constructor
      · intro place handle held
        rcases Slots.store_eq_some_iff.mp held with ⟨_, rfl⟩ | ⟨_, before⟩
        · exact List.mem_cons_self
        · exact List.mem_cons_of_mem _ (owning.live place handle before)
      · apply owning.distinct.store
        intro place handle held same
        have member := owning.live place handle held
        rw [same] at member
        exact fresh nonnegative member

theorem not_stored_of_unplaced (fresh : fd ∉ state.descriptors) (owning : Owning state)
    (table : next.devHandleList = state.devHandleList)
    (opened : next.descriptors = fd :: state.descriptors) : ¬ Stored next := by
  intro stored
  obtain ⟨slot, ⟨handle, held, same⟩, _⟩ := stored fd (by simp [opened])
  rw [table] at held
  exact fresh (same ▸ owning.live slot handle held)

theorem Stored.opened_iff (stored : Stored state) (owning : Owning state)
    (fresh : 0 ≤ fd → fd ∉ state.descriptors)
    (opened : Opened env state boardId fd devName answer next) :
    Stored next ↔ fd < 0 ∨
      (getAvailableBoardCount state ≠ 0 ∧ getDevHandle state boardId = none ∧
        (env.mallocOk = true →
          (state.devHandleList.freeSlot (getAvailableBoardCount state).toNat).isSome = true)) := by
  have after := owning.opened fresh opened
  cases opened with
  | noBoards uncounted =>
      by_cases failed : fd < 0
      · simp [received, failed, stored]
      · have added : received fd state = { state with descriptors := fd :: state.descriptors } :=
          if_neg failed
        refine iff_of_false ?_ (by simp [failed, uncounted])
        rw [added]
        exact not_stored_of_unplaced (fresh (Int.not_lt.mp failed)) owning rfl rfl
  | openFailed _ failed => exact iff_of_true stored (.inl failed)
  | alreadyOpen _ nonnegative found =>
      refine iff_of_false ?_ (by simp [Int.not_lt.mpr nonnegative, found])
      exact not_stored_of_unplaced (fresh nonnegative) owning rfl rfl
  | outOfMemory counted nonnegative absent exhausted =>
      refine iff_of_true ?_ (.inr ⟨counted, absent, by simp [exhausted]⟩)
      intro other member
      exact stored other (List.mem_filter.mp member).1
  | stored counted nonnegative absent allocated free =>
      refine iff_of_true ?_ (.inr ⟨counted, absent, by simp [free]⟩)
      rw [after.stored_iff]
      intro other member
      rcases List.mem_cons.mp member with rfl | before
      · exact ⟨_, _, Slots.store_same, rfl⟩
      · obtain ⟨place, ⟨handle, held, same⟩, _⟩ := stored other before
        refine ⟨place, handle, Slots.store_eq_some_iff.mpr (.inr ⟨?_, held⟩), same⟩
        intro taken
        rw [taken, (Slots.freeSlot_some free).2] at held
        cases held
  | fallThrough counted nonnegative absent allocated full =>
      refine iff_of_false ?_ (by simp [Int.not_lt.mpr nonnegative, allocated, full])
      exact not_stored_of_unplaced (fresh nonnegative) owning rfl rfl

/-! ## Closing and clearing -/

theorem mem_releasedDescriptors :
    fd ∈ releasedDescriptors state boardId ↔ ∃ slot handle,
      state.devHandleList slot = some handle ∧ handle.boardId = boardId ∧
        handle.devHandle = fd := by
  simp only [releasedDescriptors, List.mem_filterMap, List.mem_finRange, true_and,
    Option.map_eq_some_iff, Option.filter_eq_some_iff, beq_iff_eq, and_assoc]

structure Freed (state : LibState) (boardId : BitVec 32) (next : LibState) : Prop where
  table : next.devHandleList = state.devHandleList.release fun handle => handle.boardId == boardId
  descriptors : ∀ fd, fd ∈ next.descriptors ↔
    fd ∈ state.descriptors ∧ fd ∉ releasedDescriptors state boardId

theorem Freed.owning (freed : Freed state boardId next) (owning : Owning state) : Owning next := by
  constructor
  · intro slot handle held
    rw [freed.table] at held
    obtain ⟨before, spared⟩ := Slots.release_eq_some_iff.mp held
    refine (freed.descriptors _).mpr ⟨owning.live slot handle before, ?_⟩
    intro released
    obtain ⟨place, other, there, named, same⟩ := mem_releasedDescriptors.mp released
    have slots := owning.distinct place slot other handle there before same
    rw [slots, before] at there
    cases there
    simp [named] at spared
  · rw [freed.table]
    exact owning.distinct.release

theorem Freed.stored (freed : Freed state boardId next) (owning : Owning state)
    (stored : Stored state) : Stored next := by
  rw [(freed.owning owning).stored_iff]
  intro fd member
  obtain ⟨before, spared⟩ := (freed.descriptors fd).mp member
  obtain ⟨slot, ⟨handle, held, same⟩, _⟩ := stored fd before
  refine ⟨slot, handle, ?_, same⟩
  rw [freed.table]
  refine Slots.release_eq_some_iff.mpr ⟨held, ?_⟩
  apply beq_eq_false_iff_ne.mpr
  intro named
  exact spared (mem_releasedDescriptors.mpr ⟨slot, handle, held, named, same⟩)

theorem Closed.freed (closed : Closed state boardId next) :
    (next.devHandleList = state.devHandleList ∧ next.descriptors = state.descriptors) ∨
      Freed state boardId next := by
  cases closed with
  | uncounted => exact .inl ⟨rfl, rfl⟩
  | last | remaining =>
      right
      constructor
      · rfl
      · intro fd
        simp [releaseIdx, releaseDevHandle, releaseBoardInfo, freeMem, releasedDescriptors]

theorem stored_congr (table : next.devHandleList = state.devHandleList)
    (descriptors : next.descriptors = state.descriptors) : Stored next ↔ Stored state := by
  simp only [Stored, table, descriptors]

theorem Owning.congr (owning : Owning state) (table : next.devHandleList = state.devHandleList)
    (descriptors : next.descriptors = state.descriptors) : Owning next := by
  constructor
  · rw [table, descriptors]
    exact owning.live
  · rw [table]
    exact owning.distinct

theorem Owning.closed (owning : Owning state) (closed : Closed state boardId next) :
    Owning next ∧ (Stored state → Stored next) := by
  rcases closed.freed with ⟨table, descriptors⟩ | freed
  · exact ⟨owning.congr table descriptors, (stored_congr table descriptors).mpr⟩
  · exact ⟨freed.owning owning, freed.stored owning⟩

theorem Owning.cleared_iff (owning : Owning state) (stored : Stored state)
    (empty : next.devHandleList = Slots.empty) (descriptors : next.descriptors = state.descriptors) :
    Stored next ↔ ∀ slot, state.devHandleList slot = none := by
  rw [stored_of_cleared (by simp [empty]), descriptors]
  exact owning.descriptors_eq_nil_iff stored

theorem Checked.cleared {ret : Int} (checked : Checked state ret next) :
    (state.initCheckOk = true ∧ next = state) ∨
      (state.initCheckOk = false ∧ next.devHandleList = Slots.empty ∧
        next.descriptors = state.descriptors) := by
  cases checked with
  | alreadyOk flagged => exact .inl ⟨flagged, rfl⟩
  | outOfMemory clear | noBoards clear | boards clear => exact .inr ⟨clear, rfl, rfl⟩

/-! ## Runs -/

theorem Owning.step {call : Call} (owning : Owning state) (fresh : Fresh state call)
    (stepped : callStep state call = some next) :
    Owning next ∧ (Stored state → (Stored next ↔ KeepsDescriptors state call)) := by
  cases call with
  | checkBoards env =>
      obtain ⟨ret, checked⟩ := callStep_check stepped
      rcases checked.cleared with ⟨flagged, rfl⟩ | ⟨clear, empty, descriptors⟩
      · exact ⟨owning, fun stored => iff_of_true stored (.inl flagged)⟩
      · refine ⟨Owning.cleared (by simp [empty]), fun stored => ?_⟩
        rw [owning.cleared_iff stored empty descriptors, KeepsDescriptors, clear]
        simp
  | freeBoards boardId =>
      cases stepped
      exact ⟨Owning.cleared (fun _ => rfl), fun stored => owning.cleared_iff stored rfl rfl⟩
  | deviceClose boardId =>
      obtain ⟨kept, stored⟩ := owning.closed (callStep_close stepped).2
      exact ⟨kept, fun before => iff_of_true (stored before) trivial⟩
  | deviceOpen env boardId =>
      obtain ⟨answer, boards, _, searched, opened⟩ := callStep_open stepped
      refine ⟨owning.opened (fresh boards searched) opened, fun stored => ?_⟩
      rw [stored.opened_iff owning (fresh boards searched) opened]
      simp [KeepsDescriptors, searched]

/-- In a run from the loading of the library on, in which `open(2)` returns fresh
descriptors, no descriptor is ever lost exactly when every call keeps them. -/
theorem descriptors_stored_iff {calls : List Call} {final : LibState}
    (ran : runFrom callStep LibState.loaded calls = some final)
    (fresh : EachStep callStep Fresh LibState.loaded calls) :
    Throughout callStep Stored LibState.loaded calls ↔
      EachStep callStep KeepsDescriptors LibState.loaded calls := by
  have start : Owning LibState.loaded := Owning.cleared fun _ => rfl
  refine throughout_iff_eachStep ?_ ?_ start ?_ (fresh.and (eachStep_completed ran))
  · intro state call next owning stored fresh stepped
    obtain ⟨kept, exactly⟩ := Owning.step owning fresh.1 stepped
    exact ⟨exactly stored, fun _ => kept⟩
  · intro state call owning stored fresh stuck
    obtain ⟨next, stepped⟩ := fresh.2
    rw [stepped] at stuck
    cases stuck
  · intro fd member
    cases member

def opensTwice : List Call :=
  [.checkBoards oneBoard, .deviceOpen (opensAs 3) 7, .deviceOpen (opensAs 4) 7]

theorem opensTwice_ran : ∃ final, runFrom callStep LibState.loaded opensTwice = some final ∧
    final.descriptors = [4, 3] ∧ ((List.finRange maxDevHandle).filterMap fun slot =>
      (final.devHandleList slot).map DevHandle.devHandle) = [3] := by
  have seen : (runFrom callStep LibState.loaded opensTwice).map
      (fun final => (final.descriptors, (List.finRange maxDevHandle).filterMap fun slot =>
        (final.devHandleList slot).map DevHandle.devHandle)) = some ([4, 3], [3]) := by
    decide +kernel
  obtain ⟨final, ran, observed⟩ := Option.map_eq_some_iff.mp seen
  obtain ⟨descriptors, held⟩ := Prod.mk.inj observed
  exact ⟨final, ran, descriptors, held⟩

theorem opensTwice_fresh : EachStep callStep Fresh LibState.loaded opensTwice := by
  have first : (callStep LibState.loaded (.checkBoards oneBoard)).map LibState.descriptors =
      some [] := by decide +kernel
  have second : ((callStep LibState.loaded (.checkBoards oneBoard)).bind fun state =>
      callStep state (.deviceOpen (opensAs 3) 7)).map LibState.descriptors = some [3] := by
    decide +kernel
  refine ⟨trivial, ?_⟩
  intro checked stepped
  rw [stepped] at first second
  have unopened : checked.descriptors = [] := by simpa using first
  refine ⟨by simp [Fresh, unopened], ?_⟩
  intro opened stepped
  rw [Option.bind_some, stepped] at second
  have once : opened.descriptors = [3] := by simpa using second
  exact ⟨by simp [Fresh, once, opensAs], fun _ _ => trivial⟩

/-- Opening an open board a second time loses the second descriptor. -/
theorem open_again_loses_descriptor :
    EachStep callStep Fresh LibState.loaded opensTwice ∧
      ∃ final, runFrom callStep LibState.loaded opensTwice = some final ∧ ¬ Stored final := by
  obtain ⟨final, ran, descriptors, held⟩ := opensTwice_ran
  refine ⟨opensTwice_fresh, final, ran, ?_⟩
  intro stored
  obtain ⟨slot, ⟨handle, there, same⟩, _⟩ := stored 4 (by simp [descriptors])
  have member : (4 : Int) ∈ (List.finRange maxDevHandle).filterMap fun slot =>
      (final.devHandleList slot).map DevHandle.devHandle :=
    List.mem_filterMap.mpr ⟨slot, List.mem_finRange slot, by simp [there, same]⟩
  rw [held] at member
  cases member with
  | tail _ rest => cases rest

theorem descriptors_stored_iff_twice :
    Throughout callStep Stored LibState.loaded opensTwice ↔
      EachStep callStep KeepsDescriptors LibState.loaded opensTwice := by
  obtain ⟨final, ran, _⟩ := opensTwice_ran
  exact descriptors_stored_iff ran opensTwice_fresh

end Vi53xx.Lib
