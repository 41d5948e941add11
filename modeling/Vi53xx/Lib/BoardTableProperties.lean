import Vi53xx.Lib.CheckProperties
import Vi53xx.Lib.LatchProperties

/-! The board table against its length. The two are separate variables, and
`free_board_info` resets only the first. -/

set_option autoImplicit false

namespace Vi53xx.Lib

open Foundation

/-- The library with the records that its latest load has stored. -/
structure Loading where
  lib : LibState
  latest : List DeviceInfo

def Loading.start : Loading := ⟨LibState.loaded, []⟩

/-- The records of a check, if it loads any. -/
def latestRecords (env : CheckEnv) (state : Loading) : List DeviceInfo :=
  if state.lib.initCheckOk || !env.memory then state.latest
  else
    match extractValue env.line (env.procfs mapingPath) with
    | .ok (_, records) => records
    | .error _ => state.latest

def latestAfter (state : Loading) : LibCall → List DeviceInfo
  | .call (.checkBoards env) => latestRecords env state
  | .cfgInit _ env _ => latestRecords env.check state
  | _ => state.latest

def loadingStep (state : Loading) (call : LibCall) : Option Loading :=
  (libStep state.lib call).map fun lib => ⟨lib, latestAfter state call⟩

/-- A positive length is that of the records of the latest load, which the table
starts with and which a search goes through. -/
def TablePresent (state : Loading) : Prop :=
  0 < state.lib.availableBoardCount →
    (∃ info, state.lib.boardInfo = some info ∧
      info.take state.lib.availableBoardCount.toNat = state.latest) ∧
    searchedBoards state.lib = .ok state.latest

/-- The check of the file refuses boards: one of several occurs again, the cell
after them included. -/
def Conflicting (env : CheckEnv) : Prop :=
  ∃ records, Loads env records ∧ TableHolds records ∧ records.length ≠ 1 ∧
    1 ≤ repeats (comparedIds env records) ∧ repeats (comparedIds env records) ≤ 64

/-- `free_board_info` meets no boards, and a start does not load boards it refuses. -/
def FreesUncounted (state : Loading) : LibCall → Prop
  | .call (.freeBoards _) => state.lib.availableBoardCount ≤ 0
  | .cfgInit _ env _ => state.lib.initCheckOk = false → ¬ Conflicting env.check
  | _ => True

/-- The check a call starts with, if it is one of those that load the table. -/
def checkOf : LibCall → Option CheckEnv
  | .call (.checkBoards env) => some env
  | .cfgInit _ env _ => some env.check
  | _ => none

/-- The load of the call, if it makes one, ends. -/
def LoadCompletes (state : Loading) (call : LibCall) : Prop :=
  ∀ env, checkOf call = some env → ∃ outcome, checkBoardsInfo env state.lib = .ok outcome

/-- A load gets no memory, or its file can be read, the table has room for its records
and their names, and at most 64 of them have an id that occurs again. -/
def LoadsInside (state : Loading) (call : LibCall) : Prop :=
  ∀ env, checkOf call = some env → state.lib.initCheckOk = false → env.memory = true →
    ∃ records, Loads env records ∧ TableHolds records ∧ repeats (comparedIds env records) ≤ 64

structure Sized (state : Loading) : Prop where
  uncounted : state.lib.initCheckOk = false → state.lib.availableBoardCount ≤ 0
  bounded : state.lib.availableBoardCount ≤ boardNum
  sized : ∀ info, state.lib.boardInfo = some info → info.length = boardNum

variable {state next : LibState} {records latest : List DeviceInfo} {before after : Loading}

/-! ## Calls that leave the table alone -/

structure SameTable (state next : LibState) : Prop where
  count : next.availableBoardCount = state.availableBoardCount
  info : next.boardInfo = state.boardInfo
  flag : next.initCheckOk = state.initCheckOk

theorem SameTable.searched (same : SameTable state next) :
    searchedBoards next = searchedBoards state := by
  simp only [searchedBoards, same.count, same.info]

theorem SameTable.present (same : SameTable state next) (present : TablePresent ⟨state, latest⟩) :
    TablePresent ⟨next, latest⟩ := by
  intro positive
  rw [same.searched]
  simp only [same.count, same.info] at positive ⊢
  exact present positive

theorem SameTable.kept (same : SameTable state next) (sized : Sized ⟨state, latest⟩) :
    Sized ⟨next, latest⟩ := by
  refine ⟨?_, ?_, ?_⟩
  · simp only [same.flag, same.count]
    exact sized.uncounted
  · simp only [same.count]
    exact sized.bounded
  · simp only [same.info]
    exact sized.sized

theorem Opened.sameTable {env : OpenEnv} {boardId : BitVec 32} {fd : Int} {devName : List Char}
    {answer : OpenReturn} (opened : Opened env state boardId fd devName answer next) :
    SameTable state next := by
  cases opened with
  | noBoards =>
      unfold received
      split <;> exact ⟨rfl, rfl, rfl⟩
  | openFailed | alreadyOpen | outOfMemory | stored | fallThrough => exact ⟨rfl, rfl, rfl⟩

theorem getIdx_sameTable {mallocOk : Bool} {boardId : BitVec 32} :
    SameTable state (getIdx mallocOk state boardId).2 := by
  unfold getIdx
  split
  · exact ⟨rfl, rfl, rfl⟩
  · split
    · dsimp only
      split <;> exact ⟨rfl, rfl, rfl⟩
    · exact ⟨rfl, rfl, rfl⟩

/-! ## Loads -/

theorem latestRecords_flagged {env : CheckEnv} (flagged : before.lib.initCheckOk = true) :
    latestRecords env before = before.latest := by
  simp [latestRecords, flagged]

theorem latestRecords_loads {env : CheckEnv} (clear : before.lib.initCheckOk = false)
    (loads : Loads env records) : latestRecords env before = records := by
  obtain ⟨memory, count, extracted⟩ := loads
  simp [latestRecords, clear, memory, extracted]

theorem present_of_uncounted (uncounted : before.lib.availableBoardCount ≤ 0) :
    TablePresent before := by
  intro positive
  omega

theorem loaded_present {errors : List DeviceInfo} (fits : records.length ≤ boardNum) :
    TablePresent ⟨loaded state records.length (some (fillTable records)) (some errors), records⟩ := by
  intro positive
  have taken : (fillTable records).take records.length = records := by simp [fillTable]
  refine ⟨⟨fillTable records, rfl, taken⟩, ?_⟩
  have counted : 0 < records.length := Int.natCast_pos.mp positive
  have several : ¬ (records.length : Int) ≤ 0 := by omega
  simp only [searchedBoards, loaded, if_neg several, fillTable_length fits,
    if_pos (Int.ofNat_le.mpr fits), Int.toNat_natCast, taken]

/-- A check keeps the table present, and the flag says that it has loaded. -/
theorem checked_present {env : CheckEnv} {ret : Int} (sized : Sized before)
    (present : TablePresent before) (checked : checkBoardsInfo env before.lib = .ok (ret, next)) :
    TablePresent ⟨next, latestRecords env before⟩ ∧ Sized ⟨next, latestRecords env before⟩ := by
  have outcome := checkBoardsInfo_checked checked
  have whole : ∀ info, next.boardInfo = some info → info.length = boardNum :=
    outcome.sized sized.sized
  cases flag : before.lib.initCheckOk with
  | true =>
      rw [checkBoardsInfo_flagged flag] at checked
      cases checked
      rw [latestRecords_flagged flag]
      exact ⟨present, sized⟩
  | false =>
      have uncounted := sized.uncounted flag
      have flagged := outcome.flagged
      have unflagged : next.initCheckOk = false → next.availableBoardCount ≤ 0 := by
        intro clear
        rw [flagged] at clear
        cases clear
      cases checkBoardsInfo_load flag checked with
      | noMemory memory count =>
          have none : next.availableBoardCount ≤ 0 := by omega
          exact ⟨present_of_uncounted none, unflagged, by simp only [count]; exact sized.bounded, whole⟩
      | noBoards loads => exact ⟨present_of_uncounted uncounted, unflagged, sized.bounded, whole⟩
      | boards loads found fits room length =>
          rw [latestRecords_loads flag loads]
          exact ⟨loaded_present fits, unflagged, Int.ofNat_le.mpr fits, whole⟩

/-! ## Each call -/

theorem freed_present_iff {boardId : BitVec 32} :
    TablePresent ⟨freeBoardInfo state boardId, latest⟩ ↔ state.availableBoardCount ≤ 0 := by
  constructor
  · intro present
    by_contra positive
    obtain ⟨⟨info, held, _⟩, _⟩ := present (Int.not_le.mp positive)
    cases held
  · intro uncounted
    exact present_of_uncounted uncounted

theorem freed_sized {boardId : BitVec 32} (uncounted : state.availableBoardCount ≤ 0) :
    Sized ⟨freeBoardInfo state boardId, latest⟩ := by
  refine ⟨fun _ => uncounted, ?_, nofun⟩
  exact Int.le_trans uncounted (Int.natCast_nonneg _)

theorem Closed.present {boardId : BitVec 32} (closed : Closed state boardId next)
    (sized : Sized ⟨state, latest⟩) (present : TablePresent ⟨state, latest⟩) :
    TablePresent ⟨next, latest⟩ ∧ Sized ⟨next, latest⟩ := by
  by_cases drops : Drops state
  · obtain ⟨count, info, flag, _⟩ := closed.drops drops
    have uncounted : next.availableBoardCount ≤ 0 := by omega
    refine ⟨present_of_uncounted uncounted, fun _ => uncounted, ?_, ?_⟩
    · exact Int.le_trans uncounted (Int.natCast_nonneg _)
    · simp only [info]
      exact nofun
  · obtain ⟨count, info, flag, _⟩ := closed.keeps drops
    have same : SameTable state next := ⟨count, info, flag⟩
    exact ⟨same.present present, same.kept sized⟩

theorem Started.present_iff {env : InitEnv} {boardId : BitVec 32} (sized : Sized before)
    (present : TablePresent before) (started : Started env before.lib boardId next) :
    (TablePresent ⟨next, latestRecords env.check before⟩ ↔
        (before.lib.initCheckOk = false → ¬ Conflicting env.check)) ∧
      (TablePresent ⟨next, latestRecords env.check before⟩ →
        Sized ⟨next, latestRecords env.check before⟩) := by
  have size : boardNum = 128 := rfl
  cases started with
  | @refused ret checked check nonzero =>
      refine ⟨?_, fun kept => freed_sized (freed_present_iff.mp kept)⟩
      rw [freed_present_iff]
      cases flag : before.lib.initCheckOk with
      | true =>
          rw [checkBoardsInfo_flagged flag] at check
          cases check
          exact absurd rfl nonzero
      | false =>
          cases checkBoardsInfo_load flag check with
          | noMemory memory count =>
              refine iff_of_true ?_ ?_
              · rw [count]
                exact sized.uncounted flag
              · rintro - ⟨records, loads, _⟩
                rw [loads.1] at memory
                cases memory
          | noBoards => exact absurd rfl nonzero
          | @boards records errors loads found fits room length =>
              have positive := List.length_pos_iff.mpr found
              have counted : ¬ (records.length : Int) ≤ 0 := by omega
              refine iff_of_false counted ?_
              intro quiet
              split at length
              · rw [length] at nonzero
                exact nonzero rfl
              · next several => exact quiet rfl ⟨records, loads, loads.holds, several, by omega, by omega⟩
  | @accepted checked _ check opened =>
      obtain ⟨_, _, _, _, outcome⟩ := callStep_open opened
      obtain ⟨kept, whole⟩ := checked_present sized present check
      refine ⟨iff_of_true (outcome.sameTable.present kept) ?_, fun _ => outcome.sameTable.kept whole⟩
      rintro clear ⟨others, again, _, several, some, _⟩
      generalize answer : (0 : Int) = ret at check
      cases checkBoardsInfo_load clear check with
      | noMemory => cases answer
      | noBoards loads =>
          rw [again.unique loads] at some
          simp [comparedIds, repeats] at some
      | boards loads found fits room length =>
          rw [again.unique loads] at several some
          rw [if_neg several] at length
          omega

theorem present_step {call : LibCall} (sized : Sized before) (present : TablePresent before)
    (ran : loadingStep before call = some after) :
    (TablePresent after ↔ FreesUncounted before call) ∧ (TablePresent after → Sized after) := by
  obtain ⟨lib, stepped, rfl⟩ := Option.map_eq_some_iff.mp ran
  cases call with
  | getIdx mallocOk boardId =>
      cases stepped
      exact ⟨iff_of_true (getIdx_sameTable.present present) trivial,
        fun _ => getIdx_sameTable.kept sized⟩
  | cfgInit cfg env boardId => exact (libStep_cfgInit stepped).present_iff sized present
  | call call =>
      cases call with
      | checkBoards env =>
          obtain ⟨ret, checked⟩ := callStep_checked stepped
          obtain ⟨kept, whole⟩ := checked_present sized present checked
          exact ⟨iff_of_true kept trivial, fun _ => whole⟩
      | deviceOpen env boardId =>
          obtain ⟨_, _, _, _, outcome⟩ := callStep_open stepped
          exact ⟨iff_of_true (outcome.sameTable.present present) trivial,
            fun _ => outcome.sameTable.kept sized⟩
      | deviceClose boardId =>
          obtain ⟨kept, whole⟩ := (callStep_close stepped).2.present sized present
          exact ⟨iff_of_true kept trivial, fun _ => whole⟩
      | freeBoards boardId =>
          cases stepped
          exact ⟨freed_present_iff, fun kept => freed_sized (freed_present_iff.mp kept)⟩

theorem freesUncounted_of_stuck {call : LibCall} (stuck : loadingStep before call = none) :
    FreesUncounted before call := by
  have stuck := Option.map_eq_none_iff.mp stuck
  cases call with
  | getIdx => trivial
  | cfgInit cfg env boardId =>
      rintro clear ⟨records, loads, _, several, some, few⟩
      have found : records ≠ [] := by
        rintro rfl
        simp [comparedIds, repeats] at some
      obtain ⟨errors, checked, length⟩ := checkBoardsInfo_answer clear loads found few
      have nonzero : (errors.length : Int) ≠ 0 := by
        rw [if_neg several] at length
        omega
      obtain ⟨next, stepped⟩ := @cfgInit_completes _ boardId cfg _ _ _ checked nonzero
      rw [stepped] at stuck
      cases stuck
  | call call =>
      cases call with
      | checkBoards | deviceOpen | deviceClose => trivial
      | freeBoards => cases stuck

theorem checkBoardsInfo_completes_iff {env : CheckEnv} (clear : state.initCheckOk = false)
    (memory : env.memory = true) :
    (∃ outcome, checkBoardsInfo env state = .ok outcome) ↔
      ∃ records, Loads env records ∧ TableHolds records ∧ repeats (comparedIds env records) ≤ 64 := by
  constructor
  · rintro ⟨⟨ret, next⟩, checked⟩
    cases checkBoardsInfo_load clear checked with
    | noMemory missing =>
        rw [memory] at missing
        cases missing
    | noBoards loads => exact ⟨[], loads, loads.holds, Nat.zero_le _⟩
    | boards loads _ _ room length => exact ⟨_, loads, loads.holds, few_repeats room length⟩
  · rintro ⟨records, loads, _, few⟩
    by_cases found : records = []
    · subst found
      exact ⟨_, checkBoardsInfo_noBoards clear loads⟩
    · obtain ⟨errors, checked, _⟩ := checkBoardsInfo_answer clear loads found few
      exact ⟨_, checked⟩

theorem loadCompletes_iff {call : LibCall} : LoadCompletes before call ↔ LoadsInside before call := by
  unfold LoadCompletes LoadsInside
  refine forall_congr' fun env => forall_congr' fun _ => ?_
  cases flag : before.lib.initCheckOk with
  | true => simp [checkBoardsInfo_flagged flag]
  | false =>
      cases memory : env.memory with
      | false =>
          obtain ⟨after, checked, _⟩ := checkBoardsInfo_noMemory flag memory
          simp [checked]
      | true => simp [checkBoardsInfo_completes_iff flag memory]

/-- From the loading of the library on, the loads end and the table is there whenever its
length is positive, exactly as long as each load stays within its buffers and nothing is
freed while boards are counted. -/
theorem table_present_iff {calls : List LibCall} :
    Throughout loadingStep TablePresent Loading.start calls ∧
        EachStep loadingStep LoadCompletes Loading.start calls ↔
      EachStep loadingStep FreesUncounted Loading.start calls ∧
        EachStep loadingStep LoadsInside Loading.start calls := by
  have loads : EachStep loadingStep LoadCompletes Loading.start calls ↔
      EachStep loadingStep LoadsInside Loading.start calls :=
    ⟨EachStep.mono fun _ _ => loadCompletes_iff.mp, EachStep.mono fun _ _ => loadCompletes_iff.mpr⟩
  rw [loads]
  refine and_congr_left fun _ => ?_
  have unguarded : EachStep loadingStep (fun _ _ => True) Loading.start calls :=
    eachStep_of_forall fun _ _ => trivial
  have valid : Sized Loading.start :=
    ⟨fun _ => Int.le_refl 0, Int.natCast_nonneg boardNum, nofun⟩
  have start : TablePresent Loading.start := present_of_uncounted (Int.le_refl 0)
  refine throughout_iff_eachStep ?_ ?_ valid start unguarded
  · intro state call next sized present _ stepped
    exact present_step sized present stepped
  · intro state call _ _ _ stuck
    exact freesUncounted_of_stuck stuck

/-- A successful check and a free leave one board counted and no table. -/
theorem free_leaves_count :
    ∃ final, runFrom loadingStep Loading.start
        [.call (.checkBoards oneBoard), .call (.freeBoards 7)] = some final ∧
      ¬ TablePresent final := by
  have seen : (runFrom loadingStep Loading.start
      [.call (.checkBoards oneBoard), .call (.freeBoards 7)]).map (fun final =>
        (final.lib.availableBoardCount, final.lib.boardInfo)) = some (1, none) := by
    decide +kernel
  obtain ⟨final, ran, observed⟩ := Option.map_eq_some_iff.mp seen
  obtain ⟨count, none⟩ := Prod.mk.inj observed
  refine ⟨final, ran, ?_⟩
  intro present
  have positive : 0 < final.lib.availableBoardCount := by omega
  obtain ⟨⟨info, held, _⟩, _⟩ := present positive
  rw [none] at held
  cases held

end Vi53xx.Lib
