import Vi53xx.Lib.Parvar

/-! What holds of the parameter file over the calls of a process. A release forgets
the data and not its type, and a new path forgets a file that is still open. -/

set_option autoImplicit false

namespace Vi53xx.Lib

open Foundation

variable {env : MatEnv} {process next : ParvarProcess} {state : LibState} {pmt loaded : ParvarMat}
  {name : Option (List Char)} {text : List Char} {boardId : BitVec 32} {ret : Int}
  {call : ParvarCall} {calls : List ParvarCall}

/-! ## The path -/

theorem convertToLower_length : (convertToLower text).length = text.length :=
  List.length_map toLower

theorem parvarPath_length : (parvarPath text).length = 2 * text.length + 67 := by
  have first : "/home/rtpc/codegen/simodels/".toList.length = 28 := by decide +kernel
  have second : "/external/code/src/simulink_".toList.length = 28 := by decide +kernel
  have third : "/parvar.mat".toList.length = 11 := by decide +kernel
  have split : (parvarPath text).length = 28 + text.length + 28 + text.length + 11 := by
    unfold parvarPath
    simp only [List.length_append, first, second, third]
  omega

/-- The second array is the smaller one for a name. -/
theorem path_room : text.length ≤ 222 ↔
    (convertToLower text).length + 1 ≤ strSize ∧
      (parvarPath (convertToLower text)).length + 1 ≤ matPathSize := by
  have small : strSize = 256 := rfl
  have large : matPathSize = 512 := rfl
  rw [parvarPath_length, convertToLower_length]
  omega

theorem writeString_ok {size : Nat} {written : List Char} :
    writeString size text = .ok written ↔ text.length + 1 ≤ size ∧ text = written := by
  unfold writeString
  split
  · next fits => simp [fits]
  · next full => simp [full]

/-- What a call with a name has done when it returns. -/
inductive SetPath (env : MatEnv) (process : ParvarProcess) (text : List Char) :
    Int → ParvarProcess → Prop where
  | failed (closed : env.matOpen = none) :
      SetPath env process text (-1) (process.withPmt
        { ParvarMat.cleared with matPath := parvarPath (convertToLower text) })
  | opened {file : Nat} {loaded : ParvarMat} (fresh : env.matOpen = some file)
      (read : initParvarMat env { ParvarMat.cleared with
        matPath := parvarPath (convertToLower text), matfile := some file } = .ok loaded) :
      SetPath env process text 0 { process.withPmt loaded with files := file :: process.files }

/-- A name is copied and inserted twice before anything is opened. -/
theorem setParvarMatPath_ok (called : setParvarMatPath env process (some text) = .ok (ret, next)) :
    text.length ≤ 222 ∧ SetPath env process text ret next := by
  simp only [setParvarMatPath, bind, Except.bind] at called
  cases copied : writeString strSize text with
  | error fault => simp [copied] at called
  | ok str =>
      obtain ⟨_, rfl⟩ := writeString_ok.mp copied
      simp only [copied] at called
      cases printed : writeString matPathSize (parvarPath (convertToLower text)) with
      | error fault => simp [printed] at called
      | ok path =>
          obtain ⟨fits, rfl⟩ := writeString_ok.mp printed
          refine ⟨path_room.mpr ⟨?_, fits⟩, ?_⟩
          · rw [convertToLower_length]
            exact (writeString_ok.mp copied).1
          simp only [printed] at called
          cases file : env.matOpen with
          | none =>
              simp only [file] at called
              cases called
              exact .failed file
          | some file' =>
              simp only [file] at called
              cases read : initParvarMat env { ParvarMat.cleared with
                  matPath := parvarPath (convertToLower text), matfile := some file' } with
              | error fault => simp [read] at called
              | ok loaded =>
                  simp only [read] at called
                  cases called
                  exact .opened file read

theorem setParvarMatPath_long (long : 222 < text.length) :
    setParvarMatPath env process (some text) = .error .outOfBounds := by
  simp only [setParvarMatPath, bind, Except.bind]
  cases copied : writeString strSize text with
  | error fault =>
      unfold writeString at copied
      split at copied
      · cases copied
      · cases copied
        rfl
  | ok str =>
      obtain ⟨_, rfl⟩ := writeString_ok.mp copied
      have full : ¬ (parvarPath (convertToLower text)).length + 1 ≤ matPathSize := by
        have large : matPathSize = 512 := rfl
        rw [parvarPath_length, convertToLower_length]
        omega
      simp only [writeString, if_neg full]

/-- The call returns -1 and writes nothing, or the name and the path fit their arrays. -/
def BuildsInside (env : MatEnv) (process : ParvarProcess) (name : Option (List Char)) : Prop :=
  setParvarMatPath env process name = .ok (-1, process) ∨
    ∃ text, name = some text ∧ (convertToLower text).length + 1 ≤ strSize ∧
      (parvarPath (convertToLower text)).length + 1 ≤ matPathSize

/-- The arrays have room for names of up to 222 characters. -/
theorem path_fits_iff :
    BuildsInside env process name ↔ ∀ text, name = some text → text.length ≤ 222 := by
  cases name with
  | none => exact iff_of_true (.inl rfl) nofun
  | some text =>
      simp only [Option.some.injEq, forall_eq']
      constructor
      · rintro (returned | ⟨other, same, fits⟩)
        · exact (setParvarMatPath_ok returned).1
        · cases same
          exact path_room.mpr fits
      · intro short
        exact .inr ⟨text, rfl, path_room.mp short⟩

def noAnswers : MatEnv := ⟨none, none, fun _ => none, nofun⟩

theorem long_name_overruns :
    ¬ BuildsInside noAnswers (.started LibState.loaded) (some (List.replicate 223 'a')) := by
  have long : ¬ (List.replicate 223 'a').length ≤ 222 := by
    rw [List.length_replicate]
    decide
  rintro (returned | ⟨text, same, fits⟩)
  · exact long (setParvarMatPath_ok returned).1
  · cases same
    exact long (path_room.mpr fits)

/-! ## Steps -/

theorem initParvarMat_ok (read : initParvarMat env pmt = .ok loaded) :
    loaded.matfile = pmt.matfile ∧ loaded.matPath = pmt.matPath ∧
      (loaded = pmt ∨ ∃ matvar, loaded.matvar = some matvar ∧
        (loaded.dataType = 0 ∨ loaded.dataType = 1 ∧ loaded.data = some matvar.data ∧
          matvar.data.length = loaded.size)) := by
  unfold initParvarMat at read
  cases first : env.varReadNext with
  | none =>
      simp only [first] at read
      cases read
      exact ⟨rfl, rfl, .inl rfl⟩
  | some name =>
      cases found : env.varRead name with
      | none => simp [first, found] at read
      | some matvar =>
          simp only [first, found] at read
          split at read
          · next typed =>
              cases read
              exact ⟨rfl, rfl, .inr ⟨matvar, rfl, .inr ⟨rfl, rfl, env.sized name matvar found typed⟩⟩⟩
          · cases read
            exact ⟨rfl, rfl, .inr ⟨matvar, rfl, .inl rfl⟩⟩

theorem parvarStep_setPath (stepped : parvarStep process (.setPath env (some text)) = some next) :
    (∀ file ∈ process.files, env.matOpen ≠ some file) ∧
      ∃ ret, SetPath env process text ret next := by
  simp only [parvarStep] at stepped
  split at stepped
  · cases stepped
  · next fresh =>
      refine ⟨?_, ?_⟩
      · intro file member same
        simp [same, member] at fresh
      · cases called : setParvarMatPath env process (some text) with
        | error fault => simp [called, Except.toOption] at stepped
        | ok outcome =>
            obtain ⟨ret, reached⟩ := outcome
            simp only [called, Except.toOption, Option.map_some, Option.some.injEq] at stepped
            subst stepped
            exact ⟨ret, (setParvarMatPath_ok called).2⟩

theorem parvarStep_noName (stepped : parvarStep process (.setPath env none) = some next) :
    next = process := by
  simp only [parvarStep, setParvarMatPath] at stepped
  split at stepped
  · cases stepped
  · exact (Option.some.inj stepped).symm

theorem vi53xxDeviceClose_pmt :
    (vi53xxDeviceClose state boardId).pmt = (releaseParvarMat state).pmt := by
  unfold vi53xxDeviceClose
  dsimp only
  split
  · rfl
  · split
    · rfl
    · rfl

/-- A call in which `release_parvar_mat` runs. -/
structure Releases (process next : ParvarProcess) : Prop where
  pmt : next.lib.pmt = (releaseParvarMat process.lib).pmt
  files : next.files = process.files.filter fun file => process.lib.pmt.matfile ≠ some file

theorem parvarStep_deviceClose (stepped : parvarStep process (.deviceClose boardId) = some next) :
    Releases process next := by
  cases stepped
  exact ⟨vi53xxDeviceClose_pmt, rfl⟩

theorem parvarStep_freeBoards (stepped : parvarStep process (.freeBoards boardId) = some next) :
    Releases process next := by
  cases stepped
  exact ⟨rfl, rfl⟩

theorem releaseParvarMat_pmt :
    (releaseParvarMat state).pmt.matfile = none ∧ (releaseParvarMat state).pmt.matvar = none ∧
      (releaseParvarMat state).pmt.dataType = state.pmt.dataType := by
  unfold releaseParvarMat
  generalize state.pmt = pmt
  obtain ⟨_, _, _, _, _, matfile, matvar, _⟩ := pmt
  cases matfile with
  | none | some file =>
      cases matvar with
      | none | some matvar => exact ⟨rfl, rfl, rfl⟩

theorem Releases.matfile (releases : Releases process next) : next.lib.pmt.matfile = none := by
  rw [releases.pmt]
  exact releaseParvarMat_pmt.1

theorem Releases.matvar (releases : Releases process next) : next.lib.pmt.matvar = none := by
  rw [releases.pmt]
  exact releaseParvarMat_pmt.2.1

theorem Releases.dataType (releases : Releases process next) :
    next.lib.pmt.dataType = process.lib.pmt.dataType := by
  rw [releases.pmt]
  exact releaseParvarMat_pmt.2.2

/-! ## Announced data -/

/-- If the type is announced, the data is that of the variable that is open, with as
many elements as the size says. -/
def Available (process : ParvarProcess) : Prop :=
  checkParvarMatDataTypeUint32 process.lib = 1 →
    ∃ matvar, process.lib.pmt.matvar = some matvar ∧
      getParvarData process.lib = some matvar.data ∧
      matvar.data.length = getParvarMatSize process.lib

/-- The call does not release a variable whose type is announced. -/
def SparesAnnounced (process : ParvarProcess) : ParvarCall → Prop
  | .setPath _ _ => True
  | .deviceClose _ | .freeBoards _ => checkParvarMatDataTypeUint32 process.lib ≠ 1

theorem available_of_untyped (untyped : process.lib.pmt.dataType = 0) : Available process := by
  intro announced
  exact absurd (untyped.symm.trans announced) (by decide)

theorem SetPath.available (called : SetPath env process text ret next) : Available next := by
  cases called with
  | failed => exact available_of_untyped rfl
  | opened _ read =>
      obtain ⟨_, _, rfl | ⟨matvar, held, untyped | ⟨_, data, size⟩⟩⟩ := initParvarMat_ok read
      · exact available_of_untyped rfl
      · exact available_of_untyped untyped
      · exact fun _ => ⟨matvar, held, data, size⟩

/-- The type stays announced while the data goes. -/
theorem Releases.available_iff (releases : Releases process next) :
    Available next ↔ checkParvarMatDataTypeUint32 process.lib ≠ 1 := by
  have kept : checkParvarMatDataTypeUint32 next.lib = checkParvarMatDataTypeUint32 process.lib :=
    releases.dataType
  constructor
  · intro available announced
    obtain ⟨matvar, held, _⟩ := available (kept.trans announced)
    rw [releases.matvar] at held
    cases held
  · intro silent announced
    exact absurd (kept.symm.trans announced) silent

/-- In every run, the announced data is there in all states exactly when no close and
no `free_board_info` comes while it is announced. -/
theorem announced_available_iff (lib : LibState) (calls : List ParvarCall) :
    Throughout parvarStep Available (.started lib) calls ↔
      EachStep parvarStep SparesAnnounced (.started lib) calls := by
  refine @throughout_iff_eachStep _ _ parvarStep (fun _ => True) Available (fun _ _ => True)
    SparesAnnounced _ calls ?_ ?_ trivial (available_of_untyped rfl)
    (eachStep_of_forall fun _ _ => trivial)
  · intro process call next _ available _ stepped
    refine ⟨?_, fun _ => trivial⟩
    cases call with
    | setPath env name =>
        refine iff_of_true ?_ trivial
        cases name with
        | none => exact parvarStep_noName stepped ▸ available
        | some text =>
            obtain ⟨_, ret, called⟩ := parvarStep_setPath stepped
            exact called.available
    | deviceClose boardId => exact (parvarStep_deviceClose stepped).available_iff
    | freeBoards boardId => exact (parvarStep_freeBoards stepped).available_iff
  · intro process call _ _ _ stuck
    cases call with
    | setPath => trivial
    | deviceClose | freeBoards => cases stuck

/-- A variable `p` of one element. -/
def oneElement : MatVar := ⟨['p'], true, 1, 1, 4, [5]⟩

def opensOne (file : Nat) : MatEnv where
  matOpen := some file
  varReadNext := some ['p']
  varRead := fun _ => some oneElement
  sized := by
    intro name matvar found _
    cases found
    rfl

theorem data_lost_on_close :
    ¬ Throughout parvarStep Available (.started LibState.loaded)
      [.setPath (opensOne 1) (some ['m']), .deviceClose 7] := by
  intro throughout
  have available := throughout.last rfl
  obtain ⟨matvar, held, _⟩ := available rfl
  cases held

/-! ## Open files -/

/-- Every open file is the current one. -/
structure Accounted (process : ParvarProcess) : Prop where
  current : ∀ file ∈ process.files, process.lib.pmt.matfile = some file
  one : process.files.length ≤ 1

/-- A close of a board and `free_board_info` leave no file open. -/
def LeavesNone (process : ParvarProcess) : ParvarCall → Prop
  | .setPath _ _ => True
  | call => ∀ next, parvarStep process call = some next → next.files = []

/-- The call opens no file while the last one is open. -/
def OpensClosed (process : ParvarProcess) : ParvarCall → Prop
  | .setPath _ (some _) => process.lib.pmt.matfile = none
  | _ => True

/-- The current file is open. -/
def CurrentOpen (process : ParvarProcess) : Prop :=
  ∀ file, process.lib.pmt.matfile = some file → file ∈ process.files

theorem Accounted.files_nil (accounted : Accounted process)
    (closed : process.lib.pmt.matfile = none) : process.files = [] := by
  refine List.eq_nil_iff_forall_not_mem.mpr ?_
  intro file member
  rw [accounted.current file member] at closed
  cases closed

theorem Releases.files_nil (releases : Releases process next) (accounted : Accounted process) :
    next.files = [] := by
  rw [releases.files]
  refine List.filter_eq_nil_iff.mpr ?_
  intro file member
  simp [accounted.current file member]

theorem accounted_nil (empty : process.files = []) : Accounted process := by
  refine ⟨?_, ?_⟩
  · simp [empty]
  · simp [empty]

theorem currentOpen_none (closed : process.lib.pmt.matfile = none) : CurrentOpen process := by
  intro file held
  rw [closed] at held
  cases held

theorem SetPath.matfile (called : SetPath env process text ret next) :
    next.lib.pmt.matfile = env.matOpen := by
  cases called with
  | failed closed => exact closed.symm
  | opened fresh read => exact (initParvarMat_ok read).1.trans fresh.symm

theorem SetPath.files (called : SetPath env process text ret next) :
    next.files = env.matOpen.toList ++ process.files := by
  cases called with
  | failed closed =>
      rw [closed]
      rfl
  | opened fresh _ =>
      rw [fresh]
      rfl

theorem SetPath.currentOpen (called : SetPath env process text ret next) : CurrentOpen next := by
  intro file held
  rw [called.matfile] at held
  simp [called.files, held]

/-- A path that is set while a file is open loses that file. -/
theorem SetPath.accounted_iff (called : SetPath env process text ret next)
    (accounted : Accounted process) (currentOpen : CurrentOpen process)
    (fresh : ∀ file ∈ process.files, env.matOpen ≠ some file) :
    Accounted next ↔ process.lib.pmt.matfile = none := by
  constructor
  · intro after
    by_contra held
    obtain ⟨file, held⟩ := Option.ne_none_iff_exists'.mp held
    have member := currentOpen file held
    have still : file ∈ next.files := by
      rw [called.files]
      exact List.mem_append_right _ member
    have current := after.current file still
    rw [called.matfile] at current
    exact fresh file member current
  · intro closed
    have empty := accounted.files_nil closed
    have files : next.files = env.matOpen.toList := by
      rw [called.files, empty, List.append_nil]
    refine ⟨?_, ?_⟩
    · intro file member
      rw [files] at member
      rw [called.matfile]
      exact Option.mem_toList.mp member
    · rw [files]
      cases env.matOpen with
      | none | some file => simp

theorem accounted_step (accounted : Accounted process) (currentOpen : CurrentOpen process)
    (stepped : parvarStep process call = some next) :
    (Accounted next ↔ OpensClosed process call) ∧ CurrentOpen next := by
  cases call with
  | setPath env name =>
      cases name with
      | none =>
          rw [parvarStep_noName stepped]
          exact ⟨iff_of_true accounted trivial, currentOpen⟩
      | some text =>
          obtain ⟨fresh, ret, called⟩ := parvarStep_setPath stepped
          exact ⟨called.accounted_iff accounted currentOpen fresh, called.currentOpen⟩
  | deviceClose boardId =>
      have releases := parvarStep_deviceClose stepped
      exact ⟨iff_of_true (accounted_nil (releases.files_nil accounted)) trivial,
        currentOpen_none releases.matfile⟩
  | freeBoards boardId =>
      have releases := parvarStep_freeBoards stepped
      exact ⟨iff_of_true (accounted_nil (releases.files_nil accounted)) trivial,
        currentOpen_none releases.matfile⟩

theorem Accounted.leavesNone (accounted : Accounted process) (call : ParvarCall) :
    LeavesNone process call := by
  cases call with
  | setPath => trivial
  | deviceClose => exact fun next stepped => (parvarStep_deviceClose stepped).files_nil accounted
  | freeBoards => exact fun next stepped => (parvarStep_freeBoards stepped).files_nil accounted

/-- In a run that completes, every open file is the current one in all states, and the
closes leave none open, exactly when no path is set while a file is open. -/
theorem files_accounted_iff {lib : LibState} {final : ParvarProcess}
    (ran : runFrom parvarStep (.started lib) calls = some final) :
    Throughout parvarStep Accounted (.started lib) calls ∧
        EachStep parvarStep LeavesNone (.started lib) calls ↔
      EachStep parvarStep OpensClosed (.started lib) calls := by
  have throughout : Throughout parvarStep Accounted (.started lib) calls ↔
      EachStep parvarStep OpensClosed (.started lib) calls := by
    refine @throughout_iff_eachStep _ _ parvarStep CurrentOpen Accounted _
      OpensClosed _ calls ?_ ?_ (currentOpen_none rfl) (accounted_nil rfl) (eachStep_completed ran)
    · intro process call next currentOpen accounted _ stepped
      obtain ⟨kept, current⟩ := accounted_step accounted currentOpen stepped
      exact ⟨kept, fun _ => current⟩
    · rintro process call _ _ ⟨next, stepped⟩ stuck
      rw [stuck] at stepped
      cases stepped
  rw [← throughout]
  constructor
  · exact And.left
  · intro accounted
    refine ⟨accounted, ?_⟩
    exact eachStep_of_invariant (fun process call accounted _ => accounted.leavesNone call)
      accounted (eachStep_completed ran)

theorem file_lost_on_second_path :
    ¬ Throughout parvarStep Accounted (.started LibState.loaded)
      [.setPath (opensOne 1) (some ['m']), .setPath (opensOne 2) (some ['n'])] := by
  intro throughout
  have accounted := throughout.last rfl
  exact absurd accounted.one (by decide)

theorem files_accounted_iff_two :
    Throughout parvarStep Accounted (.started LibState.loaded)
          [.setPath (opensOne 1) (some ['m']), .deviceClose 7] ∧
        EachStep parvarStep LeavesNone (.started LibState.loaded)
          [.setPath (opensOne 1) (some ['m']), .deviceClose 7] ↔
      EachStep parvarStep OpensClosed (.started LibState.loaded)
        [.setPath (opensOne 1) (some ['m']), .deviceClose 7] :=
  files_accounted_iff rfl

end Vi53xx.Lib
