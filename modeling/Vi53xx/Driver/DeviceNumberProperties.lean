import Vi53xx.Driver.HotplugProperties
import Vi53xx.Foundation.CTextProperties
import Vi53xx.Foundation.Runs

/-! Device numbers and names. A minor number is what the counter of its type says,
and the counter only ever grows, while a major has 128 minors. -/

set_option autoImplicit false

namespace Vi53xx.Driver

open Foundation Foundation.CText

/-! ## Numbers -/

section Numbers

variable {major : BitVec 32} {minor : Nat}

theorem MKDEV_toNat (small : major.toNat < 2 ^ 12) (low : minor < 2 ^ 20) :
    (MKDEV major (BitVec.ofNat 32 minor)).toNat = major.toNat * 2 ^ 20 + minor := by
  have fits : major.toNat * 2 ^ 20 < 2 ^ 32 := by omega
  have whole : minor < 2 ^ 32 := by omega
  rw [MKDEV, BitVec.toNat_or, BitVec.toNat_shiftLeft, BitVec.toNat_ofNat, Nat.mod_eq_of_lt whole,
    Nat.shiftLeft_eq, Nat.mod_eq_of_lt fits, ← Nat.shiftLeft_eq,
    ← Nat.shiftLeft_add_eq_or_of_lt low, Nat.shiftLeft_eq]

theorem MAJOR_MKDEV (small : major.toNat < 2 ^ 12) (low : minor < 2 ^ 20) :
    MAJOR (MKDEV major (BitVec.ofNat 32 minor)) = major := by
  apply BitVec.eq_of_toNat_eq
  rw [MAJOR, BitVec.toNat_ushiftRight, MKDEV_toNat small low, Nat.shiftRight_eq_div_pow]
  omega

theorem MINOR_MKDEV (small : major.toNat < 2 ^ 12) (low : minor < 2 ^ 20) :
    (MINOR (MKDEV major (BitVec.ofNat 32 minor))).toNat = minor := by
  have mask : (0xFFFFF#32).toNat = 2 ^ 20 - 1 := rfl
  rw [MINOR, BitVec.toNat_and, MKDEV_toNat small low, mask, Nat.and_two_pow_sub_one_eq_mod]
  omega

end Numbers

theorem decimal_injective {left right : BitVec 32} (same : decimal left.toInt = decimal right.toInt) :
    left = right := by
  have read : ∀ value : BitVec 32, scanDecimal (decimal value.toInt ++ []) =
      some (BitVec.ofInt 32 value.toInt, []) := by
    intro value
    have low := BitVec.le_toInt value
    have high := BitVec.toInt_lt (x := value)
    refine scanDecimal_decimal value.toInt ?_ (by omega) (by omega)
    intro char rest split
    cases split
  have first := read left
  rw [same, read right] at first
  simpa using first.symm

/-! ## Types -/

def boardTypes (n : Fin boardTepeNum) : BitVec 32 :=
  match n with
  | 0 => es5341Id
  | 1 => es5311Id
  | 2 => es5342Id

def boardNames (n : Fin boardTepeNum) : List Char :=
  match n with
  | 0 => "es5341".toList
  | 1 => "es5311".toList
  | 2 => "es5342".toList

theorem boardTypes_injective {n k : Fin boardTepeNum} (same : boardTypes n = boardTypes k) : n = k := by
  revert n k
  decide

theorem boardNames_injective {n k : Fin boardTepeNum} (same : boardNames n = boardNames k) : n = k := by
  revert n k
  decide

theorem boardNames_length {n : Fin boardTepeNum} : (boardNames n).length = 6 := by
  revert n
  decide

/-- The counters when probes of these types have asked for an instance number. -/
def countedList (begun : List (BitVec 32)) : List BoardInfo :=
  initialBoardNameList.map fun entry =>
    { entry with count := BitVec.ofNat 32 (begun.count entry.incaDt) }

theorem getBoardName_eq {type : BitVec 32} {name : List Char} (named : getBoardName type = some name) :
    ∃ n, type = boardTypes n ∧ name = boardNames n := by
  unfold getBoardName at named
  split at named
  · next same => exact ⟨0, same, (Option.some.inj named).symm⟩
  · split at named
    · next same => exact ⟨1, same, (Option.some.inj named).symm⟩
    · split at named
      · next same => exact ⟨2, same, (Option.some.inj named).symm⟩
      · cases named

theorem getMajorIdx_counted {begun : List (BitVec 32)} (n : Fin boardTepeNum) :
    getMajorIdx (boardTypes n) (countedList begun) = some n.val :=
  match n with
  | 0 => rfl
  | 1 => rfl
  | 2 => rfl

theorem getBoardInstance_counted {begun : List (BitVec 32)} (n : Fin boardTepeNum) :
    (getBoardInstance (boardTypes n) (countedList begun)).1 =
      BitVec.ofNat 32 (begun.count (boardTypes n)) :=
  match n with
  | 0 => rfl
  | 1 => rfl
  | 2 => rfl

theorem getBoardInstance_map {type : BitVec 32} {before after : BitVec 32 → BitVec 32}
    (raised : after type = before type + 1) (others : ∀ id, id ≠ type → after id = before id)
    {list : List BoardInfo} (nodup : (list.map BoardInfo.incaDt).Nodup) :
    (getBoardInstance type (list.map fun entry => { entry with count := before entry.incaDt })).2 =
      list.map fun entry => { entry with count := after entry.incaDt } := by
  induction list with
  | nil => rfl
  | cons entry rest ih =>
      obtain ⟨absent, nodup⟩ := List.nodup_cons.mp nodup
      simp only [List.map_cons, getBoardInstance]
      split
      · next same =>
          subst same
          have tail : ∀ other ∈ rest, after other.incaDt = before other.incaDt := by
            intro other member
            refine others other.incaDt ?_
            intro shared
            exact absent (shared ▸ List.mem_map_of_mem member)
          rw [raised]
          refine congrArg (List.cons _) (List.map_congr_left ?_)
          intro other member
          rw [tail other member]
      · next different =>
          rw [ih nodup, others entry.incaDt (Ne.symm different)]

theorem getBoardInstance_list {begun : List (BitVec 32)} {type : BitVec 32} :
    (getBoardInstance type (countedList begun)).2 = countedList (type :: begun) := by
  have distinct : (initialBoardNameList.map BoardInfo.incaDt).Nodup := by decide
  have raised : BitVec.ofNat 32 ((type :: begun).count type) =
      BitVec.ofNat 32 (begun.count type) + 1 := by
    rw [List.count_cons_self, BitVec.ofNat_add]
    rfl
  have others : ∀ id, id ≠ type →
      BitVec.ofNat 32 ((type :: begun).count id) = BitVec.ofNat 32 (begun.count id) := by
    intro id different
    rw [List.count_cons_of_ne (Ne.symm different)]
  exact @getBoardInstance_map type (fun id => BitVec.ofNat 32 (begun.count id))
    (fun id => BitVec.ofNat 32 ((type :: begun).count id)) raised others _ distinct

theorem deviceFile_injective {n k : Fin boardTepeNum} {left right : BitVec 32}
    (same : deviceFile (boardNames n) left = deviceFile (boardNames k) right) :
    n = k ∧ MINOR left = MINOR right := by
  have lengths : (boardNames n).length = (boardNames k).length := by
    rw [boardNames_length, boardNames_length]
  obtain ⟨names, tails⟩ := List.append_inj same lengths
  exact ⟨boardNames_injective names, decimal_injective (List.cons.inj tails).2⟩

/-! ## Live devices -/

/-- The device of a record that is on the list. -/
def Live (registry : Registry) (xpdev : Nat) (cdev : XdmaCdev) : Prop :=
  xpdev ∈ registry.pcieDeviceList ∧ ∃ record, registry.xpdevs xpdev = some record ∧
    record.ctrlCdev = cdev

/-- Live devices have different numbers and names, within the minors of their major. -/
structure NumbersUnique (registry : Registry) : Prop where
  numbers : ∀ first second left right, Live registry first left → Live registry second right →
    first ≠ second →
      (MAJOR left.cdevno, MINOR left.cdevno) ≠ (MAJOR right.cdevno, MINOR right.cdevno)
  names : ∀ first second left right, Live registry first left → Live registry second right →
    first ≠ second →
      deviceFile left.info.deviceName left.cdevno ≠ deviceFile right.info.deviceName right.cdevno
  reserved : ∀ xpdev cdev, Live registry xpdev cdev → ∃ n, cdev.info.boardType = boardTypes n ∧
    MAJOR cdev.cdevno = registry.major n ∧ (MINOR cdev.cdevno).toNat < 128

/-- The driver with the types of the probes that have asked for an instance number. -/
structure Numbering where
  plugged : Plugged
  begun : List (BitVec 32)

def Asks (outcome : ProbeOutcome) : Bool := outcome.xpdevAlloc && outcome.deviceMap

def begunAfter (begun : List (BitVec 32)) : PlugCall → List (BitVec 32)
  | .probe outcome readReg _ =>
      if Asks outcome then readReg deviceBoardType :: begun else begun
  | _ => begun

def numberingStep (state : Numbering) (call : PlugCall) : Option Numbering :=
  (plugStep state.plugged call).map fun plugged => ⟨plugged, begunAfter state.begun call⟩

def Numbering.start (outcome : ProcOutcome) (major : Fin boardTepeNum → BitVec 32) : Numbering :=
  ⟨Plugged.start outcome major, []⟩

/-- A probe that creates a device has fewer than 128 before it that have asked for
an instance number of its type. -/
def WithinRegion (state : Numbering) : PlugCall → Prop
  | .probe outcome readReg pdev => state.plugged.drvdata pdev = none → Asks outcome = true →
      getBoardName (readReg deviceBoardType) ≠ none → outcome.Registers →
        state.begun.count (readReg deviceBoardType) < 128
  | _ => True

/-- The device has the `m`-th number and name of the `n`-th type. -/
structure HasNumber (majors : Fin boardTepeNum → BitVec 32) (cdev : XdmaCdev) (n : Fin boardTepeNum)
    (m : Nat) : Prop where
  type : cdev.info.boardType = boardTypes n
  name : cdev.info.deviceName = boardNames n
  number : cdev.cdevno = MKDEV (majors n) (BitVec.ofNat 32 m)
  low : m < 128

structure Valid (majors : Fin boardTepeNum → BitVec 32) (state : Numbering) : Prop where
  major : state.plugged.registry.major = majors
  counters : state.plugged.registry.boardNameList = countedList state.begun
  listed : ∀ xpdev ∈ state.plugged.registry.pcieDeviceList,
    xpdev < state.plugged.registry.allocated
  numbered : ∀ xpdev cdev, Live state.plugged.registry xpdev cdev →
    ∃ n m, HasNumber majors cdev n m ∧ m < state.begun.count (boardTypes n)
  distinct : ∀ first second left right n m, Live state.plugged.registry first left →
    Live state.plugged.registry second right → HasNumber majors left n m →
      HasNumber majors right n m → first = second

variable {majors : Fin boardTepeNum → BitVec 32} {state next : Numbering} {registry after : Registry}
  {outcome : ProbeOutcome} {readReg : BitVec 32 → BitVec 32} {pdev : PciDev} {xpdev : Nat} {rv : Int}

/-! ## From numbers to the property -/

theorem HasNumber.minor {cdev : XdmaCdev} {n : Fin boardTepeNum} {m : Nat}
    (small : ∀ n, (majors n).toNat < 2 ^ 12) (number : HasNumber majors cdev n m) :
    MAJOR cdev.cdevno = majors n ∧ (MINOR cdev.cdevno).toNat = m := by
  have low : m < 2 ^ 20 := Nat.lt_trans number.low (by decide)
  rw [number.number]
  exact ⟨MAJOR_MKDEV (small n) low, MINOR_MKDEV (small n) low⟩

theorem HasNumber.unique {cdev : XdmaCdev} {n k : Fin boardTepeNum} {m l : Nat}
    (small : ∀ n, (majors n).toNat < 2 ^ 12) (number : HasNumber majors cdev n m)
    (other : HasNumber majors cdev k l) : n = k ∧ m = l := by
  refine ⟨boardTypes_injective (number.type.symm.trans other.type), ?_⟩
  exact (number.minor small).2.symm.trans (other.minor small).2

theorem Valid.same_number {first second : Nat} {left right : XdmaCdev}
    (small : ∀ n, (majors n).toNat < 2 ^ 12) (valid : Valid majors state)
    (one : Live state.plugged.registry first left) (two : Live state.plugged.registry second right)
    (same : left.info.boardType = right.info.boardType)
    (minors : MINOR left.cdevno = MINOR right.cdevno) : first = second := by
  obtain ⟨n, m, number, _⟩ := valid.numbered first left one
  obtain ⟨k, l, other, _⟩ := valid.numbered second right two
  have types : n = k := boardTypes_injective (number.type.symm.trans (same.trans other.type))
  have values : m = l := by
    rw [← (number.minor small).2, ← (other.minor small).2, minors]
  subst types values
  exact valid.distinct first second left right n m one two number other

theorem Valid.numbersUnique (distinct : ∀ n k, majors n = majors k → n = k)
    (small : ∀ n, (majors n).toNat < 2 ^ 12) (valid : Valid majors state) :
    NumbersUnique state.plugged.registry := by
  refine ⟨?_, ?_, ?_⟩
  · intro first second left right one two apart same
    obtain ⟨n, m, number, _⟩ := valid.numbered first left one
    obtain ⟨k, l, other, _⟩ := valid.numbered second right two
    obtain ⟨major, minor⟩ := Prod.mk.inj same
    rw [(number.minor small).1, (other.minor small).1] at major
    have types : left.info.boardType = right.info.boardType := by
      rw [number.type, other.type, distinct n k major]
    exact apart (valid.same_number small one two types minor)
  · intro first second left right one two apart same
    obtain ⟨n, m, number, _⟩ := valid.numbered first left one
    obtain ⟨k, l, other, _⟩ := valid.numbered second right two
    rw [number.name, other.name] at same
    obtain ⟨place, minor⟩ := deviceFile_injective same
    have types : left.info.boardType = right.info.boardType := by
      rw [number.type, other.type, place]
    exact apart (valid.same_number small one two types minor)
  · intro xpdev cdev live
    obtain ⟨n, m, number, _⟩ := valid.numbered xpdev cdev live
    obtain ⟨major, minor⟩ := number.minor small
    refine ⟨n, number.type, ?_, ?_⟩
    · rw [valid.major, major]
    · rw [minor]
      exact number.low

/-! ## What each call preserves -/

/-- The live devices of `after` were live before, with the same number and name. -/
def Kept (registry after : Registry) : Prop :=
  ∀ xpdev cdev, Live after xpdev cdev → ∃ old, Live registry xpdev old ∧
    cdev.cdevno = old.cdevno ∧ cdev.info.boardType = old.info.boardType ∧
    cdev.info.deviceName = old.info.deviceName

theorem HasNumber.transfer {old cdev : XdmaCdev} {n : Fin boardTepeNum} {m : Nat}
    (number : HasNumber majors old n m)
    (same : cdev.cdevno = old.cdevno ∧ cdev.info.boardType = old.info.boardType ∧
      cdev.info.deviceName = old.info.deviceName) : HasNumber majors cdev n m := by
  obtain ⟨cdevno, type, name⟩ := same
  exact ⟨type.trans number.type, name.trans number.name, cdevno.trans number.number, number.low⟩

theorem Valid.kept (valid : Valid majors state) (kept : Kept state.plugged.registry next.plugged.registry)
    (major : next.plugged.registry.major = state.plugged.registry.major)
    (counters : next.plugged.registry.boardNameList = countedList next.begun)
    (more : ∀ type, state.begun.count type ≤ next.begun.count type)
    (listed : ∀ xpdev ∈ next.plugged.registry.pcieDeviceList,
      xpdev < next.plugged.registry.allocated) : Valid majors next := by
  refine ⟨major.trans valid.major, counters, listed, ?_, ?_⟩
  · intro xpdev cdev live
    obtain ⟨old, before, same⟩ := kept xpdev cdev live
    obtain ⟨n, m, number, low⟩ := valid.numbered xpdev old before
    exact ⟨n, m, number.transfer same, Nat.lt_of_lt_of_le low (more _)⟩
  · intro first second left right n m one two number other
    obtain ⟨older, before, cdevno, type, name⟩ := kept first left one
    obtain ⟨oldest, earlier, same⟩ := kept second right two
    obtain ⟨cdevno', type', name'⟩ := same
    exact valid.distinct first second older oldest n m before earlier
      (number.transfer ⟨cdevno.symm, type.symm, name.symm⟩)
      (other.transfer ⟨cdevno'.symm, type'.symm, name'.symm⟩)

theorem Kept.of_records (list : ∀ xpdev ∈ after.pcieDeviceList, xpdev ∈ registry.pcieDeviceList ∧
    after.xpdevs xpdev = registry.xpdevs xpdev) : Kept registry after := by
  rintro xpdev cdev ⟨member, record, held, rfl⟩
  obtain ⟨before, same⟩ := list xpdev member
  rw [same] at held
  exact ⟨record.ctrlCdev, ⟨before, record, held, rfl⟩, rfl, rfl, rfl⟩

/-! ## Probing -/

theorem CdevCreated.boardNameList
    (created : CdevCreated outcome readReg xpdev pdev registry rv after) :
    after.boardNameList = (getBoardInstance (readReg deviceBoardType) registry.boardNameList).2 := by
  cases created with
  | unknown | failed => rfl
  | created => exact createProcDevice_same.boardNameList

theorem CdevCreated.success (created : CdevCreated outcome readReg xpdev pdev registry rv after)
    (success : ¬ rv < 0) : ∃ name n, Known readReg registry name n ∧ outcome.Registers ∧
      after.xpdevs xpdev = some (cdevRecord readReg pdev n registry) := by
  cases created with
  | unknown => exact absurd (by decide) success
  | failed negative => exact absurd negative success
  | @created name n known registers =>
      refine ⟨name, n, known, registers, ?_⟩
      rw [createProcDevice_same.records]
      exact if_pos rfl

theorem Known.type {begun : List (BitVec 32)} {name : List Char} {n : Fin boardTepeNum}
    (known : Known readReg registry name n) (counters : registry.boardNameList = countedList begun) :
    readReg deviceBoardType = boardTypes n ∧ name = boardNames n := by
  obtain ⟨k, type, named⟩ := getBoardName_eq known.named
  have indexed := known.indexed
  simp only [counted, counters, getBoardInstance_list] at indexed
  rw [type, getMajorIdx_counted] at indexed
  have same : k = n := Fin.ext (Option.some.inj indexed)
  exact ⟨same ▸ type, same ▸ named⟩

/-- The device of a probe has the number that the probes before it leave to it. -/
theorem Known.hasNumber {begun : List (BitVec 32)} {name : List Char} {n : Fin boardTepeNum}
    (known : Known readReg registry name n) (counters : registry.boardNameList = countedList begun)
    (low : begun.count (readReg deviceBoardType) < 128) :
    HasNumber registry.major (cdevRecord readReg pdev n registry).ctrlCdev n
      (begun.count (readReg deviceBoardType)) := by
  obtain ⟨type, named⟩ := known.type counters
  refine ⟨type, ?_, ?_, low⟩
  · simp [cdevRecord, initDeviceInfo, known.named, named]
  · simp only [cdevRecord, counters, type, getBoardInstance_counted]

theorem Valid.unlisted (valid : Valid majors state) :
    state.plugged.registry.allocated ∉ state.plugged.registry.pcieDeviceList :=
  fun member => absurd (valid.listed _ member) (Nat.lt_irrefl _)

/-- A probe that creates no device keeps the others. -/
theorem Valid.refused (valid : Valid majors state)
    (begun : next.begun = readReg deviceBoardType :: state.begun)
    (created : CdevCreated outcome readReg state.plugged.registry.allocated pdev
      (allocate state.plugged.registry) rv after)
    (registry : next.plugged.registry = xpdevFree state.plugged.registry.allocated after) :
    Valid majors next := by
  have beside := created.beside
  have names : after.boardNameList = countedList next.begun := by
    rw [created.boardNameList, begun, ← getBoardInstance_list, ← valid.counters]
    rfl
  refine valid.kept ?_ ?_ ?_ ?_ ?_
  · rw [registry]
    refine Kept.of_records ?_
    intro other member
    change other ∈ after.pcieDeviceList at member
    rw [beside.list] at member
    have different : other ≠ state.plugged.registry.allocated := by
      rintro rfl
      exact valid.unlisted member
    refine ⟨member, ?_⟩
    change (if _ then _ else _) = _
    rw [if_neg different]
    exact beside.records other different
  · rw [registry]
    exact beside.major
  · rw [registry]
    exact names
  · intro type
    rw [begun]
    exact List.count_le_count_cons
  · intro other member
    rw [registry] at member ⊢
    change other ∈ after.pcieDeviceList at member
    rw [beside.list] at member
    have low := valid.listed other member
    change other < after.allocated
    rw [beside.allocated]
    exact Nat.lt_succ_of_lt low

/-- The devices that are live after a probe are its own and those from before. -/
theorem Valid.live_created {cdev : XdmaCdev} {record : XdmaPciDev} (valid : Valid majors state)
    (created : CdevCreated outcome readReg state.plugged.registry.allocated pdev
      (allocate state.plugged.registry) 0 after)
    (held : after.xpdevs state.plugged.registry.allocated = some record)
    (live : Live (listAdd state.plugged.registry.allocated after) xpdev cdev) :
    (xpdev = state.plugged.registry.allocated ∧ cdev = record.ctrlCdev) ∨
      Live state.plugged.registry xpdev cdev := by
  have beside := created.beside
  obtain ⟨member, found, there, rfl⟩ := live
  rcases List.mem_cons.mp member with rfl | member
  · left
    have same : some found = some record := there.symm.trans held
    exact ⟨rfl, by rw [Option.some.inj same]⟩
  · right
    rw [beside.list] at member
    have different : xpdev ≠ state.plugged.registry.allocated := by
      rintro rfl
      exact valid.unlisted member
    exact ⟨member, found, (beside.records xpdev different).symm.trans there, rfl⟩

/-- No live device has the number that the counter of its type says next. -/
theorem Valid.unnumbered {cdev : XdmaCdev} {n : Fin boardTepeNum}
    (small : ∀ n, (majors n).toNat < 2 ^ 12) (valid : Valid majors state)
    (live : Live state.plugged.registry xpdev cdev) :
    ¬ HasNumber majors cdev n (state.begun.count (boardTypes n)) := by
  intro number
  obtain ⟨place, value, given, earlier⟩ := valid.numbered xpdev cdev live
  obtain ⟨rfl, rfl⟩ := given.unique small number
  exact absurd earlier (Nat.lt_irrefl _)

/-- A probe that creates a device takes a number below 128 that no live device has. -/
theorem Valid.created (small : ∀ n, (majors n).toNat < 2 ^ 12) (valid : Valid majors state)
    (begun : next.begun = readReg deviceBoardType :: state.begun)
    (low : state.begun.count (readReg deviceBoardType) < 128)
    (created : CdevCreated outcome readReg state.plugged.registry.allocated pdev
      (allocate state.plugged.registry) 0 after)
    (registry : next.plugged.registry = listAdd state.plugged.registry.allocated after) :
    Valid majors next := by
  have beside := created.beside
  obtain ⟨name, n, known, _, record⟩ := created.success (by decide)
  have counters : (allocate state.plugged.registry).boardNameList = countedList state.begun :=
    valid.counters
  obtain ⟨type, _⟩ := known.type counters
  have number : HasNumber majors
      (cdevRecord readReg pdev n (allocate state.plugged.registry)).ctrlCdev n
      (state.begun.count (readReg deviceBoardType)) := by
    rw [← valid.major]
    exact known.hasNumber valid.counters low
  have live : ∀ xpdev cdev, Live next.plugged.registry xpdev cdev →
      (xpdev = state.plugged.registry.allocated ∧
        cdev = (cdevRecord readReg pdev n (allocate state.plugged.registry)).ctrlCdev) ∨
      Live state.plugged.registry xpdev cdev := by
    intro xpdev cdev there
    rw [registry] at there
    exact valid.live_created created record there
  have older : ∀ xpdev cdev k l, Live state.plugged.registry xpdev cdev →
      HasNumber majors (cdevRecord readReg pdev n (allocate state.plugged.registry)).ctrlCdev k l →
        ¬ HasNumber majors cdev k l := by
    intro xpdev cdev k l before new
    obtain ⟨rfl, rfl⟩ := new.unique small number
    rw [type]
    exact valid.unnumbered small before
  refine ⟨?_, ?_, ?_, ?_, ?_⟩
  · rw [registry]
    exact beside.major.trans valid.major
  · rw [registry]
    change after.boardNameList = _
    rw [created.boardNameList, begun, ← getBoardInstance_list, ← valid.counters]
    rfl
  · intro xpdev member
    rw [registry] at member ⊢
    change xpdev < after.allocated
    rw [beside.allocated]
    rcases List.mem_cons.mp member with rfl | member
    · exact Nat.lt_succ_self _
    · rw [beside.list] at member
      exact Nat.lt_succ_of_lt (valid.listed xpdev member)
  · intro xpdev cdev there
    rw [begun]
    rcases live xpdev cdev there with ⟨_, rfl⟩ | before
    · refine ⟨n, _, number, ?_⟩
      rw [← type, List.count_cons_self]
      exact Nat.lt_succ_self _
    · obtain ⟨k, l, old, earlier⟩ := valid.numbered xpdev cdev before
      exact ⟨k, l, old, Nat.lt_of_lt_of_le earlier List.count_le_count_cons⟩
  · intro first second left right k l one two number other
    rcases live first left one with ⟨rfl, rfl⟩ | before <;>
      rcases live second right two with ⟨rfl, rfl⟩ | earlier
    · rfl
    · exact absurd other (older second right k l earlier number)
    · exact absurd number (older first left k l before other)
    · exact valid.distinct first second left right k l before earlier number other

/-! ## The other calls -/

theorem Kept.remove {plugged : Plugged} :
    Kept plugged.registry (xdmaRemove pdev plugged).registry := by
  unfold xdmaRemove
  split
  · exact Kept.of_records fun _ member => ⟨member, rfl⟩
  · next removed data =>
      refine Kept.of_records ?_
      intro other member
      have clean := @vi53xxDevClean_beside plugged.registry removed
      obtain ⟨before, different⟩ := List.mem_filter.mp member
      have different : other ≠ removed := of_decide_eq_true different
      refine ⟨clean.list ▸ before, ?_⟩
      change (if _ then _ else _) = _
      rw [if_neg different]
      exact clean.records other different

theorem xdmaRemove_frame {plugged : Plugged} :
    (xdmaRemove pdev plugged).registry.major = plugged.registry.major ∧
      (xdmaRemove pdev plugged).registry.allocated = plugged.registry.allocated ∧
      (xdmaRemove pdev plugged).registry.boardNameList = plugged.registry.boardNameList ∧
      ∀ other ∈ (xdmaRemove pdev plugged).registry.pcieDeviceList,
        other ∈ plugged.registry.pcieDeviceList := by
  unfold xdmaRemove
  split
  · exact ⟨rfl, rfl, rfl, fun _ => id⟩
  · dsimp only [Plugged.devSetDrvdata, listDel, xpdevFree]
    unfold vi53xxDevClean
    split <;> exact ⟨rfl, rfl, rfl, fun _ => List.mem_of_mem_filter⟩

theorem Kept.blink {plugged : Plugged} {on : Bool} {record : XdmaPciDev}
    (held : plugged.registry.xpdevs xpdev = some record) :
    Kept plugged.registry (callBlinkControl on xpdev record plugged).registry := by
  unfold callBlinkControl
  split
  · exact Kept.of_records fun _ member => ⟨member, rfl⟩
  · rintro other cdev ⟨member, found, there, rfl⟩
    by_cases here : other = xpdev
    · subst here
      have same : some _ = some found := (if_pos rfl).symm.trans there
      cases same
      exact ⟨record.ctrlCdev, ⟨member, record, held, rfl⟩, rfl, rfl, rfl⟩
    · have same : plugged.registry.xpdevs other = some found := (if_neg here).symm.trans there
      exact ⟨found.ctrlCdev, ⟨member, found, same, rfl⟩, rfl, rfl, rfl⟩

theorem callBlinkControl_devices {plugged : Plugged} {on : Bool} {record : XdmaPciDev} :
    (callBlinkControl on xpdev record plugged).registry.major = plugged.registry.major ∧
      (callBlinkControl on xpdev record plugged).registry.allocated = plugged.registry.allocated ∧
      (callBlinkControl on xpdev record plugged).registry.boardNameList =
        plugged.registry.boardNameList ∧
      (callBlinkControl on xpdev record plugged).registry.pcieDeviceList =
        plugged.registry.pcieDeviceList := by
  unfold callBlinkControl
  split <;> exact ⟨rfl, rfl, rfl, rfl⟩

/-! ## Runs -/

theorem Valid.probing (small : ∀ n, (majors n).toNat < 2 ^ 12) (valid : Valid majors state)
    (unbound : state.plugged.drvdata pdev = none)
    (within : WithinRegion state (.probe outcome readReg pdev)) :
    Valid majors ⟨probe outcome readReg pdev state.plugged,
      begunAfter state.begun (.probe outcome readReg pdev)⟩ := by
  cases ran : xdmaProbe outcome readReg pdev state.plugged.registry with
  | mk rv after =>
      obtain ⟨registry, _, _, _⟩ := probe_eq ran
      cases xdmaProbe_probed ran with
      | noMemory failed =>
          have begun : begunAfter state.begun (.probe outcome readReg pdev) = state.begun := by
            simp [begunAfter, Asks, failed]
          refine valid.kept ?_ ?_ ?_ ?_ ?_
          all_goals simp only [registry, begun]
          · exact Kept.of_records fun _ member => ⟨member, rfl⟩
          · exact valid.counters
          · exact fun _ => Nat.le_refl _
          · exact valid.listed
      | unmapped allocated failed =>
          have begun : begunAfter state.begun (.probe outcome readReg pdev) = state.begun := by
            simp [begunAfter, Asks, failed]
          refine valid.kept ?_ ?_ ?_ ?_ ?_
          all_goals simp only [registry, begun]
          · refine Kept.of_records ?_
            intro other member
            have different : other ≠ state.plugged.registry.allocated := by
              rintro rfl
              exact valid.unlisted member
            exact ⟨member, if_neg different⟩
          · rfl
          · exact valid.counters
          · exact fun _ => Nat.le_refl _
          · exact fun other member => Nat.lt_succ_of_lt (valid.listed other member)
      | refused allocated mapped negative created =>
          have begun : begunAfter state.begun (.probe outcome readReg pdev) =
              readReg deviceBoardType :: state.begun := by
            simp [begunAfter, Asks, allocated, mapped]
          exact valid.refused begun created registry
      | probed allocated mapped created =>
          have begun : begunAfter state.begun (.probe outcome readReg pdev) =
              readReg deviceBoardType :: state.begun := by
            simp [begunAfter, Asks, allocated, mapped]
          obtain ⟨name, n, known, registers, _⟩ := created.success (by decide)
          have named : getBoardName (readReg deviceBoardType) ≠ none := by
            rw [known.named]
            exact Option.some_ne_none name
          have asks : Asks outcome = true := by simp [Asks, allocated, mapped]
          exact valid.created small begun (within unbound asks named registers) created registry

theorem Valid.step {call : PlugCall} (small : ∀ n, (majors n).toNat < 2 ^ 12)
    (valid : Valid majors state) (within : WithinRegion state call)
    (ran : numberingStep state call = some next) : Valid majors next := by
  obtain ⟨plugged, stepped, rfl⟩ := Option.map_eq_some_iff.mp ran
  cases call with
  | probe outcome readReg pdev =>
      simp only [plugStep] at stepped
      split at stepped
      · cases stepped
      · next free =>
          cases stepped
          have unbound := Option.not_isSome_iff_eq_none.mp free
          exact valid.probing small unbound within
  | remove pdev =>
      cases stepped
      obtain ⟨major, allocated, counters, list⟩ := @xdmaRemove_frame pdev state.plugged
      refine valid.kept Kept.remove major (counters.trans valid.counters) (fun _ => Nat.le_refl _) ?_
      intro other member
      rw [allocated]
      exact valid.listed other (list other member)
  | deviceWrite name on =>
      rcases deviceWrite_some stepped with rfl | ⟨xpdev, record, _, held, rfl⟩
      · exact valid
      · obtain ⟨major, allocated, counters, list⟩ :=
          @callBlinkControl_devices xpdev state.plugged on record
        refine valid.kept (Kept.blink held) major (counters.trans valid.counters)
          (fun _ => Nat.le_refl _) ?_
        rw [allocated, list]
        exact valid.listed
  | timerIsr xpdev =>
      simp only [plugStep, timerIsr] at stepped
      split at stepped
      · obtain ⟨_, _, rfl⟩ := Option.map_eq_some_iff.mp stepped
        exact valid
      · cases stepped

theorem CdevCreated.refused (created : CdevCreated outcome readReg xpdev pdev registry rv after)
    (negative : rv < 0) : (∀ name n, ¬ Known readReg registry name n) ∨ ¬ outcome.Registers := by
  cases created with
  | unknown unknown => exact .inl unknown
  | failed _ refused => exact .inr refused
  | created => exact absurd negative (Int.lt_irrefl 0)

/-- The 129th device of a type is outside the minors of its major. -/
theorem Valid.exceeded {plugged : Plugged} (small : ∀ n, (majors n).toNat < 2 ^ 12)
    (valid : Valid majors state) (asks : Asks outcome = true)
    (named : getBoardName (readReg deviceBoardType) ≠ none) (registers : outcome.Registers)
    (high : 128 ≤ state.begun.count (readReg deviceBoardType))
    (short : state.begun.count (readReg deviceBoardType) < 2 ^ 20)
    (result : plugged = probe outcome readReg pdev state.plugged) :
    ¬ NumbersUnique plugged.registry := by
  obtain ⟨allocates, maps⟩ := (Bool.and_eq_true _ _).mp asks
  cases ran : xdmaProbe outcome readReg pdev state.plugged.registry with
  | mk rv after =>
      obtain ⟨registry, _, _, _⟩ := probe_eq ran
      rw [← result] at registry
      cases xdmaProbe_probed ran with
      | noMemory failed => simp [failed] at allocates
      | unmapped _ failed => simp [failed] at maps
      | refused _ _ negative created =>
          rcases created.refused negative with unknown | refused
          · obtain ⟨name, some_name⟩ := Option.ne_none_iff_exists'.mp named
            obtain ⟨k, type, _⟩ := getBoardName_eq some_name
            refine absurd ⟨some_name, ?_⟩ (unknown name k)
            have counters : (allocate state.plugged.registry).boardNameList =
                countedList state.begun := valid.counters
            simp only [counted, counters, getBoardInstance_list]
            rw [type]
            exact getMajorIdx_counted k
          · exact absurd registers refused
      | @probed reached _ _ created =>
          intro unique
          obtain ⟨name, n, known, _, record⟩ := created.success (by decide)
          have counters : (allocate state.plugged.registry).boardNameList =
              countedList state.begun := valid.counters
          have live : Live plugged.registry state.plugged.registry.allocated
              (cdevRecord readReg pdev n (allocate state.plugged.registry)).ctrlCdev := by
            rw [registry]
            exact ⟨List.mem_cons_self, _, record, rfl⟩
          obtain ⟨_, _, _, low⟩ := unique.reserved _ _ live
          have number : (cdevRecord readReg pdev n (allocate state.plugged.registry)).ctrlCdev.cdevno =
              MKDEV (majors n) (BitVec.ofNat 32 (state.begun.count (readReg deviceBoardType))) := by
            obtain ⟨type, _⟩ := known.type counters
            rw [← valid.major]
            simp only [cdevRecord, counters, type, getBoardInstance_counted]
            rfl
          rw [number, MINOR_MKDEV (small n) short] at low
          omega

theorem Valid.exact {call : PlugCall} (distinct : ∀ n k, majors n = majors k → n = k)
    (small : ∀ n, (majors n).toNat < 2 ^ 12) (valid : Valid majors state)
    (short : state.begun.length < 2 ^ 20) (ran : numberingStep state call = some next) :
    (NumbersUnique next.plugged.registry ↔ WithinRegion state call) ∧
      (NumbersUnique next.plugged.registry → Valid majors next) := by
  have within : NumbersUnique next.plugged.registry → WithinRegion state call := by
    intro unique
    cases call with
    | probe outcome readReg pdev =>
        intro _ asks named registers
        by_contra high
        obtain ⟨plugged, stepped, rfl⟩ := Option.map_eq_some_iff.mp ran
        simp only [plugStep] at stepped
        split at stepped
        · cases stepped
        · have few := Nat.lt_of_le_of_lt (List.count_le_length (a := readReg deviceBoardType)) short
          exact valid.exceeded small asks named registers (Nat.not_lt.mp high) few
            (Option.some.inj stepped).symm unique
    | remove | deviceWrite | timerIsr => trivial
  refine ⟨⟨within, ?_⟩, fun unique => valid.step small (within unique) ran⟩
  intro guarded
  exact (valid.step small guarded ran).numbersUnique distinct small

theorem valid_start {outcome : ProcOutcome} : Valid majors (Numbering.start outcome majors) := by
  have same := @start_same outcome majors
  have unlisted : (Numbering.start outcome majors).plugged.registry.pcieDeviceList = [] := same.list
  refine ⟨same.major, same.boardNameList, ?_, ?_, ?_⟩
  · intro xpdev member
    rw [unlisted] at member
    cases member
  · rintro xpdev cdev ⟨member, _⟩
    rw [unlisted] at member
    cases member
  · rintro first second left right n m ⟨member, _⟩
    rw [unlisted] at member
    cases member

theorem begunAfter_length {begun : List (BitVec 32)} {call : PlugCall} :
    (begunAfter begun call).length ≤ begun.length + 1 := by
  cases call with
  | probe outcome readReg pdev =>
      cases asks : Asks outcome with
      | false => simp [begunAfter, asks]
      | true => simp [begunAfter, asks]
  | remove | deviceWrite | timerIsr => exact Nat.le_succ _

theorem begun_short {bound : Nat} {calls : List PlugCall}
    (fits : state.begun.length + calls.length ≤ bound) :
    EachStep numberingStep (fun state _ => state.begun.length < bound) state calls := by
  induction calls generalizing state with
  | nil => trivial
  | cons call rest ih =>
      rw [List.length_cons] at fits
      refine ⟨by omega, ?_⟩
      intro next ran
      obtain ⟨plugged, _, rfl⟩ := Option.map_eq_some_iff.mp ran
      have grown := @begunAfter_length state.begun call
      exact ih (by dsimp only; omega)

/-- Numbers and names stay unique and reserved when no device is created after 128
probes of its type have asked for a number. In runs short enough for the counters
not to leave the minor field, they do so only then. -/
theorem numbers_unique_iff {outcome : ProcOutcome} {calls : List PlugCall}
    (distinct : ∀ n k, majors n = majors k → n = k) (small : ∀ n, (majors n).toNat < 2 ^ 12) :
    (EachStep numberingStep WithinRegion (Numbering.start outcome majors) calls →
        Throughout numberingStep (fun state => NumbersUnique state.plugged.registry)
          (Numbering.start outcome majors) calls) ∧
      (calls.length ≤ 2 ^ 20 →
        (Throughout numberingStep (fun state => NumbersUnique state.plugged.registry)
            (Numbering.start outcome majors) calls ↔
          EachStep numberingStep WithinRegion (Numbering.start outcome majors) calls)) := by
  constructor
  · intro within
    have valid : Throughout numberingStep (Valid majors) (Numbering.start outcome majors) calls := by
      refine throughout_of_preserved ?_ valid_start within
      intro state call next valid within ran
      exact valid.step small within ran
    exact valid.mono fun reached valid => valid.numbersUnique distinct small
  · intro few
    have short : EachStep numberingStep (fun state _ => state.begun.length < 2 ^ 20)
        (Numbering.start outcome majors) calls :=
      begun_short (by simpa [Numbering.start] using few)
    refine throughout_iff_eachStep ?_ ?_ (@valid_start majors outcome)
      (valid_start.numbersUnique distinct small) short
    · intro state call next valid _ short ran
      exact valid.exact distinct small short ran
    · intro state call _ _ _ stuck
      cases call with
      | remove | deviceWrite | timerIsr => trivial
      | probe outcome readReg pdev =>
          intro unbound
          simp [numberingStep, plugStep, unbound] at stuck

/-! ## A type without numbers left -/

/-- A probe of the board that fails when its device is to be registered. -/
def refusedPlug : PlugCall :=
  .probe { ProbeOutcome.allOk with cdevAdd := -1 } es5341Turn.readReg es5341Turn.pdev

/-- After 128 probes that have failed, the only device has minor number 128. -/
theorem minor_outside_region :
    ∃ final, runFrom numberingStep (Numbering.start ⟨true, true, true⟩ givenMajors)
        (List.replicate 128 refusedPlug ++ [es5341Plug]) = some final ∧
      ¬ NumbersUnique final.plugged.registry := by
  have seen : (runFrom numberingStep (Numbering.start ⟨true, true, true⟩ givenMajors)
      (List.replicate 128 refusedPlug ++ [es5341Plug])).map (fun final =>
        (final.plugged.registry.pcieDeviceList, (final.plugged.registry.xpdevs 128).map fun record =>
          (MINOR record.ctrlCdev.cdevno).toNat)) = some ([128], some 128) := by decide +kernel
  obtain ⟨final, ran, observed⟩ := Option.map_eq_some_iff.mp seen
  obtain ⟨list, minor⟩ := Prod.mk.inj observed
  obtain ⟨record, held, minor⟩ := Option.map_eq_some_iff.mp minor
  refine ⟨final, ran, ?_⟩
  intro unique
  have live : Live final.plugged.registry 128 record.ctrlCdev :=
    ⟨by rw [list]; exact List.mem_singleton.mpr rfl, record, held, rfl⟩
  obtain ⟨_, _, _, low⟩ := unique.reserved 128 _ live
  omega

theorem givenMajors_distinct : ∀ n k, givenMajors n = givenMajors k → n = k := by decide

theorem givenMajors_small : ∀ n, (givenMajors n).toNat < 2 ^ 12 := by decide

theorem numbers_unique_iff_two :
    (EachStep numberingStep WithinRegion (Numbering.start ⟨true, true, true⟩ givenMajors)
        [refusedPlug, es5341Plug] →
      Throughout numberingStep (fun state => NumbersUnique state.plugged.registry)
        (Numbering.start ⟨true, true, true⟩ givenMajors) [refusedPlug, es5341Plug]) ∧
      ([refusedPlug, es5341Plug].length ≤ 2 ^ 20 →
        (Throughout numberingStep (fun state => NumbersUnique state.plugged.registry)
            (Numbering.start ⟨true, true, true⟩ givenMajors) [refusedPlug, es5341Plug] ↔
          EachStep numberingStep WithinRegion (Numbering.start ⟨true, true, true⟩ givenMajors)
            [refusedPlug, es5341Plug])) :=
  numbers_unique_iff givenMajors_distinct givenMajors_small

end Vi53xx.Driver
