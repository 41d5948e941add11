import Vi53xx.Lib.IndexRecords
import Mathlib.Order.Bounds.Basic

/-! The bytes of `id_bitmap` as a set of ids, with `get_unique_id` and `destroy_id`
as its only operations. -/

set_option autoImplicit false

namespace Vi53xx.Lib

open Foundation

inductive IdCall where
  | getUniqueId
  | destroyId (id : Int)
  deriving DecidableEq, Repr

abbrev IdBitmap := Fin bitmapSize → BitVec 8

/-- What the call returns, if it returns anything. -/
def idAnswer (bitmap : IdBitmap) : IdCall → Option Int
  | .getUniqueId => some (getUniqueId bitmap).1
  | .destroyId _ => none

def idAfter (bitmap : IdBitmap) : IdCall → IdBitmap
  | .getUniqueId => (getUniqueId bitmap).2
  | .destroyId id => destroyId id bitmap

def idStep (bitmap : IdBitmap) (call : IdCall) : Option IdBitmap := some (idAfter bitmap call)

/-- The ids that are in use. -/
def idSet (bitmap : IdBitmap) : Finset (Fin maxDevHandle) :=
  Finset.univ.filter fun id => idBit bitmap id = true

/-- What a call is for: it grants the least id that is not in use, reports that all of
them are, or returns an id. -/
inductive IdSpec (used : Finset (Fin maxDevHandle)) :
    IdCall → Option Int → Finset (Fin maxDevHandle) → Prop where
  | granted {id : Fin maxDevHandle} (least : IsLeast {free | free ∉ used} id) :
      IdSpec used .getUniqueId (some id.val) (insert id used)
  | exhausted {answer : Int} (full : ∀ id, id ∈ used)
      (reported : ∀ holder ∈ used, answer ≠ holder.val) :
      IdSpec used .getUniqueId (some answer) used
  | destroyed {id : Fin maxDevHandle} : IdSpec used (.destroyId id.val) none (used.erase id)
  | ignored {id : Int} (outside : id < 0 ∨ maxDevHandle ≤ id) :
      IdSpec used (.destroyId id) none used

def MeetsSpec (bitmap : IdBitmap) (call : IdCall) : Prop :=
  IdSpec (idSet bitmap) call (idAnswer bitmap call) (idSet (idAfter bitmap call))

/-- The call is no `get_unique_id` on a bitmap without a clear bit. -/
def FindsFree (bitmap : IdBitmap) (call : IdCall) : Prop :=
  call = .getUniqueId → ∃ id, idBit bitmap id = false

variable {bitmap after : IdBitmap} {id : Fin maxDevHandle} {call : IdCall} {calls : List IdCall}

@[simp] theorem mem_idSet : id ∈ idSet bitmap ↔ idBit bitmap id = true := by simp [idSet]

theorem not_mem_idSet : id ∉ idSet bitmap ↔ idBit bitmap id = false := by simp

theorem idSet_destroyId : idSet (destroyId id.val bitmap) = (idSet bitmap).erase id := by
  ext other
  have place : (other.val : Int) = id.val ↔ other = id := by rw [Int.natCast_inj, Fin.val_inj]
  rw [mem_idSet, idBit_destroyId, Finset.mem_erase, mem_idSet]
  simp [place, and_comm]

theorem destroyId_outside {index : Int} (outside : index < 0 ∨ maxDevHandle ≤ index) :
    destroyId index bitmap = bitmap := by
  refine if_neg ?_
  intro inside
  omega

theorem meetsSpec_destroyId (index : Int) : MeetsSpec bitmap (.destroyId index) := by
  by_cases inside : 0 ≤ index ∧ index < maxDevHandle
  · obtain ⟨id, rfl⟩ : ∃ id : Fin maxDevHandle, index = id.val :=
      ⟨⟨index.toNat, by omega⟩, by simp [inside.1]⟩
    have erased : idSet (idAfter bitmap (.destroyId id.val)) = (idSet bitmap).erase id :=
      idSet_destroyId
    rw [MeetsSpec, erased]
    exact .destroyed
  · have outside : index < 0 ∨ maxDevHandle ≤ index := by omega
    have same : idAfter bitmap (.destroyId index) = bitmap := destroyId_outside outside
    rw [MeetsSpec, same]
    exact .ignored outside

/-- A bitmap with a clear bit grants the least id that is not in use. -/
theorem meetsSpec_of_free (free : ∃ id, idBit bitmap id = false) :
    MeetsSpec bitmap .getUniqueId := by
  obtain ⟨unused, unset⟩ := free
  have taken : Taken bitmap _ _ := getUniqueId_taken
  unfold MeetsSpec idAnswer idAfter
  generalize getUniqueId bitmap = outcome at taken
  obtain ⟨answer, after⟩ := outcome
  cases taken with
  | none full => simp [full unused] at unset
  | @first id _ clear before set =>
      have grown : idSet after = insert id (idSet bitmap) := by
        ext other
        simp [set other, or_comm]
      have least : IsLeast {free | free ∉ idSet bitmap} id := by
        refine ⟨not_mem_idSet.mpr clear, ?_⟩
        intro other absent
        by_contra below
        exact absent (mem_idSet.mpr (before other (not_le.mp below)))
      rw [grown]
      exact .granted least

theorem IdSpec.reported {used later : Finset (Fin maxDevHandle)} {answer : Int}
    (spec : IdSpec used .getUniqueId (some answer) later) (full : ∀ id, id ∈ used) :
    ∀ holder ∈ used, answer ≠ holder.val := by
  cases spec with
  | granted least => exact absurd (full _) least.1
  | exhausted _ reported => exact reported

/-- A bitmap without a clear bit answers with id 0, which is in use. -/
theorem not_meetsSpec_of_full (full : ∀ id, idBit bitmap id = true) :
    ¬ MeetsSpec bitmap .getUniqueId := by
  have taken : Taken bitmap _ _ := getUniqueId_taken
  unfold MeetsSpec idAnswer idAfter
  generalize getUniqueId bitmap = outcome at taken
  obtain ⟨answer, after⟩ := outcome
  intro spec
  cases taken with
  | first clear => simp [full] at clear
  | none =>
      have everyone : ∀ id, id ∈ idSet bitmap := fun id => mem_idSet.mpr (full id)
      exact spec.reported everyone 0 (everyone 0) rfl

theorem meetsSpec_iff : MeetsSpec bitmap call ↔ FindsFree bitmap call := by
  cases call with
  | destroyId index => exact iff_of_true (meetsSpec_destroyId index) nofun
  | getUniqueId =>
      constructor
      · intro spec _
        by_contra none
        refine not_meetsSpec_of_full ?_ spec
        intro id
        simpa using not_exists.mp none id
      · intro free
        exact meetsSpec_of_free (free rfl)

/-- From any content of the bitmap, the calls of a run are those of the set exactly as
long as none asks a full set for an id. -/
theorem id_bitmap_refines_iff :
    EachStep idStep MeetsSpec bitmap calls ↔ EachStep idStep FindsFree bitmap calls :=
  ⟨EachStep.mono fun _ _ => meetsSpec_iff.mp, EachStep.mono fun _ _ => meetsSpec_iff.mpr⟩

/-- The 129th id is id 0 once more. -/
theorem full_bitmap_grants_zero :
    ¬ EachStep idStep MeetsSpec (fun _ => 255) [.getUniqueId] := by
  intro each
  refine not_meetsSpec_of_full ?_ each.1
  decide

end Vi53xx.Lib
