import Vi53xx.Driver.CacheProperties
import Vi53xx.Driver.DeviceMap

/-! What the removal of a board frees: the buffers of its channels and their tables,
each block once and by the address it has been allocated with. -/

set_option autoImplicit false

namespace Vi53xx.Driver

open Foundation Foundation.Program

def XdmaCfgInfo.bufferAt (cfg : XdmaCfgInfo) (i : Fin maxDescNum) : Option Resource :=
  (cfg.pData i).map fun block => .dma block (cfg.dataPhyAddr i)

def XdmaCfgInfo.bufferBlocks (cfg : XdmaCfgInfo) : List Resource :=
  ((List.finRange maxDescNum).take cfg.sgDescNum.toNat).filterMap cfg.bufferAt

def XdmaCfgInfo.tableBlock (cfg : XdmaCfgInfo) : List Resource :=
  (cfg.pFirstDesc.map fun block => Resource.dma block cfg.firstDescPhyAddr).toList

/-- The DMA memory of a board, in the order in which it is freed. -/
def XdmaDev.memory (xdev : XdmaDev) : List Resource :=
  (xdev.cfg 1 0).bufferBlocks ++ (xdev.cfg 0 0).bufferBlocks ++ (xdev.cfg 1 1).bufferBlocks ++
    (xdev.cfg 0 1).bufferBlocks ++ (xdev.cfg 0 0).tableBlock ++ (xdev.cfg 1 0).tableBlock ++
    (xdev.cfg 0 1).tableBlock ++ (xdev.cfg 1 1).tableBlock

/-- Between the two states one channel has lost the given blocks and no table. -/
structure FreesBuffers (dir : Fin 2) (index : Fin xdmaChannelNum) (blocks : List Resource)
    (before after : Removal) : Prop where
  freed : freedBlocks after.calls = freedBlocks before.calls ++ blocks
  others : ∀ other place, ¬ (other = dir ∧ place = index) →
    after.xdev.cfg other place = before.xdev.cfg other place
  table : (after.xdev.cfg dir index).tableBlock = (before.xdev.cfg dir index).tableBlock

structure FreesTable (dir : Fin 2) (index : Fin xdmaChannelNum) (before after : Removal) : Prop where
  freed : freedBlocks after.calls =
    freedBlocks before.calls ++ (before.xdev.cfg dir index).tableBlock
  others : ∀ other place, ¬ (other = dir ∧ place = index) →
    after.xdev.cfg other place = before.xdev.cfg other place

variable {dir other : Fin 2} {index place : Fin xdmaChannelNum} {before middle after : Removal}
  {blocks later : List Resource} {block : Nat} {i : Fin maxDescNum}

theorem freedBlocks_append {calls rest : List MemoryCall} :
    freedBlocks (calls ++ rest) = freedBlocks calls ++ freedBlocks rest :=
  List.filterMap_append

theorem FreesBuffers.trans (first : FreesBuffers dir index blocks before middle)
    (second : FreesBuffers dir index later middle after) :
    FreesBuffers dir index (blocks ++ later) before after where
  freed := by rw [second.freed, first.freed, List.append_assoc]
  others := by
    intro other place apart
    rw [second.others other place apart, first.others other place apart]
  table := second.table.trans first.table

theorem FreesBuffers.tables (frees : FreesBuffers dir index blocks before after) :
    (after.xdev.cfg other place).tableBlock = (before.xdev.cfg other place).tableBlock := by
  by_cases own : other = dir ∧ place = index
  · obtain ⟨rfl, rfl⟩ := own
    exact frees.table
  · rw [frees.others other place own]

/-! ## Buffers -/

theorem restoreBuffer_frees (removal : Removal) :
    ∃ final, restoreBuffer dir index block removal = (.ok (), final) ∧
      final.xdev = removal.xdev ∧ freedBlocks final.calls = freedBlocks removal.calls := by
  unfold restoreBuffer
  rw [read_bind]
  split
  · refine ⟨_, rfl, rfl, ?_⟩
    rw [freedBlocks_append]
    exact List.append_nil _
  · exact ⟨removal, rfl, rfl, rfl⟩

/-- The turn for index `i` frees the buffer at `i`, and leaves those after it. -/
theorem freePdata_frees (removal : Removal) :
    ∃ final, freePdata dir index i.val removal = (.ok (), final) ∧
      FreesBuffers dir index ((removal.xdev.cfg dir index).bufferAt i).toList removal final ∧
      ∀ later, later ≠ i → (final.xdev.cfg dir index).bufferAt later =
        (removal.xdev.cfg dir index).bufferAt later := by
  unfold freePdata
  rw [read_bind, dif_pos i.isLt]
  dsimp only [Fin.eta]
  cases found : (removal.xdev.cfg dir index).pData i with
  | none =>
      refine ⟨removal, rfl, ⟨?_, fun _ _ _ => rfl, rfl⟩, fun _ _ => rfl⟩
      simp [XdmaCfgInfo.bufferAt, found]
  | some block =>
      obtain ⟨restored, ran, same, kept⟩ := @restoreBuffer_frees dir index block removal
      refine ⟨_, (bind_ok ran).trans rfl, ⟨?_, ?_, ?_⟩, ?_⟩
      · rw [freedBlocks_append, kept]
        simp [XdmaCfgInfo.bufferAt, found, freedBlocks, freedBlock, same]
      · intro other place apart
        rw [XdmaDev.cfg_setCfg, if_neg apart, same]
      · rw [XdmaDev.cfg_setCfg, if_pos ⟨rfl, rfl⟩, same]
        rfl
      · intro later different
        rw [XdmaDev.cfg_setCfg, if_pos ⟨rfl, rfl⟩, same]
        simp only [XdmaCfgInfo.bufferAt, XdmaCfgInfo.withoutPData, different, if_false]

theorem freePdataLoop_frees {remaining first : Nat} (removal : Removal)
    (bounded : first + remaining ≤ maxDescNum) :
    ∃ final, freePdataLoop dir index remaining first removal = (.ok (), final) ∧
      FreesBuffers dir index ((((List.finRange maxDescNum).drop first).take remaining).filterMap
        (removal.xdev.cfg dir index).bufferAt) removal final := by
  induction remaining generalizing first removal with
  | zero =>
      refine ⟨removal, rfl, ?_, fun _ _ _ => rfl, rfl⟩
      exact (List.append_nil _).symm
  | succ remaining ih =>
      have inside : first < maxDescNum := by omega
      obtain ⟨middle, turned, frees, kept⟩ := @freePdata_frees dir index ⟨first, inside⟩ removal
      obtain ⟨final, looped, rest⟩ := @ih (first + 1) middle (by omega)
      refine ⟨final, (bind_ok turned).trans looped, ?_⟩
      have head : (List.finRange maxDescNum).drop first =
          ⟨first, inside⟩ :: (List.finRange maxDescNum).drop (first + 1) := by
        have inList : first < (List.finRange maxDescNum).length := by rwa [List.length_finRange]
        have listed := List.drop_eq_getElem_cons inList
        rwa [List.getElem_finRange] at listed
      have apart : ∀ later ∈ ((List.finRange maxDescNum).drop (first + 1)).take remaining,
          later ≠ ⟨first, inside⟩ := by
        intro later member
        obtain ⟨place, below, found⟩ := List.mem_iff_getElem.mp (List.mem_of_mem_take member)
        rw [List.getElem_drop, List.getElem_finRange] at found
        have value := congrArg Fin.val found
        rintro rfl
        simp only [Fin.val_cast] at value
        omega
      have same := List.filterMap_congr fun later member => kept later (apart later member)
      rw [same] at rest
      have both := frees.trans rest
      rw [head, List.take_succ_cons, List.filterMap_cons]
      cases found : (removal.xdev.cfg dir index).bufferAt ⟨first, inside⟩ with
      | none | some freed => simpa [found] using both

/-- The two loops over the buffers are one, up to the direction. -/
theorem freeBuffers_frees (removal : Removal)
    (bounded : (removal.xdev.cfg dir index).sgDescNum.toNat ≤ maxDescNum) :
    ∃ final, freePdataLoop dir index (removal.xdev.cfg dir index).sgDescNum.toNat 0 removal =
        (.ok (), final) ∧
      FreesBuffers dir index (removal.xdev.cfg dir index).bufferBlocks removal final :=
  freePdataLoop_frees removal (by rwa [Nat.zero_add])

theorem freeChannelBuffers_frees (removal : Removal)
    (bounded : ∀ dir, (removal.xdev.cfg dir index).sgDescNum.toNat ≤ maxDescNum) :
    ∃ middle final, freeChannelBuffers index removal = (.ok (), final) ∧
      FreesBuffers 1 index (removal.xdev.cfg 1 index).bufferBlocks removal middle ∧
      FreesBuffers 0 index (removal.xdev.cfg 0 index).bufferBlocks middle final := by
  obtain ⟨middle, freedC2h, c2h⟩ := freeBuffers_frees removal (bounded 1)
  have same : middle.xdev.cfg 0 index = removal.xdev.cfg 0 index := c2h.others 0 index (by simp)
  obtain ⟨final, freedH2c, h2c⟩ := @freeBuffers_frees 0 index middle
    (by rw [same]; exact bounded 0)
  rw [same] at h2c
  exact ⟨middle, final, (bind_ok freedC2h).trans freedH2c, c2h, h2c⟩

/-! ## Tables -/

theorem freeDesc_frees (removal : Removal) :
    ∃ final, freeDesc dir index removal = (.ok (), final) ∧ FreesTable dir index removal final := by
  unfold freeDesc
  rw [read_bind]
  dsimp only [id_eq]
  cases found : (removal.xdev.cfg dir index).pFirstDesc with
  | none =>
      refine ⟨removal, rfl, ?_, fun _ _ _ => rfl⟩
      simp [XdmaCfgInfo.tableBlock, found]
  | some block =>
      refine ⟨_, rfl, ?_, ?_⟩
      · rw [freedBlocks_append]
        simp [XdmaCfgInfo.tableBlock, found, freedBlocks, freedBlock]
      · intro other place apart
        rw [XdmaDev.cfg_setCfg, if_neg apart]

/-! ## The whole removal -/

theorem freeMemory_frees (removal : Removal)
    (bounded : ∀ dir index, (removal.xdev.cfg dir index).sgDescNum.toNat ≤ maxDescNum) :
    ∃ final, freeMemory removal = (.ok (), final) ∧
      freedBlocks final.calls = freedBlocks removal.calls ++ removal.xdev.memory := by
  obtain ⟨first, second, freedFirst, c2hFirst, h2cFirst⟩ :=
    freeChannelBuffers_frees removal fun dir => bounded dir 0
  have untouched : ∀ dir, second.xdev.cfg dir 1 = removal.xdev.cfg dir 1 := by
    intro dir
    rw [h2cFirst.others dir 1 (by simp), c2hFirst.others dir 1 (by simp)]
  obtain ⟨third, fourth, freedSecond, c2hSecond, h2cSecond⟩ :=
    @freeChannelBuffers_frees 1 second fun dir => by
      rw [untouched]
      exact bounded dir 1
  rw [untouched] at c2hSecond h2cSecond
  have tables : ∀ other place, (fourth.xdev.cfg other place).tableBlock =
      (removal.xdev.cfg other place).tableBlock := by
    intro other place
    rw [h2cSecond.tables, c2hSecond.tables, h2cFirst.tables, c2hFirst.tables]
  obtain ⟨fifth, freedFifth, one⟩ := @freeDesc_frees 0 0 fourth
  obtain ⟨sixth, freedSixth, two⟩ := @freeDesc_frees 1 0 fifth
  obtain ⟨seventh, freedSeventh, three⟩ := @freeDesc_frees 0 1 sixth
  obtain ⟨final, freedLast, four⟩ := @freeDesc_frees 1 1 seventh
  have buffers : xdmaFreePciBusAddr removal = (.ok (), fourth) :=
    (bind_ok freedFirst).trans freedSecond
  have descs : xdmaFreeDesc fourth = (.ok (), final) :=
    (bind_ok freedFifth).trans ((bind_ok freedSixth).trans ((bind_ok freedSeventh).trans freedLast))
  refine ⟨final, (bind_ok buffers).trans descs, ?_⟩
  rw [four.freed, three.freed, two.freed, one.freed]
  rw [three.others 1 1 (by decide), two.others 1 1 (by decide), one.others 1 1 (by decide)]
  rw [two.others 0 1 (by decide), one.others 0 1 (by decide), one.others 1 0 (by decide)]
  rw [tables, tables, tables, tables]
  rw [h2cSecond.freed, c2hSecond.freed, h2cFirst.freed, c2hFirst.freed]
  simp only [XdmaDev.memory, List.append_assoc]

/-- A removal frees the memory of the board, and nothing else. -/
theorem xdmaFreeResource_frees {state : Kernel} {xdev : XdmaDev}
    (bounded : ∀ dir index, (xdev.cfg dir index).sgDescNum.toNat ≤ maxDescNum) :
    ∃ calls, xdmaFreeResource state (some xdev) = .ok calls ∧ freedBlocks calls = xdev.memory := by
  obtain ⟨final, ran, freed⟩ := freeMemory_frees ⟨state.fmap xdev.idx, xdev, []⟩ bounded
  refine ⟨final.calls, ?_, freed⟩
  simp only [xdmaFreeResource, ran]

end Vi53xx.Driver
