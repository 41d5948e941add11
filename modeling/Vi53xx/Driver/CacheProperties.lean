import Vi53xx.Driver.MmapProperties
import Vi53xx.Foundation.Runs
import Mathlib.Data.List.Induction

/-! The cache attributes of the channel buffers. `mmap` marks a channel under its
number and removal looks it up under its index, so that no buffer that has been
made uncached is made cacheable again but the second one from the card, and that
one when the first has been mapped. -/

set_option autoImplicit false

namespace Vi53xx.Driver

open Foundation Foundation.Program

/-- What a client asks for before it maps a channel: the setting that names it. -/
structure ChannelMapping where
  dir : Fin 2
  index : Fin xdmaChannelNum
  info : XdmaInfo
  names : Names info dir index

/-- A channel is set and then mapped, and the mapping succeeds. -/
def mapChannel (xdev : XdmaDev) (mapping : ChannelMapping) : KernelM Int := do
  let _ ← vi53xxIoctl xdev (rtpcIoctlXdma .setting) mapping.info .complete
  vi53xxXdmaMmap xdev 0

def mapStep (xdev : XdmaDev) (state : Kernel) (mapping : ChannelMapping) : Option Kernel :=
  match mapChannel xdev mapping state with
  | (.ok _, next) => some next
  | (.error _, _) => none

/-- The buffers that a log makes uncached, one entry for each call, the last first. -/
def uncachedBuffers (trace : List Access) : List Nat :=
  trace.filterMap fun access =>
    match access with
    | .setMemoryUc pData => pData
    | _ => none

/-- The buffer is made cacheable before it is freed. -/
def MadeCacheable (block : Nat) (calls : List MemoryCall) : Prop :=
  ∃ earlier size phys later numPages,
    calls = earlier ++ .dmaFreeCoherent size block phys :: later ∧
      .setMemoryWb block numPages ∈ earlier

/-- What the removal of a board owes its buffers after all that `state` has logged. -/
structure Restores (xdev : XdmaDev) (state : Kernel) (calls : List MemoryCall) : Prop where
  exact : ∀ dir index block, xdev.buffer dir index = some block →
    (MadeCacheable block calls ↔ block ∈ uncachedBuffers state.trace)
  once : (uncachedBuffers state.trace).Nodup

variable {xdev : XdmaDev} {state : Kernel} {dir : Fin 2} {index : Fin xdmaChannelNum}
  {block : Nat} {flags : Fin 2 → Fin 4 → Bool} {removal : Removal}

/-! ## Removal -/

@[simp] theorem XdmaDev.cfg_setCfg {cfg : XdmaCfgInfo} {other : Fin 2} {place : Fin xdmaChannelNum} :
    (xdev.setCfg dir index cfg).cfg other place =
      if other = dir ∧ place = index then cfg else xdev.cfg other place := by
  unfold XdmaDev.setCfg XdmaDev.cfg
  match dir, other with
  | 0, 0 => simp
  | 0, 1 => simp
  | 1, 0 => simp
  | 1, 1 => simp

/-- The buffer of a descriptor of a channel whose flag is found under its index. -/
def Flagged (flags : Fin 2 → Fin 4 → Bool) (xdev : XdmaDev) (block : Nat) : Prop :=
  ∃ (dir : Fin 2) (index : Fin xdmaChannelNum) (i : Fin maxDescNum),
    flags dir (index.castLE channelNum_le) = true ∧
      i.val < (xdev.cfg dir index).sgDescNum.toNat ∧ (xdev.cfg dir index).pData i = some block

/-- What holds while the memory of a device is freed. -/
structure Freeing (flags : Fin 2 → Fin 4 → Bool) (xdev : XdmaDev) (removal : Removal) : Prop where
  fmap : removal.fmap = flags
  sgDescNum : ∀ dir index,
    (removal.xdev.cfg dir index).sgDescNum = (xdev.cfg dir index).sgDescNum
  pData : ∀ dir index i block, (removal.xdev.cfg dir index).pData i = some block →
    (xdev.cfg dir index).pData i = some block
  restored : ∀ block numPages, .setMemoryWb block numPages ∈ removal.calls → Flagged flags xdev block

theorem memoryCall_free {size phys : BitVec 64} :
    Ensures (Freeing flags xdev) (memoryCall (.dmaFreeCoherent size block phys))
      fun _ => Freeing flags xdev := by
  refine ensures_change ?_
  intro removal freeing
  refine { freeing with restored := ?_ }
  intro other numPages member
  exact freeing.restored other numPages (by simpa using member)

theorem restoreBuffer_ensures {i : Fin maxDescNum}
    (due : i.val < (xdev.cfg dir index).sgDescNum.toNat)
    (own : (xdev.cfg dir index).pData i = some block) :
    Ensures (Freeing flags xdev) (restoreBuffer dir index block) fun _ => Freeing flags xdev := by
  refine Ensures.read ?_
  intro removal
  split
  · next flagged =>
      refine ensures_change ?_
      intro removal held
      obtain ⟨freeing, rfl⟩ := held
      refine { freeing with restored := ?_ }
      intro other numPages member
      rcases List.mem_append.mp member with earlier | now
      · exact freeing.restored other numPages earlier
      · cases List.mem_singleton.mp now
        rw [← freeing.fmap]
        exact ⟨dir, index, i, flagged, due, own⟩
  · exact ensures_pure fun _ freeing => freeing.1

theorem Freeing.setCfg {cfg : XdmaCfgInfo} (freeing : Freeing flags xdev removal)
    (same : cfg.sgDescNum = (removal.xdev.cfg dir index).sgDescNum)
    (fewer : ∀ i block, cfg.pData i = some block →
      (removal.xdev.cfg dir index).pData i = some block) :
    Freeing flags xdev { removal with xdev := removal.xdev.setCfg dir index cfg } where
  fmap := freeing.fmap
  sgDescNum := by
    intro other place
    rw [XdmaDev.cfg_setCfg]
    split
    · next here =>
        obtain ⟨rfl, rfl⟩ := here
        exact same.trans (freeing.sgDescNum other place)
    · exact freeing.sgDescNum other place
  pData := by
    intro other place i block
    rw [XdmaDev.cfg_setCfg]
    split
    · next here =>
        obtain ⟨rfl, rfl⟩ := here
        exact fun left => freeing.pData other place i block (fewer i block left)
    · exact freeing.pData other place i block
  restored := freeing.restored

theorem freeBuffer_ensures {i : Fin maxDescNum}
    (due : i.val < (xdev.cfg dir index).sgDescNum.toNat)
    (own : (xdev.cfg dir index).pData i = some block) :
    Ensures (Freeing flags xdev) (freeBuffer dir index i block) fun _ => Freeing flags xdev := by
  refine (restoreBuffer_ensures due own).bind ?_
  intro _
  refine Ensures.read ?_
  intro cfg
  refine (memoryCall_free.imp fun _ freeing => freeing.1).bind ?_
  intro _
  refine ensures_change ?_
  intro removal freeing
  refine freeing.setCfg rfl ?_
  intro other block left
  simp only [XdmaCfgInfo.withoutPData] at left
  split at left
  · cases left
  · exact left

theorem freePdata_ensures {i : Nat} (bounded : (xdev.cfg dir index).sgDescNum.toNat ≤ maxDescNum)
    (due : i < (xdev.cfg dir index).sgDescNum.toNat) :
    Ensures (Freeing flags xdev) (freePdata dir index i) fun _ => Freeing flags xdev := by
  refine Ensures.read ?_
  intro cfg
  rw [dif_pos (Nat.lt_of_lt_of_le due bounded)]
  split
  · next block found =>
      intro removal held
      obtain ⟨freeing, rfl⟩ := held
      exact freeBuffer_ensures due (freeing.pData dir index _ block found) removal freeing
  · exact ensures_pure fun _ freeing => freeing.1

/-- The loop stays inside the table, as no channel has more descriptors than entries. -/
theorem freePdataLoop_ensures {remaining i : Nat}
    (bounded : (xdev.cfg dir index).sgDescNum.toNat ≤ maxDescNum)
    (turns : i + remaining ≤ (xdev.cfg dir index).sgDescNum.toNat) :
    Ensures (Freeing flags xdev) (freePdataLoop dir index remaining i)
      fun _ => Freeing flags xdev := by
  induction remaining generalizing i with
  | zero => exact ensures_pure fun _ freeing => freeing
  | succ remaining ih =>
      have due : i < (xdev.cfg dir index).sgDescNum.toNat := by omega
      refine (freePdata_ensures bounded due).bind ?_
      exact fun _ => ih (by omega)

theorem freeChannelBuffers_ensures
    (bounded : ∀ dir, (xdev.cfg dir index).sgDescNum.toNat ≤ maxDescNum) :
    Ensures (Freeing flags xdev) (freeChannelBuffers index) fun _ => Freeing flags xdev := by
  have freed : ∀ dir count, Ensures (fun removal : Removal => Freeing flags xdev removal ∧
      (removal.xdev.cfg dir index).sgDescNum.toNat = count)
      (freePdataLoop dir index count 0) fun _ => Freeing flags xdev := by
    intro dir count removal held
    obtain ⟨freeing, rfl⟩ := held
    refine freePdataLoop_ensures (bounded dir) ?_ removal freeing
    rw [freeing.sgDescNum, Nat.zero_add]
  refine Ensures.read ?_
  intro c2hNum
  refine (freed 1 c2hNum).bind ?_
  intro _
  exact Ensures.read fun h2cNum => freed 0 h2cNum

theorem freeDesc_ensures :
    Ensures (Freeing flags xdev) (freeDesc dir index) fun _ => Freeing flags xdev := by
  refine Ensures.read ?_
  intro seen
  dsimp only
  split
  · refine (memoryCall_free.imp fun _ freeing => freeing.1).bind ?_
    intro _
    refine ensures_change ?_
    exact fun removal freeing => freeing.setCfg rfl fun _ _ left => left
  · exact ensures_pure fun _ freeing => freeing.1

theorem freeMemory_ensures
    (bounded : ∀ dir index, (xdev.cfg dir index).sgDescNum.toNat ≤ maxDescNum) :
    Ensures (Freeing flags xdev) freeMemory fun _ => Freeing flags xdev := by
  have buffers : Ensures (Freeing flags xdev) xdmaFreePciBusAddr fun _ => Freeing flags xdev := by
    refine (freeChannelBuffers_ensures fun dir => bounded dir 0).bind ?_
    exact fun _ => freeChannelBuffers_ensures fun dir => bounded dir 1
  refine buffers.bind fun _ => ?_
  refine freeDesc_ensures.bind fun _ => ?_
  refine freeDesc_ensures.bind fun _ => ?_
  exact freeDesc_ensures.bind fun _ => freeDesc_ensures

variable {answers : Nat → Option (BitVec 64)} {attempt idx : Nat}
  {bars : Fin xdmaBarNum → Option Nat}

theorem Ready.sgDescNum_le (ready : Ready answers attempt idx bars xdev) :
    (xdev.cfg dir index).sgDescNum.toNat ≤ 1 := by
  have single : descNum.toNat ≤ 1 := by decide
  match dir, index with
  | 0, 0 => exact ready.firstH2c.sgDescNum ▸ single
  | 1, 0 => exact ready.firstC2h.sgDescNum ▸ single
  | 1, 1 => exact ready.secondC2h.sgDescNum ▸ single
  | 0, 1 =>
      have unset : xdev.cfg 0 1 = unset 0 1 := ready.secondH2c
      rw [unset]
      decide

/-- The removal of a probed board completes. It makes no buffer cacheable but one
whose flag is set where the loop index finds it. -/
theorem Ready.freed (ready : Ready answers attempt idx bars xdev) (state : Kernel) :
    ∃ calls, xdmaFreeResource state (some xdev) = .ok calls ∧
      ∀ block numPages, .setMemoryWb block numPages ∈ calls →
        ∃ (dir : Fin 2) (index : Fin xdmaChannelNum),
          state.fmap idx dir (index.castLE (by decide)) = true ∧
            xdev.buffer dir index = some block := by
  have start : Freeing (state.fmap xdev.idx) xdev ⟨state.fmap xdev.idx, xdev, []⟩ :=
    ⟨rfl, fun _ _ => rfl, fun _ _ _ _ left => left, by simp⟩
  obtain ⟨_, final, ran, freeing⟩ :=
    @freeMemory_ensures xdev (state.fmap xdev.idx)
      (fun dir index => Nat.le_trans ready.sgDescNum_le (by decide)) _ start
  refine ⟨final.calls, ?_, ?_⟩
  · simp only [xdmaFreeResource, ran]
  · intro block numPages member
    obtain ⟨dir, index, i, flagged, due, own⟩ := freeing.restored block numPages member
    refine ⟨dir, index, ready.idx ▸ flagged, ?_⟩
    have first : i = 0 := by
      have few := @Ready.sgDescNum_le xdev dir index answers attempt idx bars ready
      exact Fin.ext (by simp only [Fin.val_zero]; omega)
    rw [first] at own
    exact own

/-! ## Mappings -/

variable {mapping : ChannelMapping} {mappings done : List ChannelMapping} {calls : List MemoryCall}

theorem mapStep_mapped (ready : Ready answers attempt idx bars xdev) :
    mapStep xdev state mapping =
      some (({ state with xdmaSetting := mapping.info } : Kernel).mapped xdev mapping.dir
        mapping.index) := by
  have set : vi53xxIoctl xdev (rtpcIoctlXdma .setting) mapping.info .complete state =
      (.ok 0, { state with xdmaSetting := mapping.info }) :=
    congrFun (answer_ioctl rfl) state
  unfold mapStep mapChannel
  rw [bind_ok set, vi53xxXdmaMmap_mapped ready mapping.names]

/-- Where a run of mappings leaves the flags and the log. -/
structure Uncached (xdev : XdmaDev) (done : List ChannelMapping) (state : Kernel) : Prop where
  fmap : ∀ dir channel, state.fmap xdev.idx dir channel = true ↔
    ∃ mapping ∈ done, mapping.dir = dir ∧ mapFlag mapping.index = channel
  nodup : (uncachedBuffers state.trace).Nodup
  members : ∀ block, block ∈ uncachedBuffers state.trace ↔
    ∃ mapping ∈ done, xdev.buffer mapping.dir mapping.index = some block

theorem mapFlag_inj {index place : Fin xdmaChannelNum} (same : mapFlag index = mapFlag place) :
    index = place :=
  Fin.ext (Nat.succ.inj (Fin.val_eq_of_eq same))

theorem mapped_fmap {one : Fin 2} {channel : Fin 4} :
    (state.mapped xdev dir index).fmap xdev.idx one channel = true ↔
      state.fmap xdev.idx one channel = true ∨ (dir = one ∧ mapFlag index = channel) := by
  unfold Kernel.mapped Kernel.uncached
  split
  · next flagged =>
      refine ⟨.inl, ?_⟩
      intro set
      rcases set with earlier | ⟨rfl, rfl⟩
      · exact earlier
      · exact flagged
  · simp only [Kernel.marked, Kernel.logged_fmap, true_and]
    split
    · next here =>
        obtain ⟨rfl, rfl⟩ := here
        simp
    · next elsewhere =>
        refine ⟨.inl, ?_⟩
        intro set
        rcases set with earlier | ⟨rfl, rfl⟩
        · exact earlier
        · exact absurd ⟨rfl, rfl⟩ elsewhere

theorem mapped_uncached (buffer : xdev.buffer dir index = some block) :
    uncachedBuffers (state.mapped xdev dir index).trace =
      if state.fmap xdev.idx dir (mapFlag index) then uncachedBuffers state.trace
      else block :: uncachedBuffers state.trace := by
  have table : ∀ place trace, uncachedBuffers (tableAccess dir place :: trace) =
      uncachedBuffers trace := by
    intro place trace
    unfold tableAccess
    split
    · rfl
    · rfl
  have mapping : ∀ pData trace, uncachedBuffers (.dmaCommonMmap pData :: trace) =
      uncachedBuffers trace := fun _ _ => rfl
  by_cases flagged : state.fmap xdev.idx dir (mapFlag index) = true
  · simp [Kernel.mapped, flagged, mapping, table]
  · simp only [Kernel.mapped, Kernel.logged_trace, Kernel.uncached_trace, Kernel.logged_fmap, flagged,
      mapping, buffer]
    exact congrArg (block :: ·) (table _ _)

theorem Uncached.step (uncached : Uncached xdev done state)
    (ready : Ready answers attempt idx bars xdev)
    (initialised : xdev.buffer mapping.dir mapping.index = some block) :
    ∃ next, mapStep xdev state mapping = some next ∧ Uncached xdev (done ++ [mapping]) next := by
  -- The flag of the channel says whether its buffer has been made uncached.
  have flagged : state.fmap xdev.idx mapping.dir (mapFlag mapping.index) = true ↔
      block ∈ uncachedBuffers state.trace := by
    rw [uncached.fmap, uncached.members]
    constructor
    · intro set
      obtain ⟨earlier, member, sameDir, sameFlag⟩ := set
      refine ⟨earlier, member, ?_⟩
      rw [sameDir, mapFlag_inj sameFlag, initialised]
    · intro logged
      obtain ⟨earlier, member, own⟩ := logged
      rcases ready.buffer_eq_iff.mp (own.trans initialised.symm) with same | empty
      · exact ⟨earlier, member, same.1, congrArg mapFlag same.2⟩
      · cases own.symm.trans empty.1
  have logged := @mapped_uncached xdev { state with xdmaSetting := mapping.info } mapping.dir
    mapping.index block initialised
  refine ⟨_, mapStep_mapped ready, ?_, ?_, ?_⟩
  · intro dir channel
    rw [mapped_fmap]
    simp only [List.mem_append, List.mem_singleton, or_and_right, exists_or, exists_eq_left]
    rw [uncached.fmap]
  · rw [logged]
    split
    · exact uncached.nodup
    · next fresh => exact List.nodup_cons.mpr ⟨fun member => fresh (flagged.mpr member), uncached.nodup⟩
  · intro other
    rw [logged]
    simp only [List.mem_append, List.mem_singleton, or_and_right, exists_or, exists_eq_left]
    rw [← uncached.members, initialised]
    split
    · next seen =>
        refine ⟨.inl, ?_⟩
        intro either
        rcases either with earlier | same
        · exact earlier
        · cases same
          exact flagged.mp seen
    · simp only [List.mem_cons, Option.some.injEq]
      exact or_comm.trans (or_congr Iff.rfl eq_comm)

theorem uncached_run (ready : Ready answers attempt idx bars xdev)
    (start : Uncached xdev [] state)
    (initialised : ∀ mapping ∈ mappings, (xdev.buffer mapping.dir mapping.index).isSome) :
    ∃ after, runFrom (mapStep xdev) state mappings = some after ∧ Uncached xdev mappings after := by
  induction mappings using List.reverseRecOn with
  | nil => exact ⟨state, rfl, start⟩
  | append_singleton mappings mapping ih =>
      obtain ⟨middle, ran, uncached⟩ :=
        ih fun other member => initialised other (List.mem_append_left _ member)
      obtain ⟨block, buffer⟩ := Option.isSome_iff_exists.mp
        (initialised mapping (List.mem_append_right _ (List.mem_singleton_self mapping)))
      obtain ⟨next, stepped, after⟩ := uncached.step ready buffer
      exact ⟨next, by simp [runFrom_append, ran, runFrom, stepped], after⟩

/-- A buffer is made cacheable again only where some mapping has set the flag that the
index of its channel finds. -/
theorem Uncached.found (uncached : Uncached xdev mappings state)
    (ready : Ready answers attempt idx bars xdev)
    (freed : ∀ block numPages, .setMemoryWb block numPages ∈ calls →
      ∃ (dir : Fin 2) (index : Fin xdmaChannelNum),
        state.fmap idx dir (index.castLE (by decide)) = true ∧
          xdev.buffer dir index = some block)
    (buffer : xdev.buffer dir index = some block) (made : MadeCacheable block calls) :
    ∃ earlier ∈ mappings, earlier.dir = dir ∧ (mapFlag earlier.index).val = index.val := by
  obtain ⟨earlier, _, _, _, numPages, split, call⟩ := made
  obtain ⟨one, place, flagged, own⟩ :=
    freed block numPages (by rw [split]; exact List.mem_append_left _ call)
  rw [← ready.idx] at flagged
  rcases ready.buffer_eq_iff.mp (own.trans buffer.symm) with ⟨rfl, rfl⟩ | empty
  · obtain ⟨other, mapped, sameDir, sameFlag⟩ := (uncached.fmap _ _).mp flagged
    exact ⟨other, mapped, sameDir, congrArg Fin.val sameFlag⟩
  · cases own.symm.trans empty.1

/-- The buffer of the first channel that has been mapped in a direction stays
uncached, as the removal looks for its flag where no mapping sets one. -/
theorem Uncached.restores_iff (uncached : Uncached xdev mappings state)
    (ready : Ready answers attempt idx bars xdev)
    (initialised : ∀ mapping ∈ mappings, (xdev.buffer mapping.dir mapping.index).isSome)
    (freed : ∀ block numPages, .setMemoryWb block numPages ∈ calls →
      ∃ (dir : Fin 2) (index : Fin xdmaChannelNum),
        state.fmap idx dir (index.castLE (by decide)) = true ∧
          xdev.buffer dir index = some block) :
    Restores xdev state calls ↔ mappings = [] := by
  constructor
  · intro restores
    have found : ∀ mapping ∈ mappings, ∃ earlier ∈ mappings,
        earlier.dir = mapping.dir ∧ (mapFlag earlier.index).val = mapping.index.val := by
      intro mapping member
      obtain ⟨block, buffer⟩ := Option.isSome_iff_exists.mp (initialised mapping member)
      have logged := (uncached.members block).mpr ⟨mapping, member, buffer⟩
      have made := (restores.exact mapping.dir mapping.index block buffer).mpr logged
      exact uncached.found ready freed buffer made
    refine List.eq_nil_iff_forall_not_mem.mpr ?_
    intro mapping member
    -- The flag one below that of the first channel belongs to none.
    obtain ⟨earlier, mapped, _, below⟩ := found mapping member
    obtain ⟨first, _, _, least⟩ := found earlier mapped
    have small : mapping.index.val < 2 := mapping.index.isLt
    simp only [mapFlag] at below least
    omega
  · rintro rfl
    refine ⟨?_, uncached.nodup⟩
    intro dir index block buffer
    constructor
    · intro made
      obtain ⟨_, member, _⟩ := uncached.found ready freed buffer made
      cases member
    · intro logged
      obtain ⟨_, member, _⟩ := (uncached.members block).mp logged
      cases member

variable {before probed : Kernel}

theorem Kernel.untraced_uncached (flags : state.fmap xdev.idx = fun _ _ => false) :
    Uncached xdev [] state.untraced where
  fmap := by simp [Kernel.untraced, flags]
  nodup := List.nodup_nil
  members := by simp [Kernel.untraced, uncachedBuffers]

theorem probed_uncached
    (ran : xdmaChannelInit answers (.allocated idx bars) (before.xpdevAlloc idx) = (.ok xdev, probed)) :
    Ready answers before.allocated idx bars xdev ∧ Uncached xdev [] probed.untraced := by
  obtain ⟨ready, advanced⟩ := xdmaChannelInit_ready ran
  refine ⟨ready, Kernel.untraced_uncached ?_⟩
  rw [advanced.fmap, ready.idx]
  simp [Kernel.xpdevAlloc]

/-- From a probe on, every run of mappings makes each buffer uncached at most once.
The removal after it makes exactly these cacheable again only if there are none. -/
theorem attributes_restored_iff
    (ran : xdmaChannelInit answers (.allocated idx bars) (before.xpdevAlloc idx) = (.ok xdev, probed))
    (initialised : ∀ mapping ∈ mappings, (xdev.buffer mapping.dir mapping.index).isSome) :
    ∃ after calls, runFrom (mapStep xdev) probed.untraced mappings = some after ∧
      xdmaFreeResource after (some xdev) = .ok calls ∧
      (uncachedBuffers after.trace).Nodup ∧ (Restores xdev after calls ↔ mappings = []) := by
  obtain ⟨ready, start⟩ := probed_uncached ran
  obtain ⟨after, mapped, uncached⟩ := uncached_run ready start initialised
  obtain ⟨calls, removed, freed⟩ := ready.freed after
  exact ⟨after, calls, mapped, removed, uncached.nodup, uncached.restores_iff ready initialised freed⟩

def fromCard (index : Fin xdmaChannelNum) : ChannelMapping where
  dir := 1
  index := index
  info := { XdmaInfo.cleared with channel := BitVec.ofNat 32 (index.val + 1), dir := 1 }
  names := ⟨rfl, rfl⟩

theorem board_restores (mappings : List ChannelMapping)
    (initialised : ∀ mapping ∈ mappings, mapping.dir = 1) :
    ∃ xdev probed,
      xdmaChannelInit (fun _ => some 0) (.allocated 0 fun bar => some bar.val)
        (Kernel.booted.xpdevAlloc 0) = (.ok xdev, probed) ∧
      ∀ mapping ∈ mappings, (xdev.buffer mapping.dir mapping.index).isSome := by
  obtain ⟨xdev, probed, ran, ready, _⟩ :=
    @xdmaChannelInit_run (fun _ => some 0) 1 0 (fun bar => some bar.val)
      (Kernel.booted.xpdevAlloc 0) rfl
  refine ⟨xdev, probed, ran, ?_⟩
  intro mapping member
  rw [initialised mapping member]
  have buffers : ∀ index, (xdev.buffer 1 index).isSome := by
    intro index
    match index with
    | 0 => exact Option.isSome_iff_exists.mpr ⟨_, ready.firstC2h.pData⟩
    | 1 => exact Option.isSome_iff_exists.mpr ⟨_, ready.secondC2h.pData⟩
  exact buffers mapping.index

theorem attributes_restored_iff_both :
    ∃ xdev probed after calls,
      xdmaChannelInit (fun _ => some 0) (.allocated 0 fun bar => some bar.val)
        (Kernel.booted.xpdevAlloc 0) = (.ok xdev, probed) ∧
      runFrom (mapStep xdev) probed.untraced [fromCard 0, fromCard 1, fromCard 0] = some after ∧
      xdmaFreeResource after (some xdev) = .ok calls ∧
      (uncachedBuffers after.trace).Nodup ∧ ¬ Restores xdev after calls := by
  obtain ⟨xdev, probed, ran, initialised⟩ :=
    board_restores [fromCard 0, fromCard 1, fromCard 0] (by simp [fromCard])
  obtain ⟨after, calls, mapped, removed, once, restores⟩ := attributes_restored_iff ran initialised
  exact ⟨xdev, probed, after, calls, ran, mapped, removed, once, fun restored =>
    absurd (restores.mp restored) (by simp)⟩

/-- The buffer of the first channel from the card is mapped, and freed uncached. -/
theorem freed_uncached :
    ∃ xdev probed after calls,
      xdmaChannelInit (fun _ => some 0) (.allocated 0 fun bar => some bar.val)
        (Kernel.booted.xpdevAlloc 0) = (.ok xdev, probed) ∧
      runFrom (mapStep xdev) probed.untraced [fromCard 0] = some after ∧
      xdmaFreeResource after (some xdev) = .ok calls ∧ ¬ Restores xdev after calls := by
  obtain ⟨xdev, probed, ran, initialised⟩ := board_restores [fromCard 0] (by simp [fromCard])
  obtain ⟨ready, start⟩ := probed_uncached ran
  obtain ⟨after, mapped, uncached⟩ := uncached_run ready start initialised
  obtain ⟨calls, removed, freed⟩ := ready.freed after
  refine ⟨xdev, probed, after, calls, ran, mapped, removed, ?_⟩
  intro restores
  cases (uncached.restores_iff ready initialised freed).mp restores

end Vi53xx.Driver
