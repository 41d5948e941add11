import Vi53xx.Driver.Proc

/-! Which files the driver creates under `/proc/vi53xx`, and how its list of
devices grows. -/

set_option autoImplicit false

namespace Vi53xx.Driver

variable {registry : Registry} {entry : ProcEntry} {name : List Char}

/-! ## Files -/

theorem procCreate_names {ok : Bool} {fops : ProcFops}
    (member : entry ∈ (procCreate ok name fops registry).2.procEntries) :
    entry ∈ registry.procEntries ∨ entry.name = name := by
  unfold procCreate at member
  split at member
  · rcases List.mem_append.mp member with before | last
    · exact .inl before
    · rw [List.mem_singleton.mp last]
      exact .inr rfl
  · exact .inl member

theorem createBoardProc_names {outcome : ProcOutcome}
    (member : entry ∈ (createBoardProc outcome registry).2.procEntries) :
    entry ∈ registry.procEntries ∨ entry.name = devBoards := by
  unfold createBoardProc at member
  dsimp only at member
  split at member
  · split at member
    · next created =>
        have after := congrArg Prod.snd created
        dsimp only at after member
        rw [← after] at member
        have named := procCreate_names member
        exact named
    · cases member
  · exact .inl member

theorem createInstanceBoardIdMmap_names {outcome : ProcOutcome}
    (member : entry ∈ (createInstanceBoardIdMmap outcome registry).2.procEntries) :
    entry ∈ registry.procEntries ∨ entry.name = devMaping := by
  unfold createInstanceBoardIdMmap at member
  split at member
  · split at member
    · next created =>
        have after := congrArg Prod.snd created
        dsimp only at after member
        rw [← after] at member
        exact procCreate_names member
    · cases member
  · exact .inl member

theorem initBoardInfo_names {memory : Bool} {outcome : ProcOutcome}
    (member : entry ∈ (initBoardInfo memory outcome registry).2.procEntries) :
    entry ∈ registry.procEntries ∨ entry.name = devBoards ∨ entry.name = devMaping := by
  unfold initBoardInfo at member
  split at member
  · rcases createInstanceBoardIdMmap_names member with before | mapping
    · rcases createBoardProc_names before with before | boards
      · exact .inl before
      · exact .inr (.inl boards)
    · exact .inr (.inr mapping)
  · exact .inl member

theorem createProcDevice_names {ok : Bool} {xpdev : Nat}
    (member : entry ∈ (createProcDevice ok xpdev name registry).procEntries) :
    entry ∈ registry.procEntries ∨ entry.name = name := by
  unfold createProcDevice at member
  split at member
  · exact procCreate_names member
  · exact .inl member

/-- The file of a board is named after its type and, behind a bar, its instance. -/
theorem createCdev_names {outcome : ProbeOutcome} {readReg : BitVec 32 → BitVec 32} {xpdev : Nat}
    {pdev : PciDev}
    (member : entry ∈ (createCdev outcome readReg xpdev pdev registry).2.procEntries) :
    entry ∈ registry.procEntries ∨ '_' ∈ entry.name := by
  unfold createCdev at member
  dsimp only at member
  split at member
  · split at member
    · split at member
      · exact .inl member
      · split at member
        · exact .inl member
        · split at member
          · rcases createProcDevice_names member with before | named
            · exact .inl before
            · rw [named]
              simp
          · exact .inl member
    · exact .inl member
  · exact .inl member

theorem xdmaProbe_names {outcome : ProbeOutcome} {readReg : BitVec 32 → BitVec 32} {pdev : PciDev}
    (member : entry ∈ (xdmaProbe outcome readReg pdev registry).2.procEntries) :
    entry ∈ registry.procEntries ∨ '_' ∈ entry.name := by
  unfold xdmaProbe at member
  dsimp only at member
  split at member
  · exact .inl member
  · split at member
    · exact .inl member
    · have plain : entry ∈ (createCdev outcome readReg registry.allocated pdev
          { registry with allocated := registry.allocated + 1 }).2.procEntries := by
        split at member <;> exact member
      have named := createCdev_names plain
      exact named

theorem procfs_missing (absent : ∀ entry ∈ registry.procEntries, entry.name ≠ name) :
    registry.procfs (procDir ++ name) = none := by
  have missing : (registry.procEntries.find? fun entry =>
      procDir ++ entry.name == procDir ++ name) = none := by
    apply List.find?_eq_none.mpr
    intro entry member
    simpa using absent entry member
  rw [Registry.procfs, missing, Option.bind_none]

/-! ## The list of devices -/

theorem xdmaProbe_pcieDeviceList {outcome : ProbeOutcome} {readReg : BitVec 32 → BitVec 32}
    {pdev : PciDev} (success : (xdmaProbe outcome readReg pdev registry).1 = 0) :
    (xdmaProbe outcome readReg pdev registry).2.pcieDeviceList ≠ [] := by
  unfold xdmaProbe at success ⊢
  dsimp only at success ⊢
  split at success
  · cases success
  · split at success
    · cases success
    · split at success
      · cases success
      · simp [*]

theorem probed_ne {boards : List XdmaPciDev} (probed : registry.probed = some boards)
    (listed : registry.pcieDeviceList ≠ []) : boards ≠ [] := by
  unfold Registry.probed at probed
  cases shape : registry.pcieDeviceList with
  | nil => exact absurd shape listed
  | cons first rest =>
      rw [shape, List.mapM_cons] at probed
      obtain ⟨board, _, others⟩ := Option.bind_eq_some_iff.mp probed
      obtain ⟨tail, _, whole⟩ := Option.bind_eq_some_iff.mp others
      cases whole
      exact List.cons_ne_nil board tail

end Vi53xx.Driver
