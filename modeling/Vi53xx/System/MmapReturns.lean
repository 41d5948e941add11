import Vi53xx.Driver.AnswerProperties
import Vi53xx.Driver.MmapProperties
import Vi53xx.System.TransferReports

/-! What `vi53xx_xdma_mmap` returns. It goes on when its setting has been turned down,
and `mmap(2)` then maps the channel of the setting before it. -/

set_option autoImplicit false

namespace Vi53xx.System

open Foundation Foundation.Program Driver

/-- How `mmap(2)` comes out: turned down before the driver is asked, an error of
`dma_common_mmap`, or a mapping at an address. -/
inductive MmapOutcome where
  | refused
  | failed (error : Nat)
  | mapped (addr : BitVec 64)
  deriving DecidableEq, Repr

def MAP_FAILED : BitVec 64 := -1

/-- The pointer returned, and the buffer that is mapped there. -/
structure Mapped where
  addr : BitVec 64
  pData : Option Nat
  deriving DecidableEq, Repr

/-- The buffer that the driver has handed to `dma_common_mmap`. -/
def lastMapped : List Access → Option Nat
  | .dmaCommonMmap pData :: _ => pData
  | _ => none

/-- `_vi53xx_xdma_mmap` of the library. The pointer is compared with NULL. -/
def mmapBuffer (xdev : XdmaDev) (outcome : MmapOutcome) (kernel : Kernel) : Except Fault Mapped :=
  match outcome with
  | .refused => .ok ⟨MAP_FAILED, none⟩
  | .failed error => (vi53xxXdmaMmap xdev (-error) kernel).1.map fun _ => ⟨MAP_FAILED, none⟩
  | .mapped addr =>
      match vi53xxXdmaMmap xdev 0 kernel with
      | (.error fault, _) => .error fault
      | (.ok _, after) => .ok ⟨addr, lastMapped after.trace⟩

/-- What `vi53xx_xdma_mmap` asks for. -/
structure MmapCall where
  boardId : BitVec 32
  channel : BitVec 32
  direction : BitVec 32
  stack : XdmaInfo

def MmapCall.info (call : MmapCall) : XdmaInfo :=
  { call.stack with channel := call.channel, dir := call.direction.setWidth 8 }

/-- The kernel after the setting, whose result is not looked at; `missed` is what the
copy of its argument leaves out. -/
def recordSetting (xdev : XdmaDev) (info : XdmaInfo) (missed : Fin (XdmaInfo.size + 1))
    (kernel : Kernel) : Kernel :=
  match Lib.xdmaMmapSetting (some info) with
  | .error _ => kernel
  | .ok (cmd, info) => (answer xdev (.ioctl cmd info ⟨missed, 0, .cleared⟩) kernel).2

/-- `vi53xx_xdma_mmap`; `device` is the device whose file each descriptor is open on. -/
def vi53xxXdmaMmap (device : Int → XdmaDev) (state : Lib.LibState) (call : MmapCall)
    (missed : Fin (XdmaInfo.size + 1)) (outcome : MmapOutcome) (kernel : Kernel) :
    Except Fault Mapped :=
  match Lib.getDevHandle state call.boardId with
  | none => .ok ⟨0, none⟩
  | some handle =>
      let xdev := device handle.devHandle
      mmapBuffer xdev outcome (recordSetting xdev call.info missed kernel)

/-- NULL, or an address with the buffer of exactly the channel and direction asked for. -/
def MapsOrFails (xdev : XdmaDev) (call : MmapCall) (result : Except Fault Mapped) : Prop :=
  ∃ ret, result = .ok ret ∧
    (ret.addr = 0 ∨ ∃ (dir : Fin 2) (index : Fin xdmaChannelNum) (block : Nat),
      call.direction = BitVec.ofNat 32 dir.val ∧ call.channel = BitVec.ofNat 32 (index.val + 1) ∧
      xdev.buffer dir index = some block ∧ ret.pData = some block)

/-- The entry that the driver takes for a setting: every direction but 0 is from the card. -/
def LeadsTo (info : XdmaInfo) (dir : Fin 2) (index : Fin xdmaChannelNum) : Prop :=
  (info.dir = H2C_DIR ↔ dir = 0) ∧ info.channel = BitVec.ofNat 32 (index.val + 1)

/-- The setting gets through the checks of the library and is copied whole. -/
def SettingAccepted (call : MmapCall) (missed : Fin (XdmaInfo.size + 1)) : Prop :=
  ¬ Lib.channelRefused call.channel ∧ call.direction.setWidth 8 ≤ (1 : BitVec 8) ∧ missed = 0

instance (call : MmapCall) (missed : Fin (XdmaInfo.size + 1)) :
    Decidable (SettingAccepted call missed) :=
  inferInstanceAs (Decidable (_ ∧ _))

/-- The setting that the driver maps by: the call's own, or the one of an earlier call. -/
def inEffect (old : XdmaInfo) (call : MmapCall) (missed : Fin (XdmaInfo.size + 1)) : XdmaInfo :=
  if SettingAccepted call missed then call.info else old

/-- `mmap(2)` succeeds, with a setting in effect that leads to a channel; and it is the
channel asked for, with a buffer, unless `mmap(2)` succeeds with the address NULL. -/
def MapsAsAsked (xdev : XdmaDev) (old : XdmaInfo) (call : MmapCall)
    (missed : Fin (XdmaInfo.size + 1)) (outcome : MmapOutcome) : Prop :=
  ∃ addr dir index, outcome = .mapped addr ∧ LeadsTo (inEffect old call missed) dir index ∧
    (addr = 0 ∨ call.direction = BitVec.ofNat 32 dir.val ∧
      call.channel = BitVec.ofNat 32 (index.val + 1) ∧ (xdev.buffer dir index).isSome)

variable {xdev : XdmaDev} {kernel : Kernel} {call : MmapCall} {missed : Fin (XdmaInfo.size + 1)}
  {outcome : MmapOutcome} {dir : Fin 2} {index : Fin xdmaChannelNum} {info : XdmaInfo}
  {answers : Nat → Option (BitVec 64)} {attempt idx : Nat} {bars : Fin xdmaBarNum → Option Nat}

/-! ## The setting -/

theorem xdmaMmapSetting_eq : Lib.xdmaMmapSetting (some call.info) =
    if ¬ Lib.channelRefused call.channel ∧ call.direction.setWidth 8 ≤ (1 : BitVec 8) then
      .ok (rtpcIoctlXdma .setting, call.info)
    else .error (-1) := by
  have negative : ¬ call.info.dir < 0 := BitVec.not_lt_zero
  have above : ¬ 1 < call.info.dir ↔ call.direction.setWidth 8 ≤ (1 : BitVec 8) := BitVec.not_lt
  unfold Lib.xdmaMmapSetting Lib.channelRequest
  by_cases refused : Lib.channelRefused call.channel
  · simp only [refused, not_true_eq_false, false_and, if_false]
    exact if_pos refused
  · simp only [refused, not_false_eq_true, true_and, ← above, negative, false_or]
    refine (if_neg refused).trans ?_
    by_cases high : 1 < call.info.dir
    · simp only [high, if_true, not_true_eq_false, if_false]
    · simp only [high, if_false, not_false_eq_true, if_true]
      rfl

theorem recordSetting_xdmaSetting :
    (recordSetting xdev call.info missed kernel).xdmaSetting =
      inEffect kernel.xdmaSetting call missed := by
  by_cases passed : ¬ Lib.channelRefused call.channel ∧ call.direction.setWidth 8 ≤ (1 : BitVec 8)
  · have sent := xdmaMmapSetting_eq.trans (if_pos passed)
    simp only [recordSetting, sent]
    by_cases copied : missed = 0
    · have accepted : SettingAccepted call missed := ⟨passed.1, passed.2, copied⟩
      have ran := congrFun (@answer_ioctl xdev call.info ⟨missed, 0, .cleared⟩ .setting copied) kernel
      exact (congrArg (fun run => run.2.xdmaSetting) ran).trans (if_pos accepted).symm
    · have ignored : ¬ SettingAccepted call missed := fun accepted => copied accepted.2.2
      have ran := congrFun (@answer_unread xdev call.info ⟨missed, 0, .cleared⟩ .setting copied) kernel
      exact (congrArg (fun run => run.2.xdmaSetting) ran).trans (if_neg ignored).symm
  · have ignored : ¬ SettingAccepted call missed := fun accepted =>
      passed ⟨accepted.1, accepted.2.1⟩
    have turnedDown := xdmaMmapSetting_eq.trans (if_neg passed)
    simp only [recordSetting, turnedDown]
    exact (if_neg ignored).symm

/-! ## The driver -/

theorem LeadsTo.unique {other : Fin 2} {place : Fin xdmaChannelNum}
    (leads : LeadsTo info dir index) (again : LeadsTo info other place) :
    dir = other ∧ index = place := by
  constructor
  · have sameSide : dir = 0 ↔ other = 0 := leads.1.symm.trans again.1
    omega
  · have number : BitVec.ofNat 32 (index.val + 1) = BitVec.ofNat 32 (place.val + 1) :=
      leads.2.symm.trans again.2
    match index, place with
    | 0, 0 | 1, 1 => rfl
    | 0, 1 | 1, 0 => exact absurd number (by decide)

theorem getXdmaCfg_leads (leads : LeadsTo info dir index) :
    ∃ after, getXdmaCfg xdev info kernel = (.ok (xdev.cfg dir index), after) ∧
      after.fmap = kernel.fmap := by
  obtain ⟨direction, channel⟩ := leads
  unfold getXdmaCfg
  match dir with
  | 0 =>
      rw [if_pos (direction.mpr rfl), h2cDmaCfg_run (entryAt_channel channel)]
      exact ⟨_, rfl, rfl⟩
  | 1 =>
      rw [if_neg fun host => absurd (direction.mp host) (by decide),
        c2hDmaCfg_run (entryAt_channel channel)]
      exact ⟨_, rfl, rfl⟩

theorem vi53xxXdmaMmap_leads (ret : Int) (ready : Ready answers attempt idx bars xdev)
    (leads : LeadsTo kernel.xdmaSetting dir index) :
    ∃ after, Driver.vi53xxXdmaMmap xdev ret kernel = (.ok ret, after) ∧
      lastMapped after.trace = xdev.buffer dir index := by
  obtain ⟨middle, found, _⟩ := @getXdmaCfg_leads xdev kernel dir index _ leads
  obtain ⟨direction, channel⟩ := @Ready.numbered xdev dir index answers attempt idx bars ready
  unfold Driver.vi53xxXdmaMmap
  rw [Program.read_bind, bind_ok found, xdmaMmap_run direction channel]
  exact ⟨_, rfl, rfl⟩

theorem vi53xxXdmaMmap_astray (ret : Int)
    (astray : ∀ dir index, ¬ LeadsTo kernel.xdmaSetting dir index) :
    ∃ fault, (Driver.vi53xxXdmaMmap xdev ret kernel).1 = .error fault := by
  have outside : ∀ index : Fin xdmaChannelNum,
      kernel.xdmaSetting.channel ≠ BitVec.ofNat 32 (index.val + 1) := by
    intro index number
    by_cases host : kernel.xdmaSetting.dir = H2C_DIR
    · exact astray 0 index ⟨iff_of_true host rfl, number⟩
    · exact astray 1 index ⟨iff_of_false host (by decide), number⟩
  unfold Driver.vi53xxXdmaMmap
  rw [Program.read_bind]
  by_cases host : kernel.xdmaSetting.dir = H2C_DIR
  · have selected : getXdmaCfg xdev kernel.xdmaSetting = h2cDmaCfg xdev _ := if_pos host
    rw [selected, bind_error (h2cDmaCfg_outside (entryAt_outside outside))]
    exact ⟨_, rfl⟩
  · have selected : getXdmaCfg xdev kernel.xdmaSetting = c2hDmaCfg xdev _ := if_neg host
    rw [selected, bind_error (c2hDmaCfg_outside (entryAt_outside outside))]
    exact ⟨_, rfl⟩

/-! ## The call -/

theorem mmapBuffer_mapped {addr : BitVec 64} (ready : Ready answers attempt idx bars xdev)
    (leads : LeadsTo kernel.xdmaSetting dir index) :
    mmapBuffer xdev (.mapped addr) kernel = .ok ⟨addr, xdev.buffer dir index⟩ := by
  obtain ⟨after, ran, mapped⟩ :=
    @vi53xxXdmaMmap_leads xdev kernel dir index answers attempt idx bars 0 ready leads
  simp only [mmapBuffer, ran, mapped]

theorem mmapBuffer_astray {addr : BitVec 64}
    (astray : ∀ dir index, ¬ LeadsTo kernel.xdmaSetting dir index) :
    ∃ fault, mmapBuffer xdev (.mapped addr) kernel = .error fault := by
  obtain ⟨fault, faulty⟩ := @vi53xxXdmaMmap_astray xdev kernel 0 astray
  cases ran : Driver.vi53xxXdmaMmap xdev 0 kernel with
  | mk answered after =>
      rw [ran] at faulty
      subst faulty
      exact ⟨fault, by simp only [mmapBuffer, ran]⟩

theorem not_maps_failed : ¬ MapsOrFails xdev call (.ok ⟨MAP_FAILED, none⟩) := by
  intro maps
  obtain ⟨ret, same, null | ⟨_, _, _, _, _, _, mapped⟩⟩ := maps
  · cases same
    exact absurd null (by decide)
  · cases same
    cases mapped

theorem not_maps_fault {fault : Fault} : ¬ MapsOrFails xdev call (.error fault) := by
  intro maps
  obtain ⟨_, same, _⟩ := maps
  cases same

theorem not_maps_unmapped (unmapped : ∀ addr, outcome ≠ .mapped addr) :
    ¬ MapsOrFails xdev call (mmapBuffer xdev outcome kernel) := by
  cases outcome with
  | refused => exact not_maps_failed
  | failed error =>
      cases ran : (Driver.vi53xxXdmaMmap xdev (-(error : Int)) kernel).1 with
      | error fault =>
          simp only [mmapBuffer, ran]
          exact not_maps_fault
      | ok ret =>
          simp only [mmapBuffer, ran]
          exact not_maps_failed
  | mapped addr => exact absurd rfl (unmapped addr)

theorem maps_ok_iff {addr : BitVec 64} (ready : Ready answers attempt idx bars xdev) :
    MapsOrFails xdev call (.ok ⟨addr, xdev.buffer dir index⟩) ↔
      addr = 0 ∨ call.direction = BitVec.ofNat 32 dir.val ∧
        call.channel = BitVec.ofNat 32 (index.val + 1) ∧ (xdev.buffer dir index).isSome := by
  constructor
  · intro maps
    obtain ⟨ret, same, null | ⟨other, place, block, direction, channel, buffer, mapped⟩⟩ := maps
    · cases same
      exact .inl null
    · cases same
      -- No two channels share a buffer, so it is the channel that was asked for.
      rcases ready.buffer_eq_iff.mp (buffer.trans mapped.symm) with ⟨rfl, rfl⟩ | ⟨none, _⟩
      · exact .inr ⟨direction, channel, Option.isSome_iff_exists.mpr ⟨block, buffer⟩⟩
      · rw [buffer] at none
        cases none
  · intro asked
    refine ⟨_, rfl, ?_⟩
    rcases asked with null | ⟨direction, channel, some⟩
    · exact .inl null
    · obtain ⟨block, buffer⟩ := Option.isSome_iff_exists.mp some
      exact .inr ⟨dir, index, block, direction, channel, buffer, buffer⟩

/-- With an address, the outcome is that of the setting that the driver finds. -/
theorem mmapBuffer_maps_iff {addr : BitVec 64} (ready : Ready answers attempt idx bars xdev) :
    MapsOrFails xdev call (mmapBuffer xdev (.mapped addr) kernel) ↔
      ∃ dir index, LeadsTo kernel.xdmaSetting dir index ∧
        (addr = 0 ∨ call.direction = BitVec.ofNat 32 dir.val ∧
          call.channel = BitVec.ofNat 32 (index.val + 1) ∧ (xdev.buffer dir index).isSome) := by
  by_cases leads : ∃ dir index, LeadsTo kernel.xdmaSetting dir index
  · obtain ⟨dir, index, leads⟩ := leads
    rw [mmapBuffer_mapped ready leads, maps_ok_iff ready]
    constructor
    · intro asked
      exact ⟨dir, index, leads, asked⟩
    · intro asked
      obtain ⟨otherDir, place, otherLeads, asked⟩ := asked
      obtain ⟨rfl, rfl⟩ := otherLeads.unique leads
      exact asked
  · obtain ⟨fault, faulty⟩ := @mmapBuffer_astray xdev kernel addr
      fun dir index towards => leads ⟨dir, index, towards⟩
    rw [faulty]
    refine iff_of_false not_maps_fault ?_
    intro asked
    obtain ⟨dir, index, towards, _⟩ := asked
    exact leads ⟨dir, index, towards⟩

/-- An open board's call returns NULL, or maps what it was asked for, exactly when
`mmap(2)` succeeds and the setting in effect leads to the channel that was asked for. -/
theorem mmap_maps_iff (device : Int → XdmaDev) (state : Lib.LibState) (call : MmapCall)
    (missed : Fin (XdmaInfo.size + 1)) (outcome : MmapOutcome) (kernel : Kernel)
    {handle : Lib.DevHandle} {before : Kernel}
    (opened : Lib.getDevHandle state call.boardId = some handle)
    (probed : Probed answers idx bars before (device handle.devHandle)) :
    MapsOrFails (device handle.devHandle) call
        (vi53xxXdmaMmap device state call missed outcome kernel) ↔
      MapsAsAsked (device handle.devHandle) kernel.xdmaSetting call missed outcome := by
  have called : vi53xxXdmaMmap device state call missed outcome kernel =
      mmapBuffer (device handle.devHandle) outcome
        (recordSetting (device handle.devHandle) call.info missed kernel) := by
    simp only [vi53xxXdmaMmap, opened]
  rw [called]
  cases outcome with
  | refused | failed error =>
      refine iff_of_false (not_maps_unmapped nofun) ?_
      intro asked
      obtain ⟨_, _, _, mapped, _⟩ := asked
      cases mapped
  | mapped addr =>
      rw [mmapBuffer_maps_iff probed.ready, recordSetting_xdmaSetting]
      constructor
      · intro asked
        obtain ⟨dir, index, leads, asked⟩ := asked
        exact ⟨addr, dir, index, rfl, leads, asked⟩
      · intro asked
        obtain ⟨_, dir, index, mapped, leads, asked⟩ := asked
        cases mapped
        exact ⟨dir, index, leads, asked⟩

/-- The call with a channel and a direction, on the board that is open. -/
def callFor (channel direction : BitVec 32) : MmapCall := ⟨7, channel, direction, .cleared⟩

theorem mmap_maps_iff_firstC2h :
    ∃ xdev final, Probed (fun _ => some 0) 0 allMapped .booted xdev ∧
      MapsOrFails xdev (callFor 1 1)
        (vi53xxXdmaMmap (fun _ => xdev) oneOpen (callFor 1 1) 0 (.mapped 0x1000) final) := by
  obtain ⟨xdev, final, ran, ready, _⟩ :=
    @xdmaChannelInit_run (fun _ => some 0) 1 0 allMapped .booted rfl
  refine ⟨xdev, final, ⟨final, ran⟩, ?_⟩
  refine (mmap_maps_iff (fun _ => xdev) oneOpen (callFor 1 1) 0 (.mapped 0x1000) final
    oneOpen_handle ⟨final, ran⟩).mpr ?_
  have accepted : SettingAccepted (callFor 1 1) 0 := by decide
  have leads : LeadsTo (inEffect final.xdmaSetting (callFor 1 1) 0) 1 0 := by
    rw [inEffect, if_pos accepted]
    exact ⟨by decide, rfl⟩
  have allocated : (xdev.buffer 1 0).isSome = true :=
    Option.isSome_iff_exists.mpr ⟨0, ready.firstC2h.pData⟩
  exact ⟨0x1000, 1, 0, rfl, leads, .inr ⟨rfl, rfl, allocated⟩⟩

/-- Channel 5 is turned down, and the buffer of the setting before it is mapped; and what
`mmap(2)` fails with is returned as it is. -/
theorem refused_setting_maps :
    ∃ xdev final,
      xdmaChannelInit (fun _ => some 0) (.allocated 0 allMapped) .booted = (.ok xdev, final) ∧
      vi53xxXdmaMmap (fun _ => xdev) oneOpen (callFor 5 0) 0 (.mapped 0x1000)
        (recordSetting xdev (callFor 1 1).info 0 final) = .ok ⟨0x1000, xdev.buffer 1 0⟩ ∧
      ¬ MapsOrFails xdev (callFor 5 0) (vi53xxXdmaMmap (fun _ => xdev) oneOpen (callFor 5 0) 0
        (.mapped 0x1000) (recordSetting xdev (callFor 1 1).info 0 final)) ∧
      vi53xxXdmaMmap (fun _ => xdev) oneOpen (callFor 1 1) 0 .refused final =
        .ok ⟨MAP_FAILED, none⟩ ∧
      ¬ MapsOrFails xdev (callFor 1 1)
        (vi53xxXdmaMmap (fun _ => xdev) oneOpen (callFor 1 1) 0 .refused final) := by
  obtain ⟨xdev, final, ran, ready, _⟩ :=
    @xdmaChannelInit_run (fun _ => some 0) 1 0 allMapped .booted rfl
  have accepted : SettingAccepted (callFor 1 1) 0 := by decide
  have turnedDown : ¬ SettingAccepted (callFor 5 0) 0 := by decide
  have earlier : (recordSetting xdev (callFor 1 1).info 0 final).xdmaSetting = (callFor 1 1).info :=
    recordSetting_xdmaSetting.trans (if_pos accepted)
  have kept := (@recordSetting_xdmaSetting xdev (recordSetting xdev (callFor 1 1).info 0 final)
    (callFor 5 0) 0).trans ((if_neg turnedDown).trans earlier)
  have leads : LeadsTo (recordSetting xdev (callFor 5 0).info 0
      (recordSetting xdev (callFor 1 1).info 0 final)).xdmaSetting 1 0 := by
    rw [kept]
    exact ⟨by decide, rfl⟩
  have second : vi53xxXdmaMmap (fun _ => xdev) oneOpen (callFor 5 0) 0 (.mapped 0x1000)
      (recordSetting xdev (callFor 1 1).info 0 final) = .ok ⟨0x1000, xdev.buffer 1 0⟩ := by
    simp only [vi53xxXdmaMmap, callFor, oneOpen_handle]
    exact mmapBuffer_mapped ready leads
  have failed : vi53xxXdmaMmap (fun _ => xdev) oneOpen (callFor 1 1) 0 .refused final =
      .ok ⟨MAP_FAILED, none⟩ := by
    simp only [vi53xxXdmaMmap, callFor, oneOpen_handle]
    rfl
  refine ⟨xdev, final, ran, second, ?_, failed, failed ▸ not_maps_failed⟩
  rw [second, maps_ok_iff ready]
  intro asked
  rcases asked with null | ⟨direction, _⟩
  · exact absurd null (by decide)
  · exact absurd direction (by decide)

end Vi53xx.System
