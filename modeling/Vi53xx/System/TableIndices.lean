import Vi53xx.Driver.ChannelInitProperties
import Vi53xx.Driver.XdmaCtrlProperties
import Vi53xx.Lib.Requests

/-! Requests that leave the tables of the driver, and what the library passes on. -/

set_option autoImplicit false

namespace Vi53xx.System

open Foundation Driver

/-- Every request of a run stays inside the tables, or is refused, exactly when
every request names entries of the tables. -/
theorem requests_confined_iff (devices : Nat → XdmaDev) (state : Kernel)
    (calls : List DriverCall) :
    EachStep (driverStep devices) (Confined devices) state calls ↔
      EachStep (driverStep devices) (NamesEntries devices) state calls := by
  constructor
  · exact EachStep.mono fun _ _ => confined_iff.mp
  · exact EachStep.mono fun _ _ => confined_iff.mpr

def allMapped : Fin xdmaBarNum → Option Nat := fun bar => some bar.val

def channelZero : XdmaInfo := { XdmaInfo.cleared with buf := 1, len := 1 }

/-- The library passes the write on, and the driver reads the entry before the first. -/
theorem write_leaves_tables :
    ∃ xdev final,
      xdmaChannelInit (fun _ => some 0) (.allocated 0 allMapped) .booted = (.ok xdev, final) ∧
      Lib.vi53xxXdmaWrite (some channelZero) = .ok (rtpcIoctlXdma .init, channelZero) ∧
      ¬ EachStep (driverStep fun _ => xdev) (Confined fun _ => xdev) final
        [⟨0, .ioctl (rtpcIoctlXdma .init) channelZero .complete⟩] := by
  obtain ⟨xdev, final, probed, _⟩ :=
    @xdmaChannelInit_run (fun _ => some 0) 1 0 allMapped .booted rfl
  refine ⟨xdev, final, probed, by decide, ?_⟩
  rintro ⟨confined, _⟩
  have names := confined_iff.mp confined
  have number : ChannelNumber channelZero.channel := names (by decide) rfl .init (by decide)
  exact absurd number (by decide)

end Vi53xx.System
