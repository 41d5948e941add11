import Vi53xx.Driver.Proc
import Vi53xx.Foundation.CTextProperties
import Vi53xx.Foundation.Runs
import Vi53xx.Foundation.SlotTable
import Vi53xx.Lib.Es5341
import Vi53xx.Driver.RegistryProperties
import Vi53xx.Foundation.HandleMap
import Vi53xx.Lib.BoardsProperties
import Vi53xx.Lib.Calls
import Vi53xx.Lib.CloseProperties
import Vi53xx.Lib.DescriptorProperties
import Vi53xx.Lib.Es5341Properties
import Vi53xx.Lib.HandleTableRefinement
import Vi53xx.System.Discovery
import Vi53xx.System.Mapping
import Vi53xx.Driver.ChannelInit
import Vi53xx.Driver.ChannelInitProperties
import Vi53xx.Driver.MmapProperties
import Vi53xx.Lib.Requests
import Vi53xx.System.BufferTransfers
import Vi53xx.System.ChannelMmap
import Vi53xx.Lib.IndexProperties
import Vi53xx.Lib.CheckProperties
import Vi53xx.Lib.LatchProperties
import Vi53xx.Lib.BoardTableProperties
import Vi53xx.Lib.BoardRequests
import Vi53xx.Driver.DeviceListProperties
import Vi53xx.Driver.LeftoverProperties
import Vi53xx.Driver.DeviceNumberProperties
import Vi53xx.Driver.CacheProperties
import Vi53xx.System.TransferReports
import Vi53xx.Lib.DuplicateProperties
import Vi53xx.Driver.StartProperties
import Vi53xx.Driver.ChainProperties
import Vi53xx.Driver.LedProperties
import Vi53xx.Driver.FailedProbeProperties
import Vi53xx.Driver.ProbeMemory
import Vi53xx.Driver.BufferStoreProperties
import Vi53xx.System.RegisterRequests
import Vi53xx.System.MmapReturns
import Vi53xx.Lib.IdSetProperties
import Vi53xx.Lib.GrantProperties
import Vi53xx.Lib.ConflictProperties
import Vi53xx.Lib.MappingProperties
import Vi53xx.Lib.DiConfigProperties
import Vi53xx.Lib.DoConfigProperties
import Vi53xx.Lib.ParvarProperties
import Vi53xx.Driver.BarsProperties
import Vi53xx.Driver.DumpProperties
import Vi53xx.Driver.VersionProperties
import Vi53xx.Foundation.Ledger
import Vi53xx.Foundation.Unwinding
import Vi53xx.Driver.DeviceMap
import Vi53xx.Driver.DeviceMapProperties
import Vi53xx.Driver.FreeResourceProperties
import Vi53xx.Driver.HeldMemoryProperties
import Vi53xx.Driver.Machine
import Vi53xx.Driver.MachineProperties
import Vi53xx.Driver.FrameProperties
import Vi53xx.Driver.FreedOnceProperties
import Vi53xx.Driver.InsideProperties
import Vi53xx.Driver.DeviceFiles
import Vi53xx.Driver.IsolationProperties
import Vi53xx.Driver.BystanderProperties
import Vi53xx.Driver.RecordProperties
import Vi53xx.Driver.CrashProperties
import Vi53xx.Lib.ChannelRequests
import Vi53xx.Lib.Heap
import Vi53xx.Lib.HeapProperties
import Vi53xx.System.Stack
import Vi53xx.System.BoardCalls
import Vi53xx.System.StackRefinement
import Vi53xx.Foundation.Family
import Vi53xx.System.StackRuns
import Vi53xx.System.Processes
import Vi53xx.System.BoardsApart
import Vi53xx.System.ScopeSettings
import Vi53xx.System.ModuleSessions
import Vi53xx.System.Neighbours
