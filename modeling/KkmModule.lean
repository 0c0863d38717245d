import KkmModule.Foundation.GuardedRun
import KkmModule.Driver.Structures
import KkmModule.Driver.MemoryPages
import KkmModule.Driver.Mmu
import KkmModule.Driver.MemorySlots
import KkmModule.Driver.GuestAddress
import KkmModule.Driver.GuestMapSync
import KkmModule.Driver.PageFault
import KkmModule.Driver.PrivateEntries
import KkmModule.Foundation.BlockOwnership
import KkmModule.Foundation.SlotTable
import KkmModule.Driver.Kontext
import KkmModule.Driver.Kontainer
import KkmModule.Driver.Lifecycle
import KkmModule.Driver.InstalledFiles
import KkmModule.Driver.KontextCount
import KkmModule.Driver.ReferenceCount
import KkmModule.Driver.ModuleLife
import KkmModule.Driver.HandlerReadiness
import KkmModule.Driver.HandlerSteps
import KkmModule.Driver.HandlerRuns
import KkmModule.Driver.HandlerSafety
import KkmModule.Driver.KontextRun
import KkmModule.Driver.HandlerWrites
import KkmModule.Driver.RunRestart
import KkmModule.Driver.KontextIoctls
import KkmModule.Driver.KontextReuse
import KkmModule.Driver.SyscallReply
import KkmModule.Driver.FaultWriteBack
import KkmModule.Driver.NativeState
import KkmModule.Driver.GuestTlb
import KkmModule.Driver.TlbIsolation
import KkmModule.Driver.TlbShootdown
import KkmModule.Foundation.X86Blocks
import KkmModule.Driver.SwitchCode
import KkmModule.Driver.ContextSwitch
import KkmModule.Driver.NmiWindow
import KkmModule.Driver.EntryValues
import KkmModule.Driver.HostSwitch
import KkmModule.Driver.HostRestore
import KkmModule.Driver.SlotMap
import KkmModule.Driver.PrivateCopy
import KkmModule.Driver.AddOutcome
import KkmModule.Driver.KernelHalf
import KkmModule.Driver.FailedRequests
import KkmModule.Driver.PayloadBases
import KkmModule.Driver.AddressSpaces
import KkmModule.Foundation.BlockLedger
import KkmModule.Driver.KontainerPages
import KkmModule.Driver.MonitorImage
import KkmModule.Driver.IoPorts
import KkmModule.Driver.RepeatedFaults
import KkmModule.Driver.RunReport
import KkmModule.Driver.RecordBytes
import KkmModule.Driver.RunPageRegisters
import KkmModule.Foundation.X86Decode
import KkmModule.Foundation.MemoryImage
import KkmModule.Driver.EntryFormats
import KkmModule.Driver.IdtDescr
import KkmModule.Driver.RelocatedCode
import KkmModule.Driver.ModuleInit
import KkmModule.Driver.LoadedTables
import KkmModule.Driver.TableChain
import KkmModule.Foundation.PageRights
import KkmModule.Foundation.FrameOwnership
import KkmModule.Driver.GuestContents
import KkmModule.Driver.GuestTables
import KkmModule.Driver.TableCreation
import KkmModule.Driver.TableWorld
import KkmModule.Driver.GuestReach
import KkmModule.Driver.KxAreaView
import KkmModule.Foundation.X86Calls
import KkmModule.Driver.SwitchWords
import KkmModule.Driver.SwitchedRuns
import KkmModule.Driver.InterruptForward
import KkmModule.Driver.SavedThreads
import KkmModule.Driver.ExitTables
import KkmModule.Driver.GuestPages
import KkmModule.Driver.KernelHalfView
import KkmModule.Foundation.X86Footprint
import KkmModule.Driver.TripWrites
import KkmModule.Driver.RedZones
