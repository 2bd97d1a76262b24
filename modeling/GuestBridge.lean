import GuestBridge.Backend.Unix
import GuestBridge.Backend.Unsupported
import GuestBridge.Inspect
import GuestBridge.Native.GhostTag
import GuestBridge.Report
import GuestBridge.Workspace.Behaviour
import GuestBridge.Workspace.Files
import GuestBridge.Workspace.Members
import GuestBridge.Workspace.Tags
import GuestBridge.Proofs.Assignability
import GuestBridge.Proofs.TagHistory
import GuestBridge.Proofs.CompareAndSwap
import GuestBridge.Proofs.FieldStorage
import GuestBridge.Proofs.Resolution
import GuestBridge.Proofs.RegionCalls
import GuestBridge.Proofs.PressureBalance
import GuestBridge.Proofs.RegionReleases
import GuestBridge.Proofs.MemberReads
import GuestBridge.Proofs.RefusedCalls
import GuestBridge.Proofs.Transfers
import GuestBridge.Proofs.TransferDestinations
import GuestBridge.Proofs.FileCopies
import GuestBridge.Proofs.Appending
import GuestBridge.Proofs.BaseRecords
import GuestBridge.Proofs.RedirectedPressure
import GuestBridge.Proofs.MappingRules
import GuestBridge.Proofs.MappingFaults
import GuestBridge.Proofs.ReadAhead
import GuestBridge.Proofs.ArrayCasts
import GuestBridge.Proofs.Descriptors
import GuestBridge.Proofs.ParameterLists
import GuestBridge.Proofs.FieldSignatures
import GuestBridge.Proofs.Linking
import GuestBridge.Proofs.MemberCalls
import GuestBridge.Proofs.ClosedStreams
import GuestBridge.Proofs.PipeRuns
import GuestBridge.Proofs.FileOpenings
import GuestBridge.Proofs.ExportNames
import GuestBridge.Proofs.LibraryLifetimes
import GuestBridge.Proofs.UnsupportedCalls
import GuestBridge.Proofs.StreamPositions
import GuestBridge.Proofs.StatusCodes
import GuestBridge.Proofs.PlanEntries
