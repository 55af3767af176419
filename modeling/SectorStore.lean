import SectorStore.Bytes.Basic
import SectorStore.Bytes.LittleEndian
import SectorStore.Calendar
import SectorStore.Checked
import SectorStore.Clock
import SectorStore.CommandLine.Arguments
import SectorStore.CommandLine.Run
import SectorStore.Device.Basic
import SectorStore.Device.ImageFile
import SectorStore.Device.RamDisk
import SectorStore.Device.Raw
import SectorStore.Directory
import SectorStore.Fault
import SectorStore.FileHeader.Access
import SectorStore.FileHeader.Allocation
import SectorStore.FileHeader.Basic
import SectorStore.FileHeader.Layout
import SectorStore.FileHeader.Listing
import SectorStore.FreeMap.Basic
import SectorStore.FreeMap.Groups
import SectorStore.FreeMap.Marks
import SectorStore.Host.Basic
import SectorStore.Host.PlainDirectory
import SectorStore.Main
import SectorStore.OpenFile
import SectorStore.Pipe.Basic
import SectorStore.Pipe.Waiting
import SectorStore.Proofs.Archive.Basic
import SectorStore.Proofs.Archive.Refinement
import SectorStore.Proofs.Archive.Storing
import SectorStore.Proofs.Bytes.Fields
import SectorStore.Proofs.Calendar.Checked
import SectorStore.Proofs.Calendar.Dates
import SectorStore.Proofs.Calendar.Stamp
import SectorStore.Proofs.CommandLine.Commands
import SectorStore.Proofs.CommandLine.Series
import SectorStore.Proofs.Device.Blocks
import SectorStore.Proofs.Device.Disk
import SectorStore.Proofs.Device.History
import SectorStore.Proofs.Device.Image
import SectorStore.Proofs.Device.Places
import SectorStore.Proofs.Device.Tracking
import SectorStore.Proofs.Directory
import SectorStore.Proofs.FileHeader.Access
import SectorStore.Proofs.FileHeader.Allocation
import SectorStore.Proofs.FileHeader.Both
import SectorStore.Proofs.FileHeader.Codec
import SectorStore.Proofs.FileHeader.Flat
import SectorStore.Proofs.FileHeader.Kinds
import SectorStore.Proofs.FileHeader.Listing
import SectorStore.Proofs.FileHeader.Lookups
import SectorStore.Proofs.FileHeader.Pool
import SectorStore.Proofs.FileHeader.Releasing
import SectorStore.Proofs.FileHeader.Requests
import SectorStore.Proofs.FileHeader.RoundTrip
import SectorStore.Proofs.FileHeader.Sectors
import SectorStore.Proofs.FileHeader.Sited
import SectorStore.Proofs.FileHeader.Stored
import SectorStore.Proofs.FileHeader.Texts
import SectorStore.Proofs.FileHeader.Traffic
import SectorStore.Proofs.FileHeader.Usable
import SectorStore.Proofs.FreeMap.Codec
import SectorStore.Proofs.FreeMap.Groups
import SectorStore.Proofs.FreeMap.Partition
import SectorStore.Proofs.FreeMap.Releasing
import SectorStore.Proofs.FreeMap.RoundTrip
import SectorStore.Proofs.FreeMap.Sets
import SectorStore.Proofs.FreeMap.Taking
import SectorStore.Proofs.Journal.Basic
import SectorStore.Proofs.Journal.Pipes
import SectorStore.Proofs.Journal.Sessions
import SectorStore.Proofs.Journal.Stamps
import SectorStore.Proofs.Journal.Timeline
import SectorStore.Proofs.OpenFile
import SectorStore.Proofs.Pipe.Backs
import SectorStore.Proofs.Pipe.InPlace
import SectorStore.Proofs.Pipe.Lasting
import SectorStore.Proofs.Pipe.Making
import SectorStore.Proofs.Pipe.Queue
import SectorStore.Proofs.Pipe.Ring
import SectorStore.Proofs.Pipe.Steps
import SectorStore.Proofs.Pipe.Straying
import SectorStore.Proofs.Pipe.Waits
import SectorStore.Proofs.Session.Alike
import SectorStore.Proofs.Session.Asking
import SectorStore.Proofs.Session.Attempts
import SectorStore.Proofs.Session.Chunks
import SectorStore.Proofs.Session.Creating
import SectorStore.Proofs.Session.Current
import SectorStore.Proofs.Session.Handles
import SectorStore.Proofs.Session.Interchange
import SectorStore.Proofs.Session.Kinds
import SectorStore.Proofs.Session.Lasting
import SectorStore.Proofs.Session.Ledger
import SectorStore.Proofs.Session.Lifecycle
import SectorStore.Proofs.Session.Naming
import SectorStore.Proofs.Session.Outlasting
import SectorStore.Proofs.Session.Ownership
import SectorStore.Proofs.Session.Queueing
import SectorStore.Proofs.Session.Reachable
import SectorStore.Proofs.Session.Remount
import SectorStore.Proofs.Session.Residue
import SectorStore.Proofs.Session.Safety
import SectorStore.Proofs.Session.Steps
import SectorStore.Proofs.Session.Sums
import SectorStore.Proofs.Session.Waits
import SectorStore.Proofs.Session.Widened
import SectorStore.Proofs.Session.Writing
import SectorStore.Proofs.Text.Cutting
import SectorStore.Proofs.Text.Extension
import SectorStore.Proofs.Text.Fixed
import SectorStore.Proofs.Text.Utf8
import SectorStore.Proofs.Transfer.Always
import SectorStore.Proofs.Transfer.Asking
import SectorStore.Proofs.Transfer.Both
import SectorStore.Proofs.Transfer.Costs
import SectorStore.Proofs.Transfer.InBounds
import SectorStore.Proofs.Transfer.OnlyReads
import SectorStore.Proofs.Transfer.Related
import SectorStore.Proofs.Transfer.Yields
import SectorStore.Proofs.Volume.Alike
import SectorStore.Proofs.Volume.Dormant
import SectorStore.Proofs.Volume.Entries
import SectorStore.Proofs.Volume.Evolution
import SectorStore.Proofs.Volume.Flush
import SectorStore.Proofs.Volume.Format
import SectorStore.Proofs.Volume.Idle
import SectorStore.Proofs.Volume.Intact
import SectorStore.Proofs.Volume.Joining
import SectorStore.Proofs.Volume.Kinds
import SectorStore.Proofs.Volume.LayingOut
import SectorStore.Proofs.Volume.Listing
import SectorStore.Proofs.Volume.Naming
import SectorStore.Proofs.Volume.Reading
import SectorStore.Proofs.Volume.Retired
import SectorStore.Proofs.Volume.Widening
import SectorStore.Refusal
import SectorStore.Sector
import SectorStore.Session.Basic
import SectorStore.Session.Request
import SectorStore.Span
import SectorStore.Text.ByteListing
import SectorStore.Text.CodeRanges
import SectorStore.Text.DefaultIgnorable
import SectorStore.Text.Extension
import SectorStore.Text.Fixed
import SectorStore.Text.GraphemeExtend
import SectorStore.Text.Quoted
import SectorStore.Text.Unprintable
import SectorStore.Text.Utf8
import SectorStore.Transfer
import SectorStore.Volume.Basic
import SectorStore.Volume.Listing
import SectorStore.Volume.Naming
