import SectorStore.Proofs.Device.Blocks
import SectorStore.Proofs.FileHeader.Stored
import SectorStore.Volume.Basic

/-!
# Reading files and taking up a disk write nothing
-/

namespace SectorStore

open Transfer

namespace FileHeader

variable (header : FileHeader)

/-- A look-up may read the index sector. -/
theorem onlyReads_sectorAt (offset : Nat) : (header.sectorAt offset).OnlyReads := by
  rw [sectorAt]
  split
  · trivial
  split
  · exact onlyReads_ofExcept _
  · dsimp only
    split
    · exact onlyReads_pure _
    · exact (onlyReads_load _).bind fun _ => onlyReads_ofExcept _

/-- Reading blocks writes none. -/
theorem onlyReads_readBlocks (span : Span) (count block : Nat) :
    (header.readBlocks span count block).OnlyReads := by
  induction count generalizing block with
  | zero => exact onlyReads_pure _
  | succ count ih =>
    rw [readBlocks]
    refine (header.onlyReads_sectorAt _).bind fun _ => (onlyReads_load _).bind fun _ => ?_
    exact (ih _).bind fun _ => onlyReads_pure _

theorem onlyReads_readBytes (offset count : Nat) : (header.readBytes offset count).OnlyReads :=
  (onlyReads_ofExcept _).bind fun _ => header.onlyReads_readBlocks _ _ _

theorem onlyReads_readAll : header.readAll.OnlyReads :=
  header.onlyReads_readBytes _ _

theorem onlyReads_readAt (offset : Nat) (buffer : Bytes) :
    (header.readAt offset buffer).OnlyReads :=
  (header.onlyReads_readBytes _ _).bind fun _ => onlyReads_pure _

/-- The list of data sectors may read the index sector. -/
theorem onlyReads_sectors : header.sectors.OnlyReads := by
  rw [sectors]
  split
  · exact onlyReads_pure _
  · refine (onlyReads_ofExcept _).bind fun _ => (onlyReads_load _).bind fun _ => ?_
    exact (onlyReads_ofExcept _).bind fun _ => onlyReads_pure _

/-- A header is read. -/
theorem onlyReads_loadHome (sector : SectorId) : (loadHome sector).OnlyReads := by
  refine OnlyReads.bind ((onlyReads_load _).bind fun data => ?_) fun _ => onlyReads_pure _
  split
  · exact onlyReads_pure _
  · trivial

/-- A header on the image of a device is read on the device. -/
theorem run_loadHome {δ : Type} [BlockDevice δ] [LawfulBlockDevice δ] {device : δ} {count : Nat}
    {header : FileHeader} {sector : SectorId} (hblocks : HasBlocks device count)
    (hlt : sector.toNat < count) (h : (Disk.image device count).header? sector = some header) :
    (loadHome sector).run device = (.ok header, device) :=
  (onlyReads_loadHome sector).run_eq hblocks ((yields_loadHome (by exact hlt) h).2 rfl)

end FileHeader

/-- Taking up a volume changes nothing on the disk. -/
theorem Volume.onlyReads_mount (numSectors : Nat) : (mount numSectors).OnlyReads := by
  refine (FileHeader.onlyReads_loadHome _).bind fun freeMapFile => ?_
  refine (FileHeader.onlyReads_loadHome _).bind fun directoryFile => ?_
  refine freeMapFile.onlyReads_readAll.bind fun _ => ?_
  exact directoryFile.onlyReads_readAll.bind fun _ => onlyReads_pure _

end SectorStore
