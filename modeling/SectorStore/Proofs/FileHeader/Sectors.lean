import Mathlib.Data.List.Nodup
import SectorStore.FileHeader.Access
import SectorStore.Proofs.FileHeader.Codec
import SectorStore.Proofs.Transfer.Yields

/-!
# The sectors of a file on a disk

What a header says about a disk, without the transfers that find it out: `dataSectors` are the
sectors with the bytes of the file, `allSectors` also counts the index sector. A header is `Placed`
on a disk if it is consistent and its sectors are distinct and on the disk. It is `Sited` if at
least the index sector differs from the others, and `Inside` the disk whatever sectors are the same.
For the look-ups of the store to answer what the lists say, that is enough
(`Inside.yields_sectorAt`, `Inside.yields_sectors`).

`byteAt` and `contents` read a file as one byte string.
-/

namespace SectorStore.FileHeader

variable {header : FileHeader} {disk disk' : Disk}

/-- The sectors with the bytes of the file, in order. -/
def dataSectors (header : FileHeader) (disk : Disk) : List SectorId :=
  match header.map with
  | .direct sectors => sectors
  | .indirect sectors index =>
    sectors.toList ++
      (SectorTable.ofSector (disk.get index)).take (header.sectorCount - numDirect)

/-- The index sector, if there is one. -/
def indexSectors (header : FileHeader) : List SectorId :=
  match header.map with
  | .direct _ => []
  | .indirect _ index => [index]

/-- The sectors that the file takes from the disk besides that of its header. -/
def allSectors (header : FileHeader) (disk : Disk) : List SectorId :=
  header.dataSectors disk ++ header.indexSectors

/-- The header is consistent, and its sectors are distinct sectors of the disk. -/
structure Placed (header : FileHeader) (disk : Disk) : Prop where
  /-- The map has the shape that the length asks for. -/
  consistent : header.IsConsistent
  /-- No sector is used twice. -/
  nodup : (header.allSectors disk).Nodup
  /-- The sectors are on the disk. -/
  lt_count : ∀ s ∈ header.allSectors disk, s.toNat < disk.count

/-- The header is consistent, its sectors are on the disk, and the index sector holds no bytes of
the file. Other sectors may be used twice. -/
structure Sited (header : FileHeader) (disk : Disk) : Prop where
  /-- The map has the shape that the length asks for. -/
  consistent : header.IsConsistent
  /-- The sectors are on the disk. -/
  lt_count : ∀ s ∈ header.allSectors disk, s.toNat < disk.count
  /-- The index sector is none of those with bytes. -/
  notMem_dataSectors : ∀ s ∈ header.indexSectors, s ∉ header.dataSectors disk

/-- The header is consistent, and its sectors are on the disk. Any of them may be used twice. -/
structure Inside (header : FileHeader) (disk : Disk) : Prop where
  /-- The map has the shape that the length asks for. -/
  consistent : header.IsConsistent
  /-- The sectors are on the disk. -/
  lt_count : ∀ s ∈ header.allSectors disk, s.toNat < disk.count

/-- An index sector of its own is no condition for the sectors to be on the disk. -/
theorem Sited.inside (h : header.Sited disk) : header.Inside disk :=
  ⟨h.consistent, h.lt_count⟩

theorem Placed.inside (h : header.Placed disk) : header.Inside disk :=
  ⟨h.consistent, h.lt_count⟩

/-- A consistent header has as many data sectors as its length asks for. -/
theorem IsConsistent.length_dataSectors (h : header.IsConsistent) (disk : Disk) :
    (header.dataSectors disk).length = header.sectorCount := by
  rw [IsConsistent] at h
  rw [dataSectors]
  cases hmap : header.map with
  | direct sectors =>
    simp only [hmap] at h
    exact h.1
  | indirect sectors index =>
    simp only [hmap] at h
    simp only [List.length_append, Vector.length_toList, List.length_take,
      SectorTable.length_ofSector]
    rw [maxSectors_eq] at h
    rw [numDirect_eq] at h ⊢
    rw [indexCapacity_eq]
    omega

/-- An index sector is there exactly if the sectors are more than a header can list. -/
theorem IsConsistent.length_indexSectors (h : header.IsConsistent) :
    header.indexSectors.length = if numDirect < header.sectorCount then 1 else 0 := by
  rw [IsConsistent] at h
  rw [indexSectors]
  cases hmap : header.map with
  | direct sectors =>
    simp only [hmap] at h
    rw [if_neg (Nat.not_lt.2 h.2), List.length_nil]
  | indirect sectors index =>
    simp only [hmap] at h
    rw [if_pos h.1, List.length_singleton]

/-- With its index sector, a file takes as many sectors as its length asks for. -/
theorem IsConsistent.length_allSectors (h : header.IsConsistent) (disk : Disk) :
    (header.allSectors disk).length = totalSectorsFor header.length := by
  rw [allSectors, List.length_append, h.length_dataSectors, h.length_indexSectors,
    totalSectorsFor, sectorCount]

/-! ## What the lists depend on -/

/-- The data sectors depend on the index sector only. -/
theorem dataSectors_congr (h : ∀ s ∈ header.indexSectors, disk'.get s = disk.get s) :
    header.dataSectors disk' = header.dataSectors disk := by
  rw [dataSectors, dataSectors]
  split
  · rfl
  · next sectors index hmap =>
    rw [h index (by simp [indexSectors, hmap])]

/-- The sectors of a file depend on the disk through the index sector only. -/
theorem allSectors_congr (h : ∀ s ∈ header.indexSectors, disk'.get s = disk.get s) :
    header.allSectors disk' = header.allSectors disk := by
  rw [allSectors, allSectors, dataSectors_congr h]

theorem indexSectors_subset (header : FileHeader) (disk : Disk) :
    header.indexSectors ⊆ header.allSectors disk :=
  List.subset_append_right _ _

theorem dataSectors_subset (header : FileHeader) (disk : Disk) :
    header.dataSectors disk ⊆ header.allSectors disk :=
  List.subset_append_left _ _

/-- A header stays placed on a disk with the same index sector. -/
theorem Placed.congr (h : header.Placed disk) (hcount : disk'.count = disk.count)
    (hindex : ∀ s ∈ header.indexSectors, disk'.get s = disk.get s) : header.Placed disk' where
  consistent := h.consistent
  nodup := allSectors_congr hindex ▸ h.nodup
  lt_count := by
    rw [allSectors_congr hindex, hcount]
    exact h.lt_count

/-- The index sector holds no bytes of the file. -/
theorem Placed.notMem_dataSectors_of_mem_indexSectors (h : header.Placed disk) {s : SectorId}
    (hs : s ∈ header.indexSectors) : s ∉ header.dataSectors disk := by
  intro hmem
  exact (List.nodup_append.1 h.nodup).2.2 s hmem s hs rfl

/-- Where all sectors differ, the index sector differs from those with bytes. -/
theorem Placed.sited (h : header.Placed disk) : header.Sited disk :=
  ⟨h.consistent, h.lt_count, fun _ => h.notMem_dataSectors_of_mem_indexSectors⟩

/-- A header stays sited on a disk with the same index sector. -/
theorem Sited.congr (h : header.Sited disk) (hcount : disk'.count = disk.count)
    (hindex : ∀ s ∈ header.indexSectors, disk'.get s = disk.get s) : header.Sited disk' where
  consistent := h.consistent
  lt_count := by
    rw [allSectors_congr hindex, hcount]
    exact h.lt_count
  notMem_dataSectors := dataSectors_congr hindex ▸ h.notMem_dataSectors

/-- A header's map is determined by the sectors with the bytes of the file, on whatever disk, and by
the index sector. -/
theorem map_eq_of_sectors_eq {header' : FileHeader}
    (hdata : header'.dataSectors disk' = header.dataSectors disk)
    (hindex : header'.indexSectors = header.indexSectors) : header'.map = header.map := by
  rw [dataSectors, dataSectors] at hdata
  rw [indexSectors, indexSectors] at hindex
  rcases hmap : header.map with sectors | ⟨sectors, index⟩ <;>
    rcases hmap' : header'.map with sectors' | ⟨sectors', index'⟩ <;>
    simp only [hmap, hmap'] at hdata hindex
  · rw [hdata]
  · cases hindex
  · cases hindex
  · -- as many sectors are listed in the one header as in the other
    have hlisted : sectors'.toList = sectors.toList :=
      (List.append_inj hdata (by rw [Vector.length_toList, Vector.length_toList])).1
    rw [Vector.toList_inj.1 hlisted, (List.cons.inj hindex).1]

/-! ## Look-ups -/

/-- The data sector of a block of the file. -/
def sectorOf (header : FileHeader) (disk : Disk) (block : Nat) : SectorId :=
  (header.dataSectors disk).getD block 0

/-- The sector of a block is one of those with the bytes of the file. -/
theorem IsConsistent.sectorOf_mem (h : header.IsConsistent) (disk : Disk) {block : Nat}
    (hblock : block < header.sectorCount) :
    header.sectorOf disk block ∈ header.dataSectors disk := by
  rw [← h.length_dataSectors disk] at hblock
  rw [sectorOf, List.getD_eq_getElem?_getD, List.getElem?_eq_getElem hblock]
  exact List.getElem_mem hblock

theorem Sited.sectorOf_mem (h : header.Sited disk) {block : Nat}
    (hblock : block < header.sectorCount) :
    header.sectorOf disk block ∈ header.dataSectors disk :=
  h.consistent.sectorOf_mem disk hblock

/-- Different blocks of a file are in different sectors. -/
theorem Placed.sectorOf_inj (h : header.Placed disk) {block block' : Nat}
    (hblock : block < header.sectorCount) (hblock' : block' < header.sectorCount)
    (heq : header.sectorOf disk block = header.sectorOf disk block') : block = block' := by
  rw [← h.consistent.length_dataSectors disk] at hblock hblock'
  simp only [sectorOf, List.getD_eq_getElem?_getD, List.getElem?_eq_getElem hblock,
    List.getElem?_eq_getElem hblock', Option.getD_some] at heq
  have hnodup : (header.dataSectors disk).Nodup := (List.nodup_append.1 h.nodup).1
  exact hnodup.getElem_inj_iff.1 heq

/-- The sector of a block is on the disk. -/
theorem Inside.sectorOf_lt (h : header.Inside disk) {block : Nat}
    (hblock : block < header.sectorCount) : (header.sectorOf disk block).toNat < disk.count :=
  h.lt_count _ (header.dataSectors_subset disk (h.consistent.sectorOf_mem disk hblock))

theorem Sited.sectorOf_lt (h : header.Sited disk) {block : Nat}
    (hblock : block < header.sectorCount) : (header.sectorOf disk block).toNat < disk.count :=
  h.inside.sectorOf_lt hblock

/-- A position below the length is in a block of the file. -/
theorem div_lt_sectorCount {offset : Nat} (h : offset < header.length) :
    offset / sectorSize < header.sectorCount := by
  rw [sectorCount, sectorsFor, sectorSize_eq]
  omega

/-- A look-up inside a table gives the number in the slot. -/
theorem entry_eq_ok {table : SectorTable} {slot : Nat} (h : slot < table.length) :
    table.entry slot = .ok (table.getD slot 0) := by
  rw [SectorTable.entry, List.getD_eq_getElem?_getD, List.getElem?_eq_getElem h]
  rfl

/-- The sector of a position among the first `numDirect` blocks is known without the disk. -/
theorem IsConsistent.sectorAt_eq_pure (h : header.IsConsistent) (disk : Disk) {offset : Nat}
    (hoffset : offset < header.length) (hdirect : offset / sectorSize < numDirect) :
    header.sectorAt offset = pure (header.sectorOf disk (offset / sectorSize)) := by
  have hblock := div_lt_sectorCount hoffset
  rw [IsConsistent] at h
  rw [sectorAt, if_neg (Nat.not_le.2 hoffset), sectorOf, dataSectors]
  cases hmap : header.map with
  | direct sectors =>
    simp only [hmap] at h ⊢
    rw [entry_eq_ok (h.1.symm ▸ hblock), Transfer.liftM_ok]
  | indirect sectors index =>
    simp only [dif_pos hdirect]
    rw [List.getD_eq_getElem?_getD, List.getElem?_append_left (by simpa using hdirect)]
    simp [hdirect]

/-- For the sector of a position behind them the index sector is read. -/
theorem IsConsistent.sectorAt_eq_load (h : header.IsConsistent) {offset : Nat}
    (hoffset : offset < header.length) (hindirect : numDirect ≤ offset / sectorSize) :
    ∃ index, header.indexSectors = [index] ∧
      header.sectorAt offset = (do
        let sector ← Transfer.load index
        return (SectorTable.ofSector sector).getD (offset / sectorSize - numDirect) 0) ∧
      ∀ disk : Disk, header.sectorOf disk (offset / sectorSize) =
        (SectorTable.ofSector (disk.get index)).getD (offset / sectorSize - numDirect) 0 := by
  have hblock := div_lt_sectorCount hoffset
  have hmax := h.sectorCount_le
  rw [IsConsistent] at h
  rw [sectorAt, if_neg (Nat.not_le.2 hoffset), indexSectors]
  simp only [sectorOf, dataSectors]
  cases hmap : header.map with
  | direct sectors =>
    -- a header that lists all sectors has none behind the first `numDirect`
    simp only [hmap] at h
    omega
  | indirect sectors index =>
    have hslot : offset / sectorSize - numDirect < header.sectorCount - numDirect := by omega
    have htable : offset / sectorSize - numDirect < indexCapacity := by
      rw [maxSectors_eq] at hmax
      rw [indexCapacity_eq, numDirect_eq] at *
      omega
    refine ⟨index, rfl, ?_, fun disk => ?_⟩
    · simp only [dif_neg (Nat.not_lt.2 hindirect)]
      congr 1
      funext sector
      rw [entry_eq_ok (by rwa [SectorTable.length_ofSector]), Transfer.liftM_ok]
    · rw [List.getD_eq_getElem?_getD, List.getElem?_append_right (by simpa using hindirect),
        Vector.length_toList, List.getElem?_take_of_lt hslot, ← List.getD_eq_getElem?_getD]

/-- The look-up of an offset gives the sector of its block and leaves the disk alone. -/
theorem Inside.yields_sectorAt (h : header.Inside disk) {offset : Nat}
    (hoffset : offset < header.length) {post : SectorId → Disk → Prop} :
    (header.sectorAt offset).Yields disk post ↔
      post (header.sectorOf disk (offset / sectorSize)) disk := by
  rcases Nat.lt_or_ge (offset / sectorSize) numDirect with hdirect | hindirect
  · rw [h.consistent.sectorAt_eq_pure disk hoffset hdirect, Transfer.yields_pure]
  · obtain ⟨index, hindex, hload, hsector⟩ := h.consistent.sectorAt_eq_load hoffset hindirect
    have hlt : index.toNat < disk.count :=
      h.lt_count _ (header.indexSectors_subset disk (by simp [hindex]))
    rw [hload, Transfer.yields_bind, Transfer.yields_load hlt, Transfer.yields_pure, hsector]

theorem Sited.yields_sectorAt (h : header.Sited disk) {offset : Nat}
    (hoffset : offset < header.length) {post : SectorId → Disk → Prop} :
    (header.sectorAt offset).Yields disk post ↔
      post (header.sectorOf disk (offset / sectorSize)) disk :=
  h.inside.yields_sectorAt hoffset

/-- The header of a file with an index sector tells how many sectors are listed there. -/
theorem IsConsistent.indirectCount_eq (h : header.IsConsistent)
    {sectors : Vector SectorId numDirect}
    {index : SectorId} (hmap : header.map = .indirect sectors index) :
    header.indirectCount = .ok (header.sectorCount - numDirect) := by
  simp only [IsConsistent, hmap] at h
  exact if_neg (Nat.not_lt.2 (Nat.le_of_lt h.1))

/-- An index sector has room for the sectors that are listed there. -/
theorem IsConsistent.front_ofSector (h : header.IsConsistent) (sector : Sector) :
    SectorTable.front (SectorTable.ofSector sector) (header.sectorCount - numDirect) =
      .ok ((SectorTable.ofSector sector).take (header.sectorCount - numDirect)) := by
  have hmax := h.sectorCount_le
  apply if_pos
  rw [SectorTable.length_ofSector, indexCapacity_eq, numDirect_eq]
  rw [maxSectors_eq] at hmax
  omega

/-- The index sector is on the disk. -/
theorem Inside.index_lt_count (h : header.Inside disk) {sectors : Vector SectorId numDirect}
    {index : SectorId} (hmap : header.map = .indirect sectors index) :
    index.toNat < disk.count :=
  h.lt_count _ (header.indexSectors_subset disk (by simp [indexSectors, hmap]))

/-- To list the sectors, at most the index sector is read. -/
theorem IsConsistent.yields_sectors (h : header.IsConsistent)
    (hindex : ∀ s ∈ header.indexSectors, s.toNat < disk.count)
    {post : List SectorId → Disk → Prop} :
    header.sectors.Yields disk post ↔ post (header.dataSectors disk) disk := by
  rw [sectors, dataSectors]
  cases hmap : header.map with
  | direct sectors => simp only [Transfer.yields_pure]
  | indirect sectors index =>
    have hlt : index.toNat < disk.count := hindex index (by simp [indexSectors, hmap])
    simp only [h.indirectCount_eq hmap, Transfer.liftM_ok, pure_bind,
      Transfer.yields_bind, Transfer.yields_load hlt,
      h.front_ofSector, Transfer.yields_pure]

/-- The list of sectors is that of the sectors with bytes, and the disk is left alone. -/
theorem Inside.yields_sectors (h : header.Inside disk) {post : List SectorId → Disk → Prop} :
    header.sectors.Yields disk post ↔ post (header.dataSectors disk) disk :=
  h.consistent.yields_sectors fun s hs => h.lt_count s (header.indexSectors_subset disk hs)

/-! ## The bytes of a file -/

/-- Where in its sector the byte at a position of a file is. -/
abbrev inSector (i : Nat) : Fin sectorSize :=
  ⟨i % sectorSize, Nat.mod_lt i sectorSize_pos⟩

/-- The byte at a position of the file is at its remainder in its sector. -/
theorem get_inSector (sector : Sector) {i : Nat} (h : i % sectorSize < sectorSize) :
    sector.get (inSector i) = sector[i % sectorSize] :=
  rfl

theorem get_zero_inSector (i : Nat) : Sector.zero.get (inSector i) = 0 := by
  rw [get_inSector _ (Nat.mod_lt i sectorSize_pos), Sector.zero, Vector.getElem_replicate]

/-- The byte at a position of the data sectors, which may be behind the end of the file. -/
def byteAt (header : FileHeader) (disk : Disk) (i : Nat) : UInt8 :=
  (disk.get (header.sectorOf disk (i / sectorSize))).get (inSector i)

/-- The bytes of the file. -/
def contents (header : FileHeader) (disk : Disk) : Bytes :=
  (List.range header.length).map (header.byteAt disk)

/-- A file has as many bytes as its header says. -/
@[simp]
theorem length_contents (header : FileHeader) (disk : Disk) :
    (header.contents disk).length = header.length := by
  simp [contents]

/-- The bytes of a file, one by one, are those in its sectors. -/
theorem getElem_contents {i : Nat} (h : i < (header.contents disk).length) :
    (header.contents disk)[i] = header.byteAt disk i := by
  simp [contents]

/-- The bytes of a file depend on its sectors only. -/
theorem Placed.byteAt_congr (h : header.Placed disk)
    (hsame : ∀ s ∈ header.allSectors disk, disk'.get s = disk.get s) {i : Nat}
    (hi : i / sectorSize < header.sectorCount) : header.byteAt disk' i = header.byteAt disk i := by
  have hdata : header.dataSectors disk' = header.dataSectors disk :=
    dataSectors_congr fun s hs => hsame s (header.indexSectors_subset disk hs)
  have hsector :
      header.sectorOf disk' (i / sectorSize) = header.sectorOf disk (i / sectorSize) := by
    rw [sectorOf, hdata, sectorOf]
  simp only [byteAt, hsector, hsame _ (header.dataSectors_subset disk (h.sited.sectorOf_mem hi))]

/-- A file has the same bytes on a disk with the same sectors of the file. -/
theorem Placed.contents_congr (h : header.Placed disk)
    (hsame : ∀ s ∈ header.allSectors disk, disk'.get s = disk.get s) :
    header.contents disk' = header.contents disk := by
  rw [contents, contents]
  apply List.map_congr_left
  intro i hi
  exact h.byteAt_congr hsame (div_lt_sectorCount (List.mem_range.1 hi))

/-! ## Headers of the same sectors -/

/-- Two headers of files of the same length in the same sectors; they may tell different times. -/
structure SameLayout (header header' : FileHeader) : Prop where
  /-- The lengths are the same. -/
  numBytes_eq : header'.numBytes = header.numBytes
  /-- The sectors are the same. -/
  map_eq : header'.map = header.map

variable {header' : FileHeader}

/-- Type, times and home do not touch the layout. -/
theorem sameLayout_describe (header : FileHeader) (kind now : String) (sector : SectorId) :
    header.SameLayout ((header.describe kind now).setHome sector) := by
  simp only [setHome, describe, setKind, setCreated, setModified, setVisited]
  exact ⟨rfl, rfl⟩

theorem sameLayout_setHome (header : FileHeader) (sector : SectorId) :
    header.SameLayout (header.setHome sector) := by
  simp only [setHome]
  exact ⟨rfl, rfl⟩

theorem sameLayout_setModified (header : FileHeader) (now : String) :
    header.SameLayout (header.setModified now) := by
  simp only [setModified]
  exact ⟨rfl, rfl⟩

theorem sameLayout_forget (header : FileHeader) :
    header.SameLayout { header with home := none } :=
  ⟨rfl, rfl⟩

namespace SameLayout

theorem length_eq (h : header.SameLayout header') : header'.length = header.length := by
  rw [length, h.numBytes_eq, length]

theorem sectorCount_eq (h : header.SameLayout header') :
    header'.sectorCount = header.sectorCount := by
  rw [sectorCount, h.length_eq, sectorCount]

theorem isConsistent (h : header.SameLayout header') (hcons : header.IsConsistent) :
    header'.IsConsistent := by
  rw [IsConsistent] at hcons ⊢
  rwa [h.map_eq, h.sectorCount_eq]

/-- Headers of one layout have their bytes in the same sectors. -/
theorem dataSectors_eq (h : header.SameLayout header') (disk : Disk) :
    header'.dataSectors disk = header.dataSectors disk := by
  rw [dataSectors, h.map_eq, h.sectorCount_eq, dataSectors]

theorem indexSectors_eq (h : header.SameLayout header') :
    header'.indexSectors = header.indexSectors := by
  rw [indexSectors, h.map_eq, indexSectors]

theorem allSectors_eq (h : header.SameLayout header') (disk : Disk) :
    header'.allSectors disk = header.allSectors disk := by
  rw [allSectors, h.dataSectors_eq, h.indexSectors_eq, allSectors]

/-- Headers of one layout are placed on the same disks. -/
theorem placed (h : header.SameLayout header') (hplaced : header.Placed disk) :
    header'.Placed disk where
  consistent := h.isConsistent hplaced.consistent
  nodup := h.allSectors_eq disk ▸ hplaced.nodup
  lt_count := h.allSectors_eq disk ▸ hplaced.lt_count

/-- Headers of one layout read the same bytes. -/
theorem byteAt_eq (h : header.SameLayout header') (disk : Disk) (i : Nat) :
    header'.byteAt disk i = header.byteAt disk i := by
  simp only [byteAt, sectorOf, h.dataSectors_eq]

theorem contents_eq (h : header.SameLayout header') (disk : Disk) :
    header'.contents disk = header.contents disk := by
  rw [contents, h.length_eq, contents]
  exact List.map_congr_left fun i _ => h.byteAt_eq disk i

end SameLayout

end SectorStore.FileHeader
