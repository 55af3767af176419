import SectorStore.Proofs.Directory
import SectorStore.Proofs.FileHeader.Allocation
import SectorStore.Proofs.FileHeader.Stored
import SectorStore.Proofs.FreeMap.Codec
import SectorStore.Proofs.FreeMap.Partition
import SectorStore.Volume.Basic

/-!
# Intact volumes

A volume in memory and the disk under it belong together as `volume.Intact disk lost` says: the
headers of the two tables and of the files are on the disk, and the taken sectors are shared out
among their owners. The file of the free map may be too short for all marks, as it is where a disk
was laid out with fewer sectors than it was taken up with. The owners are the tables, the files, the
two sectors of the tables' headers, and, for sectors that were taken and belong to no file, the list
`lost`.

Of the sectors of an owner those with headers and numbers of other sectors (`metaSectors`) matter
for the invariant, those with bytes of the file (`dataSectors`) do not, so that writing to a file
keeps it (`Intact.congr`).
-/

namespace SectorStore

/-- Those to whom the taken sectors of a volume belong. -/
inductive Owner where
  /-- The headers of the tables. -/
  | headers
  /-- The file with the free map. -/
  | freeMapFile
  /-- The file with the directory. -/
  | directoryFile
  /-- Nobody any more. -/
  | lost
  /-- The file of an entry of the directory. -/
  | entry (i : Fin numEntries)
deriving DecidableEq

namespace Volume

/-- The header of the file of an entry, as it is on the disk. -/
def header? (volume : Volume) (disk : Disk) (i : Fin numEntries) : Option FileHeader :=
  if (volume.directory.entry i).isUnused then none
  else disk.header? (volume.directory.entry i).header

/-- The bytes of the file of an entry. -/
def contents? (volume : Volume) (disk : Disk) (i : Fin numEntries) : Option Bytes :=
  (volume.header? disk i).map (·.contents disk)

/-- The sectors of an owner that hold headers or numbers of sectors. -/
def metaSectors (volume : Volume) (disk : Disk) : Owner → List SectorId
  | .headers => [freeMapSector, directorySector]
  | .freeMapFile => volume.freeMapFile.indexSectors
  | .directoryFile => volume.directoryFile.indexSectors
  | .lost => []
  | .entry i =>
    match volume.header? disk i with
    | some header => (volume.directory.entry i).header :: header.indexSectors
    | none => []

/-- The sectors of an owner that hold bytes. -/
def dataSectors (volume : Volume) (disk : Disk) (lost : List SectorId) : Owner → List SectorId
  | .headers => []
  | .freeMapFile => volume.freeMapFile.dataSectors disk
  | .directoryFile => volume.directoryFile.dataSectors disk
  | .lost => lost
  | .entry i =>
    match volume.header? disk i with
    | some header => header.dataSectors disk
    | none => []

/-- All sectors of an owner. -/
def sectorsOf (volume : Volume) (disk : Disk) (lost : List SectorId) (o : Owner) : List SectorId :=
  volume.metaSectors disk o ++ volume.dataSectors disk lost o

/-- The volume in memory and the disk belong together. -/
structure Intact (volume : Volume) (disk : Disk) (lost : List SectorId) : Prop where
  /-- The sectors of the volume are on the disk. -/
  size_le : volume.freeMap.size ≤ disk.count
  /-- The sectors of the volume can be numbered. -/
  size_le_pow : volume.freeMap.size ≤ 2 ^ 32
  /-- The header of the free map's file is on the disk. -/
  freeMapFile_stored : disk.header? freeMapSector = some volume.freeMapFile
  /-- The header of the directory's file is on the disk. -/
  directoryFile_stored : disk.header? directorySector = some volume.directoryFile
  /-- The header of the free map's file is consistent. -/
  freeMapFile_consistent : volume.freeMapFile.IsConsistent
  /-- The header of the directory's file is consistent. -/
  directoryFile_consistent : volume.directoryFile.IsConsistent
  /-- The file of the free map is not longer than the free map. -/
  freeMapFile_length_le : volume.freeMapFile.length ≤ FreeMap.bytesFor volume.freeMap.size
  /-- The directory fills its file. -/
  directoryFile_length : volume.directoryFile.length = Directory.byteSize
  /-- Each entry in use names a sector with a consistent header. -/
  exists_header : ∀ i, (volume.directory.entry i).isUnused = false →
    ∃ header, volume.header? disk i = some header ∧ header.IsConsistent
  /-- The taken sectors are shared out among the owners. -/
  partition : volume.freeMap.IsPartition (volume.sectorsOf disk lost)

/-- The tables on the disk are those in memory. -/
structure Flushed (volume : Volume) (disk : Disk) : Prop where
  /-- The free map on the disk is that in memory, as far as its file goes. -/
  freeMap_eq : volume.freeMapFile.contents disk =
    volume.freeMap.bytesWithin volume.freeMapFile.length
  /-- The directory on the disk is that in memory. -/
  directory_eq : volume.directoryFile.contents disk = volume.directory.toBytes

variable {volume : Volume} {disk disk' : Disk} {lost : List SectorId} {i : Fin numEntries}
  {header : FileHeader}

/-- The file of an entry in use has the header that is in its sector. -/
theorem header?_eq_some_iff : volume.header? disk i = some header ↔
    (volume.directory.entry i).isUnused = false ∧
      disk.header? (volume.directory.entry i).header = some header := by
  rw [header?]
  split <;> simp_all

/-- A file has its header in a sector, and maybe an index sector. -/
theorem metaSectors_entry (h : volume.header? disk i = some header) :
    volume.metaSectors disk (.entry i) =
      (volume.directory.entry i).header :: header.indexSectors := by
  rw [metaSectors, h]

/-- A file has its bytes in the sectors that its header lists. -/
theorem dataSectors_entry (h : volume.header? disk i = some header) :
    volume.dataSectors disk lost (.entry i) = header.dataSectors disk := by
  rw [dataSectors, h]

/-- An entry without a header owns no sectors. -/
theorem sectorsOf_entry_of_none (h : volume.header? disk i = none) :
    volume.sectorsOf disk lost (.entry i) = [] := by
  rw [sectorsOf, metaSectors, dataSectors, h, List.append_nil]

/-- A file owns the sector of its header and those that the header lists. -/
theorem sectorsOf_entry (h : volume.header? disk i = some header) :
    (volume.sectorsOf disk lost (.entry i)).Perm
      ((volume.directory.entry i).header :: header.allSectors disk) := by
  rw [sectorsOf, metaSectors_entry h, dataSectors_entry h, List.cons_append,
    FileHeader.allSectors]
  exact List.perm_append_comm.cons _

theorem allSectors_subset (h : volume.header? disk i = some header) :
    header.allSectors disk ⊆ volume.sectorsOf disk lost (.entry i) :=
  fun _ hs => (sectorsOf_entry h).symm.subset (List.mem_cons_of_mem _ hs)

theorem metaSectors_subset (o : Owner) :
    volume.metaSectors disk o ⊆ volume.sectorsOf disk lost o :=
  List.subset_append_left _ _

theorem dataSectors_subset (o : Owner) :
    volume.dataSectors disk lost o ⊆ volume.sectorsOf disk lost o :=
  List.subset_append_right _ _

namespace Intact

/-- The owned sectors are on the disk. -/
theorem lt_count (h : volume.Intact disk lost) {o : Owner} {s : SectorId}
    (hs : s ∈ volume.sectorsOf disk lost o) : s.toNat < disk.count :=
  Nat.lt_of_lt_of_le (h.partition.lt_size hs) h.size_le

/-- A file with sectors of its own is placed on the disk. -/
theorem placed_of_perm (h : volume.Intact disk lost) {o : Owner} (hcons : header.IsConsistent)
    (hsub : (header.allSectors disk).Subperm (volume.sectorsOf disk lost o)) :
    header.Placed disk where
  consistent := hcons
  nodup := by
    obtain ⟨l, hperm, hsublist⟩ := hsub
    exact hperm.nodup_iff.1 (hsublist.nodup (h.partition.nodup o))
  lt_count s hs := h.lt_count (hsub.subset hs)

/-- The file of the free map has different sectors of the disk. -/
theorem placed_freeMapFile (h : volume.Intact disk lost) : volume.freeMapFile.Placed disk := by
  apply h.placed_of_perm (o := .freeMapFile) h.freeMapFile_consistent
  exact List.perm_append_comm.subperm

/-- The file of the directory has different sectors of the disk. -/
theorem placed_directoryFile (h : volume.Intact disk lost) : volume.directoryFile.Placed disk := by
  apply h.placed_of_perm (o := .directoryFile) h.directoryFile_consistent
  exact List.perm_append_comm.subperm

/-- The headers of an intact volume are consistent. -/
theorem isConsistent (h : volume.Intact disk lost) (hheader : volume.header? disk i = some header) :
    header.IsConsistent := by
  obtain ⟨header', hheader', hcons⟩ := h.exists_header i (header?_eq_some_iff.1 hheader).1
  rw [hheader, Option.some.injEq] at hheader'
  exact hheader' ▸ hcons

/-- The files of an intact volume have different sectors of the disk. -/
theorem placed (h : volume.Intact disk lost) (hheader : volume.header? disk i = some header) :
    header.Placed disk := by
  apply h.placed_of_perm (o := .entry i) (h.isConsistent hheader)
  exact (List.sublist_cons_self _ _).subperm.trans (sectorsOf_entry hheader).symm.subperm

/-- The sector of the header of a file is one of the file's sectors. -/
theorem header_mem (hheader : volume.header? disk i = some header) :
    (volume.directory.entry i).header ∈ volume.metaSectors disk (.entry i) := by
  rw [metaSectors_entry hheader]
  exact List.mem_cons_self ..

/-- The header of a file is in none of the file's other sectors. -/
theorem header_notMem_allSectors (h : volume.Intact disk lost)
    (hheader : volume.header? disk i = some header) :
    (volume.directory.entry i).header ∉ header.allSectors disk :=
  (List.nodup_cons.1 ((sectorsOf_entry hheader).nodup_iff.1 (h.partition.nodup _))).1

/-- The headers of an intact volume are on the disk. -/
theorem header_lt_count (h : volume.Intact disk lost)
    (hheader : volume.header? disk i = some header) :
    (volume.directory.entry i).header.toNat < disk.count :=
  h.lt_count (metaSectors_subset _ (header_mem hheader))

/-- No two files have their headers in the same sector. -/
theorem entry_inj (h : volume.Intact disk lost) {j : Fin numEntries}
    (hi : (volume.directory.entry i).isUnused = false)
    (hj : (volume.directory.entry j).isUnused = false)
    (heq : (volume.directory.entry i).header = (volume.directory.entry j).header) : i = j := by
  obtain ⟨header, hheader, -⟩ := h.exists_header i hi
  obtain ⟨header', hheader', -⟩ := h.exists_header j hj
  have hmem := header_mem hheader
  rw [heq] at hmem
  have howner := h.partition.owner_eq (metaSectors_subset _ hmem)
    (metaSectors_subset _ (header_mem hheader'))
  exact Owner.entry.inj howner

/-! ## Frames -/

variable {volume' : Volume} {lost' : List SectorId} {o : Owner}

/-- The header of a file depends on its entry and on the sector that the entry names. -/
theorem header?_congr (h : volume.Intact disk lost)
    (hentry : volume'.directory.entry i = volume.directory.entry i)
    (hsame : ∀ s ∈ volume.metaSectors disk (.entry i), disk'.get s = disk.get s) :
    volume'.header? disk' i = volume.header? disk i := by
  rw [header?, header?, hentry]
  split
  · rfl
  · next hused =>
    rw [Bool.not_eq_true] at hused
    obtain ⟨header, hheader, -⟩ := h.exists_header i hused
    exact Disk.header?_congr (hsame _ (header_mem hheader))

/-- The bytes of a file depend on its entry and on its sectors. -/
theorem contents?_congr (h : volume.Intact disk lost)
    (hentry : volume'.directory.entry i = volume.directory.entry i)
    (hsame : ∀ s ∈ volume.sectorsOf disk lost (.entry i), disk'.get s = disk.get s) :
    volume'.contents? disk' i = volume.contents? disk i := by
  rw [contents?, contents?,
    h.header?_congr hentry fun s hs => hsame s (metaSectors_subset _ hs)]
  rcases hheader : volume.header? disk i with _ | header
  · rfl
  · refine congrArg some ((h.placed hheader).contents_congr ?_)
    intro s hs
    exact hsame s (allSectors_subset hheader hs)

/-- An owner whose headers and numbers are untouched keeps its sectors. -/
theorem sectorsOf_congr (h : volume.Intact disk lost)
    (hfreeMapFile : volume'.freeMapFile = volume.freeMapFile)
    (hdirectoryFile : volume'.directoryFile = volume.directoryFile)
    (hentry : ∀ i, o = .entry i → volume'.directory.entry i = volume.directory.entry i)
    (hlost : o = .lost → lost' = lost)
    (hsame : ∀ s ∈ volume.metaSectors disk o, disk'.get s = disk.get s) :
    volume'.metaSectors disk' o = volume.metaSectors disk o ∧
      volume'.dataSectors disk' lost' o = volume.dataSectors disk lost o := by
  cases o with
  | headers => exact ⟨rfl, rfl⟩
  | freeMapFile =>
    rw [metaSectors, metaSectors, dataSectors, dataSectors, hfreeMapFile]
    exact ⟨rfl, FileHeader.dataSectors_congr hsame⟩
  | directoryFile =>
    rw [metaSectors, metaSectors, dataSectors, dataSectors, hdirectoryFile]
    exact ⟨rfl, FileHeader.dataSectors_congr hsame⟩
  | lost => exact ⟨rfl, hlost rfl⟩
  | entry i =>
    have hheader := h.header?_congr (hentry i rfl) hsame
    rcases hold : volume.header? disk i with _ | header
    · simp only [metaSectors, dataSectors, hheader, hold]
      exact ⟨trivial, trivial⟩
    · -- the header is the same, and so is its index sector, if it has one
      rw [metaSectors_entry hold] at hsame
      simp only [metaSectors, dataSectors, hheader, hold, hentry i rfl]
      refine ⟨trivial, FileHeader.dataSectors_congr ?_⟩
      intro s hs
      exact hsame s (List.mem_cons_of_mem _ hs)

/-- The sectors with headers and numbers are found as before where they are untouched. -/
theorem metaSectors_congr (h : volume.Intact disk lost)
    (hfreeMapFile : volume'.freeMapFile = volume.freeMapFile)
    (hdirectoryFile : volume'.directoryFile = volume.directoryFile)
    (hentry : ∀ i, o = .entry i → volume'.directory.entry i = volume.directory.entry i)
    (hsame : ∀ s ∈ volume.metaSectors disk o, disk'.get s = disk.get s) :
    volume'.metaSectors disk' o = volume.metaSectors disk o :=
  (h.sectorsOf_congr hfreeMapFile hdirectoryFile hentry (fun _ => rfl) hsame).1

/-- An owner whose headers and indexes stay owns the same sectors. -/
theorem perm_sectorsOf (h : volume.Intact disk lost)
    (hfreeMapFile : volume'.freeMapFile = volume.freeMapFile)
    (hdirectoryFile : volume'.directoryFile = volume.directoryFile)
    (hentry : ∀ i, o = .entry i → volume'.directory.entry i = volume.directory.entry i)
    (hlost : o = .lost → lost' = lost)
    (hsame : ∀ s ∈ volume.metaSectors disk o, disk'.get s = disk.get s) :
    (volume'.sectorsOf disk' lost' o).Perm (volume.sectorsOf disk lost o) := by
  obtain ⟨hmeta, hdata⟩ := h.sectorsOf_congr hfreeMapFile hdirectoryFile hentry hlost hsame
  rw [sectorsOf, sectorsOf, hmeta, hdata]

/-- What is left to show for a changed volume, where the tables' files are the same. -/
theorem rebuild (h : volume.Intact disk lost)
    (hsize : volume'.freeMap.size = volume.freeMap.size)
    (hfreeMapFile : volume'.freeMapFile = volume.freeMapFile)
    (hdirectoryFile : volume'.directoryFile = volume.directoryFile)
    (hcount : disk'.count = disk.count)
    (hsame : ∀ s ∈ volume.metaSectors disk .headers, disk'.get s = disk.get s)
    (hheader : ∀ i, (volume'.directory.entry i).isUnused = false →
      ∃ header, volume'.header? disk' i = some header ∧ header.IsConsistent)
    (hpartition : volume'.freeMap.IsPartition (volume'.sectorsOf disk' lost')) :
    volume'.Intact disk' lost' where
  size_le := by
    rw [hsize, hcount]
    exact h.size_le
  size_le_pow := hsize ▸ h.size_le_pow
  freeMapFile_stored := by
    rw [hfreeMapFile, ← h.freeMapFile_stored]
    exact Disk.header?_congr (hsame _ (by simp [metaSectors]))
  directoryFile_stored := by
    rw [hdirectoryFile, ← h.directoryFile_stored]
    exact Disk.header?_congr (hsame _ (by simp [metaSectors]))
  freeMapFile_consistent := hfreeMapFile ▸ h.freeMapFile_consistent
  directoryFile_consistent := hdirectoryFile ▸ h.directoryFile_consistent
  freeMapFile_length_le := by
    rw [hfreeMapFile, hsize]
    exact h.freeMapFile_length_le
  directoryFile_length := hdirectoryFile ▸ h.directoryFile_length
  exists_header := hheader
  partition := hpartition

/-- A volume stays intact on a disk with the same headers and numbers of sectors. -/
theorem congr (h : volume.Intact disk lost) (hcount : disk'.count = disk.count)
    (hsame : ∀ o, ∀ s ∈ volume.metaSectors disk o, disk'.get s = disk.get s) :
    volume.Intact disk' lost := by
  refine h.rebuild rfl rfl rfl hcount (hsame .headers) ?_ ?_
  · intro i hused
    rw [h.header?_congr rfl (hsame (.entry i))]
    exact h.exists_header i hused
  · refine h.partition.congr fun o => ?_
    exact h.perm_sectorsOf rfl rfl (fun _ _ => rfl) (fun _ => rfl) (hsame o)

/-- A sector with bytes is none with headers or numbers. -/
theorem notMem_metaSectors (h : volume.Intact disk lost) {o o' : Owner} {s : SectorId}
    (hs : s ∈ volume.dataSectors disk lost o) : s ∉ volume.metaSectors disk o' := by
  intro hs'
  obtain rfl := h.partition.owner_eq (dataSectors_subset _ hs) (metaSectors_subset _ hs')
  exact (List.nodup_append.1 (h.partition.nodup o)).2.2 s hs' s hs rfl

/-- A volume stays intact if only bytes of files are written. -/
theorem congr_of_sameOff (h : volume.Intact disk lost) {sectors : List SectorId}
    (hoff : disk.SameOff sectors disk')
    (hdata : ∀ s ∈ sectors, ∃ o, s ∈ volume.dataSectors disk lost o) :
    volume.Intact disk' lost := by
  refine h.congr hoff.1 fun o s hs => hoff.2 s fun hmem => ?_
  obtain ⟨o', hs'⟩ := hdata s hmem
  exact h.notMem_metaSectors hs' hs

end Intact

end Volume

end SectorStore
