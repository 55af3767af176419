import SectorStore.Proofs.FileHeader.Flat
import SectorStore.Proofs.Volume.Intact

/-!
# The tables on the disk

* `Intact.yields_flush_bytes`: flushing an intact volume leaves the free map and the directory on
  the disk as they are in memory, and touches nothing but the bytes of these two files; told by
  sectors, this is `Intact.yields_flush`.
* `Intact.yields_mount_stored`: taking up the disk of a flushed volume gives that volume back, with
  the marks for which there is room in the file of the free map (`stored`). If there is room for
  all, that is the volume as it was (`Intact.yields_mount`).
-/

namespace SectorStore

variable {disk disk' : Disk}

namespace FileHeader

variable {header : FileHeader}

/-- Reading all bytes of a file gives its contents. -/
theorem Placed.yields_readAll (h : header.Placed disk) {post : Bytes → Disk → Prop} :
    header.readAll.Yields disk post ↔ post (header.contents disk) disk := by
  have hsum : 0 + header.length < sumLimit := (Nat.zero_add _).symm ▸ header.length_lt_sumLimit
  rw [readAll, h.yields_readBytes hsum, Bytes.slice, List.drop_zero,
    List.take_of_length_le (Nat.le_of_eq (length_contents _ _))]

/-- Writing as many bytes as a file is long replaces its contents, and nothing else. -/
theorem Placed.yields_writeAll (h : header.Placed disk) {data : Bytes}
    (hlength : data.length = header.length) :
    (header.writeAt 0 data).Yields disk fun _ disk' =>
      disk.SameBytesOff (header.places disk ⟨0, header.length⟩) disk' ∧
        header.contents disk' = data := by
  have hsum : 0 + data.length < sumLimit :=
    (Nat.zero_add _).symm ▸ hlength ▸ header.length_lt_sumLimit
  refine (h.yields_writeAt_splice hsum).mono ?_
  rintro written disk' ⟨hwritten, -, hcontents, hoff⟩
  obtain rfl : written = header.length := by omega
  rw [Nat.zero_add] at hoff
  refine ⟨hoff, hcontents.trans ?_⟩
  rw [List.take_of_length_le (Nat.le_of_eq hlength), Bytes.splice, List.take_zero, List.nil_append,
    List.drop_eq_nil_of_le (by rw [length_contents]; omega), List.append_nil]

end FileHeader

namespace Volume

variable {volume : Volume} {lost : List SectorId} {i : Fin numEntries}

/-- The sectors with the bytes of the tables. -/
def tableSectors (volume : Volume) (disk : Disk) : List SectorId :=
  volume.freeMapFile.dataSectors disk ++ volume.directoryFile.dataSectors disk

/-- Where the bytes of the tables are on the disk. -/
def tablePlaces (volume : Volume) (disk : Disk) : Set Place :=
  volume.freeMapFile.places disk ⟨0, volume.freeMapFile.length⟩ ∪
    volume.directoryFile.places disk ⟨0, volume.directoryFile.length⟩

/-- Each of the tables' sectors belongs to one of the tables' files. -/
theorem exists_owner_of_mem_tableSectors (lost : List SectorId) {s : SectorId}
    (hs : s ∈ volume.tableSectors disk) : ∃ o, s ∈ volume.sectorsOf disk lost o := by
  rcases List.mem_append.1 hs with hs | hs
  · exact ⟨.freeMapFile, dataSectors_subset _ hs⟩
  · exact ⟨.directoryFile, dataSectors_subset _ hs⟩

/-- The tables are where they were if headers and numbers of sectors are. -/
theorem tableSectors_congr {volume' : Volume}
    (hmap : volume'.freeMapFile = volume.freeMapFile)
    (hdirectory : volume'.directoryFile = volume.directoryFile)
    (hsame : ∀ o, ∀ s ∈ volume.metaSectors disk o, disk'.get s = disk.get s) :
    volume'.tableSectors disk' = volume.tableSectors disk := by
  rw [tableSectors, tableSectors, hmap, hdirectory,
    FileHeader.dataSectors_congr (hsame .freeMapFile),
    FileHeader.dataSectors_congr (hsame .directoryFile)]

/-- The volume as its disk tells: with the marks that its file has room for, and with a silent
clock. -/
def stored (volume : Volume) : Volume :=
  { volume.withClock .silent with
    freeMap := .ofBytes volume.freeMap.size
      (volume.freeMap.bytesWithin volume.freeMapFile.length) }

/-- The disk tells of the taken sectors whose marks the file has room for. -/
theorem mem_freeMap_stored {n : Nat} : n ∈ volume.stored.freeMap ↔
    n ∈ volume.freeMap ∧ n < 8 * volume.freeMapFile.length := by
  rw [stored, FreeMap.bytesWithin, FreeMap.mem_ofBytes_bytes]
  refine ⟨fun h => ⟨h.1, by omega⟩, fun h => ⟨h.1, FreeMap.lt_size_of_mem h.1, ?_⟩⟩
  have := FreeMap.lt_bytesFor h.1
  omega

/-- The disk tells all there is to a volume exactly if there is room for the marks of all taken
sectors. -/
theorem stored_eq_iff : volume.stored = volume.withClock .silent ↔
    ∀ n ∈ volume.freeMap, n < 8 * volume.freeMapFile.length := by
  constructor
  · intro h n hn
    have hmem : n ∈ volume.stored.freeMap := by
      rw [h]
      exact hn
    exact (mem_freeMap_stored.1 hmem).2
  · intro h
    have hmap : volume.stored.freeMap = volume.freeMap :=
      FreeMap.ext_mem (FreeMap.size_ofBytes _ _) fun n =>
        mem_freeMap_stored.trans ⟨And.left, fun hn => ⟨hn, h n hn⟩⟩
    show { volume.withClock .silent with freeMap := volume.stored.freeMap } =
      volume.withClock .silent
    rw [hmap]
    rfl

namespace Intact

/-- The sectors with the bytes of the tables belong to no other owner. -/
theorem notMem_tableSectors (h : volume.Intact disk lost) {o : Owner} (hmap : o ≠ .freeMapFile)
    (hdirectory : o ≠ .directoryFile) {s : SectorId} (hs : s ∈ volume.sectorsOf disk lost o) :
    s ∉ volume.tableSectors disk := by
  rw [tableSectors, List.mem_append, not_or]
  constructor
  · intro hs'
    exact hmap (h.partition.owner_eq hs (dataSectors_subset .freeMapFile hs'))
  · intro hs'
    exact hdirectory (h.partition.owner_eq hs (dataSectors_subset .directoryFile hs'))

/-- Where only the tables are written, headers and numbers of sectors stay as they are. -/
theorem get_of_sameOff (h : volume.Intact disk lost)
    (hoff : disk.SameOff (volume.tableSectors disk) disk') {o : Owner} {s : SectorId}
    (hs : s ∈ volume.metaSectors disk o) : disk'.get s = disk.get s := by
  refine hoff.2 s fun hmem => ?_
  rcases List.mem_append.1 hmem with hdata | hdata
  · exact h.notMem_metaSectors (o := .freeMapFile) hdata hs
  · exact h.notMem_metaSectors (o := .directoryFile) hdata hs

/-- Where only the tables are written, the files stay as they are. -/
theorem header?_of_sameOff (h : volume.Intact disk lost)
    (hoff : disk.SameOff (volume.tableSectors disk) disk') :
    volume.header? disk' i = volume.header? disk i := by
  apply h.header?_congr rfl
  intro s hs
  exact h.get_of_sameOff hoff hs

theorem contents?_of_sameOff (h : volume.Intact disk lost)
    (hoff : disk.SameOff (volume.tableSectors disk) disk') :
    volume.contents? disk' i = volume.contents? disk i := by
  apply h.contents?_congr rfl
  intro s hs
  exact hoff.2 s (h.notMem_tableSectors (o := .entry i) nofun nofun hs)

/-- The bytes of the tables are in the tables' sectors. -/
theorem mem_tableSectors_of_mem_tablePlaces (h : volume.Intact disk lost) {s : SectorId}
    {k : Fin sectorSize} (hplace : (s, k) ∈ volume.tablePlaces disk) :
    s ∈ volume.tableSectors disk := by
  rcases hplace with hplace | hplace
  · exact List.mem_append_left _
      (h.placed_freeMapFile.sited.mem_dataSectors_of_mem_places (Nat.le_refl _) hplace)
  · exact List.mem_append_right _
      (h.placed_directoryFile.sited.mem_dataSectors_of_mem_places (Nat.le_refl _) hplace)

/-- Flushing writes the bytes of the tables as they are in memory, and nothing else. -/
theorem yields_flush_bytes (h : volume.Intact disk lost) :
    volume.flush.Yields disk fun _ disk' =>
      volume.Intact disk' lost ∧ volume.Flushed disk' ∧
        disk.SameBytesOff (volume.tablePlaces disk) disk' := by
  have hlength : (volume.freeMap.bytesWithin volume.freeMapFile.length).length =
      volume.freeMapFile.length := by
    rw [FreeMap.bytesWithin, FreeMap.length_bytes, Nat.min_eq_left h.freeMapFile_length_le]
  rw [flush]
  refine (h.placed_freeMapFile.yields_writeAll hlength).bind ?_
  rintro - disk₁ ⟨hbytes₁, hcontents₁⟩
  have hoff₁ := hbytes₁.sameOff fun _ _ =>
    h.placed_freeMapFile.sited.mem_dataSectors_of_mem_places (Nat.le_refl _)
  have h₁ : volume.Intact disk₁ lost := h.congr_of_sameOff hoff₁ fun s hs => ⟨.freeMapFile, hs⟩
  refine (h₁.placed_directoryFile.yields_writeAll (by simp [h.directoryFile_length])).bind ?_
  rintro - disk₂ ⟨hbytes₂, hcontents₂⟩
  have hoff₂ := hbytes₂.sameOff fun _ _ =>
    h₁.placed_directoryFile.sited.mem_dataSectors_of_mem_places (Nat.le_refl _)
  rw [Transfer.yields_pure]
  -- the first write has not moved the sectors of the directory
  have hdirectory : volume.directoryFile.dataSectors disk₁ =
      volume.directoryFile.dataSectors disk := by
    apply FileHeader.dataSectors_congr
    intro s (hs : s ∈ volume.metaSectors disk .directoryFile)
    exact hoff₁.2 s fun hs' => h.notMem_metaSectors (o := .freeMapFile) hs' hs
  refine ⟨h₁.congr_of_sameOff hoff₂ fun s hs => ⟨.directoryFile, hs⟩, ⟨?_, hcontents₂⟩, ?_⟩
  · -- the directory's file has no sector in common with the free map's file
    rw [← hcontents₁]
    apply h₁.placed_freeMapFile.contents_congr
    intro s hs
    refine hoff₂.2 s fun hs' => ?_
    have hs : s ∈ volume.sectorsOf disk₁ lost .freeMapFile := List.perm_append_comm.subset hs
    cases h₁.partition.owner_eq hs (dataSectors_subset .directoryFile hs')
  · rw [FileHeader.places_congr hdirectory] at hbytes₂
    exact hbytes₁.trans hbytes₂

/-- Flushing writes the tables as they are in memory, and no other sectors. -/
theorem yields_flush (h : volume.Intact disk lost) :
    volume.flush.Yields disk fun _ disk' =>
      volume.Intact disk' lost ∧ volume.Flushed disk' ∧
        disk.SameOff (volume.tableSectors disk) disk' :=
  h.yields_flush_bytes.mono fun _ _ ⟨hintact, hflushed, hbytes⟩ =>
    ⟨hintact, hflushed, hbytes.sameOff fun _ _ => h.mem_tableSectors_of_mem_tablePlaces⟩

/-- Mounting the disk of a flushed volume gives the volume back, as far as the disk tells. -/
theorem yields_mount_stored (h : volume.Intact disk lost) (hflushed : volume.Flushed disk)
    {post : Volume → Disk → Prop} :
    (mount volume.freeMap.size).Yields disk post ↔ post volume.stored disk := by
  have hheaders : ∀ s ∈ volume.metaSectors disk .headers, s.toNat < disk.count :=
    fun s hs => h.lt_count (metaSectors_subset .headers hs)
  have hmap : freeMapSector.toNat < disk.count := hheaders _ (by simp [metaSectors])
  have hdirectory : directorySector.toNat < disk.count := hheaders _ (by simp [metaSectors])
  rw [mount, Transfer.yields_bind, FileHeader.yields_loadHome hmap h.freeMapFile_stored,
    Transfer.yields_bind, FileHeader.yields_loadHome hdirectory h.directoryFile_stored,
    Transfer.yields_bind, h.placed_freeMapFile.yields_readAll, Transfer.yields_bind,
    h.placed_directoryFile.yields_readAll, Transfer.yields_pure, hflushed.freeMap_eq,
    hflushed.directory_eq, Directory.ofBytes_toBytes]
  rfl

/-- If its file has room for all marks, mounting gives the volume back as it was. -/
theorem yields_mount (h : volume.Intact disk lost) (hflushed : volume.Flushed disk)
    (hlength : volume.freeMapFile.length = FreeMap.bytesFor volume.freeMap.size)
    {post : Volume → Disk → Prop} :
    (mount volume.freeMap.size).Yields disk post ↔ post (volume.withClock .silent) disk := by
  rw [h.yields_mount_stored hflushed, stored_eq_iff.2]
  intro n hn
  rw [hlength]
  exact FreeMap.lt_bytesFor hn

end Intact

end Volume

end SectorStore
