import SectorStore.Proofs.Volume.Flush

/-!
# Laying out a disk

`yields_format` says when a disk can be laid out, and that the volume that comes of it is intact,
has its tables on the disk and holds no file.
-/

namespace SectorStore.Volume

variable {disk : Disk} {numSectors : Nat}

/-- The reason for which a disk is not laid out, if it is not. -/
def formatRefusal? (numSectors : Nat) : Option Refusal :=
  let tables := totalSectorsFor (FreeMap.bytesFor numSectors) + totalSectorsFor Directory.byteSize
  if maxSectors < sectorsFor (FreeMap.bytesFor numSectors) then some .fileTooLarge
  else if numSectors < 2 + tables then some .noSpace
  else none

/-- What comes of laying out a disk. -/
structure Formatted (numSectors : Nat) (volume : Volume) (disk : Disk) : Prop where
  /-- There are no files. -/
  directory_eq : volume.directory = .empty
  /-- The volume has the size that was asked for. -/
  size_eq : volume.freeMap.size = numSectors
  /-- All sectors but those of the tables and their headers are free. -/
  numFree_eq : volume.numFree + (2 + (totalSectorsFor (FreeMap.bytesFor numSectors) +
    totalSectorsFor Directory.byteSize)) = numSectors
  /-- The free map fills its file. -/
  freeMapFile_length : volume.freeMapFile.length = FreeMap.bytesFor numSectors
  /-- The volume is intact. -/
  intact : volume.Intact disk []
  /-- The tables are on the disk. -/
  flushed : volume.Flushed disk

theorem numFree_free (size : Nat) : (FreeMap.free size).numFree = size := by
  have hcard := (FreeMap.free size).numFree_add_card_taken
  have hnone : (FreeMap.free size).taken = ∅ := by
    ext i
    rw [FreeMap.mem_taken, FreeMap.mem_iff, FreeMap.isTaken_free]
    simp
  rwa [hnone, Finset.card_empty, Nat.add_zero, FreeMap.size_free] at hcard

/-- The sectors of the tables' headers are taken first. -/
theorem exists_mark_headers (h : 2 ≤ numSectors) :
    ∃ map₁ map₂, (FreeMap.free numSectors).mark freeMapSector = .ok map₁ ∧
      map₁.mark directorySector = .ok map₂ ∧
      (FreeMap.free numSectors).Takes [freeMapSector, directorySector] map₂ := by
  have hzero : freeMapSector.toNat = 0 := rfl
  have hone : directorySector.toNat = 1 := rfl
  have h₁ : freeMapSector.toNat < (FreeMap.free numSectors).size := by
    rw [FreeMap.size_free, hzero]
    omega
  let map₁ := (FreeMap.free numSectors).set freeMapSector.toNat true h₁
  have h₂ : directorySector.toNat < map₁.size := by
    rw [FreeMap.size_set, FreeMap.size_free, hone]
    omega
  -- both headers are free on a map without taken sectors, and nothing is lower than them
  refine ⟨map₁, map₁.set directorySector.toNat true h₂, dif_pos h₁, dif_pos h₂, ?_⟩
  have hfree : ∀ i, i ∉ FreeMap.free numSectors := by
    intro i
    rw [FreeMap.mem_iff, FreeMap.isTaken_free]
    exact Bool.false_ne_true
  constructor
  · rw [FreeMap.size_set, FreeMap.size_set]
  · simp only [List.mem_cons, List.not_mem_nil, or_false, forall_eq_or_imp, forall_eq]
    exact ⟨h₁, by rwa [FreeMap.size_set] at h₂⟩
  · exact fun s _ => hfree _
  · simp [hzero, hone]
  · simp only [List.mem_cons, List.not_mem_nil, or_false, forall_eq_or_imp, forall_eq, hzero, hone]
    refine ⟨by simp, fun i hi => .inr ⟨freeMapSector, .inl rfl, ?_⟩⟩
    omega
  · intro i
    simp only [FreeMap.mem_set, map₁, hfree, List.mem_cons, List.not_mem_nil, or_false,
      exists_eq_or_imp, exists_eq_left, false_or, hzero, hone]
    by_cases hi : i = 1
    · simp [hi]
    · simp [hi, Ne.symm hi, eq_comm]

/-- The volume whose tables were allotted sectors just now. -/
def laidOut (freeMapFile directoryFile : FileHeader) (map : FreeMap) : Volume where
  freeMap := map
  directory := .empty
  freeMapFile := freeMapFile.setHome freeMapSector
  directoryFile := directoryFile.setHome directorySector
  clock := .silent

/-- The tables are allotted sectors, and then they are written with their headers. -/
theorem exists_format_eq (h : 2 ≤ numSectors) :
    ∃ map, (FreeMap.free numSectors).Takes [freeMapSector, directorySector] map ∧
      format numSectors = do
        let (freeMapFile, map) ← FileHeader.empty.allocate map (FreeMap.bytesFor numSectors)
        let (directoryFile, map) ← FileHeader.empty.allocate map Directory.byteSize
        (freeMapFile.setHome freeMapSector).store freeMapSector
        (directoryFile.setHome directorySector).store directorySector
        (laidOut freeMapFile directoryFile map).flush
        return laidOut freeMapFile directoryFile map := by
  obtain ⟨map₁, map, hmark₁, hmark₂, hmap⟩ := exists_mark_headers h
  refine ⟨map, hmap, ?_⟩
  simp only [format, hmark₁, hmark₂, Transfer.liftM_run_ok, pure_bind]
  rfl

section Tables

variable {map map₁ map₂ : FreeMap} {disk disk₁ disk₂ : Disk}
  {freeMapFile directoryFile : FileHeader}

/-- The headers of the tables are in other sectors than the tables, so once they are written the
tables still have the sectors that they were allotted. -/
theorem allSectors_put_headers
    (hmap : (FreeMap.free numSectors).Takes [freeMapSector, directorySector] map)
    (h₁ : FileHeader.empty.Allocated map (FreeMap.bytesFor numSectors) disk freeMapFile map₁ disk₁)
    (h₂ : FileHeader.empty.Allocated map₁ Directory.byteSize disk₁ directoryFile map₂ disk₂)
    (data₁ data₂ : Sector) :
    let disk' := (disk₂.put freeMapSector data₁).put directorySector data₂
    freeMapFile.allSectors disk' = freeMapFile.allSectors disk₁ ∧
      directoryFile.allSectors disk' = directoryFile.allSectors disk₂ := by
  intro disk'
  obtain ⟨taken₁, htakes₁, hperm₁⟩ := h₁.takes
  -- the two sectors of the headers are taken first
  have hget : ∀ s : SectorId, s.toNat ∉ map → disk'.get s = disk₂.get s := by
    intro s hs
    have hne : s ≠ freeMapSector ∧ s ≠ directorySector := by
      constructor
      · rintro rfl
        exact hs ((hmap.mem_iff _).2 (.inr ⟨_, by simp, rfl⟩))
      · rintro rfl
        exact hs ((hmap.mem_iff _).2 (.inr ⟨_, by simp, rfl⟩))
    rw [Disk.get_put_of_ne hne.2, Disk.get_put_of_ne hne.1]
  constructor
  · apply FileHeader.allSectors_congr
    intro s hs
    have hs := freeMapFile.indexSectors_subset disk₁ hs
    rw [hget s (h₁.free hs)]
    -- the sectors of the directory were free when those of the free map were taken
    refine h₂.sameOff.2 s fun hs' => ?_
    refine h₂.free (directoryFile.indexSectors_subset disk₂ hs') ((htakes₁.mem_iff _).2 ?_)
    exact .inr ⟨s, hperm₁.subset hs, rfl⟩
  · apply FileHeader.allSectors_congr
    intro s hs
    have hfree := h₂.free (directoryFile.indexSectors_subset disk₂ hs)
    exact hget s fun hmem => hfree ((htakes₁.mem_iff _).2 (.inl hmem))

/-- The volume after its tables were allotted sectors is intact, with the headers on the disk. -/
theorem intact_of_allocated
    (hmap : (FreeMap.free numSectors).Takes [freeMapSector, directorySector] map)
    (hcount : numSectors ≤ disk.count) (hpow : numSectors ≤ 2 ^ 32)
    (h₁ : FileHeader.empty.Allocated map (FreeMap.bytesFor numSectors) disk freeMapFile map₁ disk₁)
    (h₂ : FileHeader.empty.Allocated map₁ Directory.byteSize disk₁ directoryFile map₂ disk₂) :
    (laidOut freeMapFile directoryFile map₂).Intact
      ((disk₂.put freeMapSector (freeMapFile.setHome freeMapSector).encode).put directorySector
        (directoryFile.setHome directorySector).encode) [] := by
  let volume := laidOut freeMapFile directoryFile map₂
  obtain ⟨taken₁, htakes₁, hperm₁⟩ := h₁.takes
  obtain ⟨taken₂, htakes₂, hperm₂⟩ := h₂.takes
  have hlayout₁ := freeMapFile.sameLayout_setHome freeMapSector
  have hlayout₂ := directoryFile.sameLayout_setHome directorySector
  obtain ⟨hall₁, hall₂⟩ := allSectors_put_headers hmap h₁ h₂ volume.freeMapFile.encode
    volume.directoryFile.encode
  rw [← hlayout₁.allSectors_eq] at hall₁
  rw [← hlayout₂.allSectors_eq] at hall₂
  have hcons₁ := hlayout₁.isConsistent h₁.consistent
  have hcons₂ := hlayout₂.isConsistent h₂.consistent
  have hsize : volume.freeMap.size = numSectors := by
    show map₂.size = _
    rw [htakes₂.size_eq, htakes₁.size_eq, hmap.size_eq, FreeMap.size_free]
  have hunused : ∀ i : Fin numEntries, (volume.directory.entry i).isUnused = true := by
    intro i
    show (Directory.empty.entry i).isUnused = true
    rw [Directory.entry_empty]
    rfl
  -- the owners get their sectors one after another, and no file has any
  have hpartition := ((FreeMap.IsPartition.free (ι := Owner) numSectors).update (o := .headers)
    hmap rfl (.refl _)).update (o := .freeMapFile) htakes₁ rfl hperm₁ |>.update
      (o := .directoryFile) htakes₂ rfl hperm₂
  constructor
  case size_le =>
    rw [hsize]
    exact Nat.le_trans hcount (Nat.le_of_eq (h₁.sameOff.1.symm.trans h₂.sameOff.1.symm))
  case size_le_pow => exact hsize ▸ hpow
  case freeMapFile_stored =>
    -- the header of the directory is written last, to another sector
    have hne : freeMapSector ≠ directorySector := by decide
    rw [Disk.header?_congr (Disk.get_put_of_ne hne)]
    exact Disk.header?_put_encode hcons₁ rfl
  case directoryFile_stored => exact Disk.header?_put_encode hcons₂ rfl
  case freeMapFile_consistent => exact hcons₁
  case directoryFile_consistent => exact hcons₂
  case freeMapFile_length_le =>
    rw [hsize]
    exact Nat.le_of_eq (hlayout₁.length_eq.trans h₁.length_eq)
  case directoryFile_length => exact hlayout₂.length_eq.trans h₂.length_eq
  case exists_header =>
    intro i hused
    rw [hunused i] at hused
    cases hused
  case partition =>
    refine hpartition.congr fun o => ?_
    cases o with
    | headers => exact .refl _
    | freeMapFile => exact hall₁ ▸ List.perm_append_comm
    | directoryFile => exact hall₂ ▸ List.perm_append_comm
    | lost => exact .refl _
    | entry i =>
      rw [sectorsOf_entry_of_none (if_pos (hunused i))]
      exact .refl _

end Tables

/-- A disk of fewer sectors than the headers need is not laid out. -/
theorem run_format_of_lt {δ : Type} [BlockDevice δ] (device : δ) (h : numSectors < 2) :
    (format numSectors).run.run device = (.error (.outOfBitmapRange numSectors), device) := by
  match numSectors, h with
  | 0, _ => rfl
  | 1, _ => rfl

section Room

variable {map map₁ : FreeMap} {freeMapFile : FileHeader} {disk₁ : Disk}

/-- The sectors for the free map can be numbered. -/
theorem size_le_pow (h : sectorsFor (FreeMap.bytesFor numSectors) ≤ maxSectors) :
    numSectors ≤ 2 ^ 32 := by
  rw [maxSectors_eq, sectorsFor, sectorSize_eq, FreeMap.bytesFor] at h
  omega

theorem le_maxSectors_of_formatRefusal? (h : formatRefusal? numSectors = none) :
    sectorsFor (FreeMap.bytesFor numSectors) ≤ maxSectors := by
  rw [formatRefusal?] at h
  split_ifs at h with hmax
  exact Nat.le_of_not_lt hmax

theorem numFree_of_takes_headers
    (hmap : (FreeMap.free numSectors).Takes [freeMapSector, directorySector] map) :
    map.numFree + 2 = numSectors := by
  have hfree := hmap.numFree_add_length
  rwa [numFree_free, List.length_cons, List.length_singleton] at hfree

/-- There are sectors for the free map if the disk is not refused. -/
theorem yields_allocate_freeMap
    (hmap : (FreeMap.free numSectors).Takes [freeMapSector, directorySector] map)
    (hcount : numSectors ≤ disk.count) (hrefusal : formatRefusal? numSectors = none) :
    (FileHeader.empty.allocate map (FreeMap.bytesFor numSectors)).run.Yields disk
      fun answer disk' => ∃ header map', answer = .ok (header, map') ∧
        FileHeader.empty.Allocated map (FreeMap.bytesFor numSectors) disk header map' disk' := by
  have hsize : map.size = numSectors := hmap.size_eq
  have hfree := numFree_of_takes_headers hmap
  have hmax := le_maxSectors_of_formatRefusal? hrefusal
  rw [formatRefusal?] at hrefusal
  split_ifs at hrefusal
  exact FileHeader.yields_allocate (hsize ▸ size_le_pow hmax) (hsize ▸ hcount) hmax (by omega)

/-- There are sectors for the directory as well. -/
theorem yields_allocate_directory
    (hmap : (FreeMap.free numSectors).Takes [freeMapSector, directorySector] map)
    (hcount : numSectors ≤ disk.count) (hrefusal : formatRefusal? numSectors = none)
    (h₁ : FileHeader.empty.Allocated map (FreeMap.bytesFor numSectors) disk freeMapFile map₁
      disk₁) :
    (FileHeader.empty.allocate map₁ Directory.byteSize).run.Yields disk₁
      fun answer disk' => ∃ header map', answer = .ok (header, map') ∧
        FileHeader.empty.Allocated map₁ Directory.byteSize disk₁ header map' disk' := by
  have hsize : map₁.size = numSectors := h₁.size_eq.trans hmap.size_eq
  have hfree := numFree_of_takes_headers hmap
  have hfree₁ := h₁.numFree_eq
  have hmax := le_maxSectors_of_formatRefusal? hrefusal
  have hcount₁ : numSectors ≤ disk₁.count := h₁.sameOff.1 ▸ hcount
  rw [formatRefusal?] at hrefusal
  split_ifs at hrefusal
  exact FileHeader.yields_allocate (hsize ▸ size_le_pow hmax) (hsize ▸ hcount₁) (by decide)
    (by omega)

end Room

/-- A disk without room for the tables is not laid out. -/
theorem yields_format_refused (hcount : numSectors ≤ disk.count) (h : 2 ≤ numSectors)
    {cause : Refusal} (hrefusal : formatRefusal? numSectors = some cause) :
    (format numSectors).run.Yields disk fun answer _ => answer = .error cause := by
  obtain ⟨map, hmap, hformat⟩ := exists_format_eq h
  have hsize : map.size = numSectors := hmap.size_eq
  have hfree := numFree_of_takes_headers hmap
  have hdirectory : sectorsFor Directory.byteSize ≤ maxSectors := by decide
  rw [hformat, Transfer.yields_run_bind]
  rw [formatRefusal?] at hrefusal
  split_ifs at hrefusal with hmax hroom
  · cases hrefusal
    rw [FileHeader.allocate_eq_fileTooLarge hmax, Transfer.yields_run_throw]
  cases hrefusal
  have hmax := Nat.le_of_not_lt hmax
  have hpow := size_le_pow hmax
  -- either the free map or the directory does not find enough sectors
  by_cases hfirst : map.numFree < totalSectorsFor (FreeMap.bytesFor numSectors)
  · rw [FileHeader.allocate_eq_noSpace (hsize ▸ hpow) hmax hfirst, Transfer.yields_run_throw]
  refine (FileHeader.yields_allocate (hsize ▸ hpow) (hsize ▸ hcount) hmax
    (Nat.le_of_not_lt hfirst)).mono ?_
  rintro - disk₁ ⟨freeMapFile, map₁, rfl, h₁⟩
  have hfree₁ := h₁.numFree_eq
  have hsize₁ : map₁.size = numSectors := h₁.size_eq.trans hsize
  have hsecond : map₁.numFree < totalSectorsFor Directory.byteSize := by omega
  simp only [FileHeader.allocate_eq_noSpace (hsize₁ ▸ hpow) hdirectory hsecond,
    Transfer.yields_run_bind, Transfer.yields_run_throw]

theorem yields_format (hcount : numSectors ≤ disk.count) (h : 2 ≤ numSectors) :
    (format numSectors).run.Yields disk fun answer disk' =>
      match formatRefusal? numSectors with
      | some cause => answer = .error cause
      | none => ∃ volume, answer = .ok volume ∧ Formatted numSectors volume disk' := by
  rcases hrefusal : formatRefusal? numSectors with _ | cause
  swap
  · exact yields_format_refused hcount h hrefusal
  obtain ⟨map, hmap, hformat⟩ := exists_format_eq h
  rw [hformat, Transfer.yields_run_bind]
  refine (yields_allocate_freeMap hmap hcount hrefusal).mono ?_
  rintro - disk₁ ⟨freeMapFile, map₁, rfl, h₁⟩
  dsimp only
  rw [Transfer.yields_run_bind]
  refine (yields_allocate_directory hmap hcount hrefusal h₁).mono ?_
  rintro - disk₂ ⟨directoryFile, map₂, rfl, h₂⟩
  have hpow := size_le_pow (le_maxSectors_of_formatRefusal? hrefusal)
  -- both tables have their sectors; what is left to do is to write them
  have hintact := intact_of_allocated hmap hcount hpow h₁ h₂
  have hcount₂ : numSectors ≤ disk₂.count := by
    rw [h₂.sameOff.1, h₁.sameOff.1]
    exact hcount
  have hzero : freeMapSector.toNat < disk₂.count := Nat.lt_of_lt_of_le (by decide) (h.trans hcount₂)
  have hone : directorySector.toNat < disk₂.count :=
    Nat.lt_of_lt_of_le (by decide) (h.trans hcount₂)
  simp only [Transfer.yields_run_bind, Transfer.yields_run_lift, FileHeader.store]
  rw [Transfer.yields_store hzero, Transfer.yields_store (by exact hone)]
  refine hintact.yields_flush.mono ?_
  rintro - disk₅ ⟨hintact₅, hflushed, -⟩
  rw [Transfer.yields_run_pure]
  refine ⟨_, rfl, rfl, h₂.size_eq.trans (h₁.size_eq.trans hmap.size_eq), ?_,
    (freeMapFile.sameLayout_setHome freeMapSector).length_eq.trans h₁.length_eq, hintact₅, hflushed⟩
  have hfree := numFree_of_takes_headers hmap
  have hfree₁ := h₁.numFree_eq
  have hfree₂ := h₂.numFree_eq
  show map₂.numFree + _ = _
  omega

end SectorStore.Volume
