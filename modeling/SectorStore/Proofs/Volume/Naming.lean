import SectorStore.Proofs.Volume.Flush
import SectorStore.Volume.Naming

/-!
# Making and removing files of an intact volume

`Intact.yields_create` and `Intact.yields_remove` say what `create` and `remove` answer, and what
they leave behind: an intact volume with its tables on the disk, in which one entry has changed and
the files of all others are as they were.
-/

namespace SectorStore.Volume

variable {volume : Volume} {disk disk' : Disk} {lost : List SectorId} {i : Fin numEntries}
  {header : FileHeader} {map' : FreeMap} {name : String} {size : Nat}

/-- The reason for which a new file is refused, if it is. -/
def refusal? (volume : Volume) (name : String) (size : Nat) : Option Refusal :=
  if (volume.directory.indexOf? name).isSome then some .alreadyExists
  else if volume.numFree = 0 then some .noSpace
  else if Utf8.encode name = [] then some .emptyName
  else if maxNameBytes < (Utf8.encode name).length then some .nameTooLong
  else if volume.directory.firstUnused? = none then some .directoryFull
  else if maxSectors < sectorsFor size then some .fileTooLarge
  else if volume.numFree - 1 < totalSectorsFor size then some .noSpace
  else none

/-- A name that is there already is refused. -/
theorem indexOf?_of_refusal? (h : volume.refusal? name size = none) :
    volume.directory.indexOf? name = none := by
  rw [refusal?] at h
  split at h
  · cases h
  · next hnew => simpa using hnew

/-! ## The new volume is intact -/

namespace Intact

/-- A file is added in an unused entry, in sectors that were free. If its name makes the entry look
unused, the sectors are lost. -/
theorem addFile (h : volume.Intact disk lost) {fresh : List SectorId} {entry : DirEntry}
    (hunused : (volume.directory.entry i).isUnused = true)
    (htakes : volume.freeMap.Takes fresh map') (hcount : disk'.count = disk.count)
    (hsame : ∀ s : SectorId, s.toNat ∈ volume.freeMap → disk'.get s = disk.get s)
    (hheader : disk'.header? entry.header = some header) (hcons : header.IsConsistent)
    (hfresh : (entry.header :: header.allSectors disk').Perm fresh) (clock : Clock) :
    ∃ lost', Intact { volume with
        freeMap := map', directory := volume.directory.setEntry i entry, clock } disk' lost' ∧
      (entry.isUnused = false → lost' = lost) ∧ lost ⊆ lost' := by
  let volume' : Volume := { volume with
    freeMap := map', directory := volume.directory.setEntry i entry, clock }
  have hentry : volume'.directory.entry i = entry := by
    rw [Directory.entry_setEntry, if_pos rfl]
  have hother : ∀ j, j ≠ i → volume'.directory.entry j = volume.directory.entry j := by
    intro j hj
    rw [Directory.entry_setEntry, if_neg hj]
  -- the headers that there are were in taken sectors, so they are where they were
  have hmeta : ∀ o, ∀ s ∈ volume.metaSectors disk o, disk'.get s = disk.get s :=
    fun o s hs => hsame s (h.partition.mem (metaSectors_subset o hs))
  have hstored : entry.isUnused = false → volume'.header? disk' i = some header := by
    intro hused
    rw [← hentry] at hused hheader
    exact header?_eq_some_iff.2 ⟨hused, hheader⟩
  have hheaders : ∀ j, (volume'.directory.entry j).isUnused = false →
      ∃ header, volume'.header? disk' j = some header ∧ header.IsConsistent := by
    intro j hused
    by_cases hj : j = i
    · rw [hj, hentry] at hused
      exact ⟨header, hj ▸ hstored hused, hcons⟩
    · rw [hother j hj] at hused
      rw [h.header?_congr (hother j hj) (hmeta (.entry j))]
      exact h.exists_header j hused
  -- an unused entry has had no sectors
  have hold : volume.sectorsOf disk lost (.entry i) = [] :=
    sectorsOf_entry_of_none (if_pos hunused)
  have hothers : ∀ lost' o, o ≠ .entry i → (o = .lost → lost' = lost) →
      (volume'.sectorsOf disk' lost' o).Perm (volume.sectorsOf disk lost o) := by
    intro lost' o ho hlost
    refine h.perm_sectorsOf rfl rfl ?_ hlost (hmeta o)
    rintro j rfl
    exact hother j fun hj => ho (congrArg _ hj)
  cases hused : entry.isUnused with
  | true =>
    -- the entry looks unused as before, and the new sectors are nobody's
    refine ⟨lost ++ fresh, h.rebuild htakes.size_eq rfl rfl hcount (hmeta .headers) hheaders ?_,
      nofun, List.subset_append_left _ _⟩
    have hnone : volume'.header? disk' i = none := by rw [header?, hentry, if_pos hused]
    refine h.partition.extend (o := .lost) htakes (.refl _) fun o ho => ?_
    by_cases hoi : o = .entry i
    · rw [hoi, hold, sectorsOf_entry_of_none hnone]
    · exact hothers _ o hoi fun hlost => absurd hlost ho
  | false =>
    -- the entry is in use, and the new sectors are those of its file
    refine ⟨lost, h.rebuild htakes.size_eq rfl rfl hcount (hmeta .headers) hheaders ?_,
      fun _ => rfl, List.Subset.refl _⟩
    refine h.partition.extend (o := .entry i) htakes ?_ fun o ho => hothers _ o ho fun _ => rfl
    rw [hold, List.nil_append]
    refine (sectorsOf_entry (hstored hused)).trans ?_
    rw [hentry]
    exact hfresh

/-- A file is removed from its entry, and its sectors are given back. -/
theorem removeFile (h : volume.Intact disk lost)
    (hback : volume.freeMap.GivesBack (volume.sectorsOf disk lost (.entry i)) map') :
    Intact { volume with
      freeMap := map', directory := volume.directory.setEntry i .unused } disk lost := by
  let volume' : Volume := { volume with
    freeMap := map', directory := volume.directory.setEntry i .unused }
  have hentry : volume'.directory.entry i = .unused := by
    rw [Directory.entry_setEntry, if_pos rfl]
  have hother : ∀ j, j ≠ i → volume'.directory.entry j = volume.directory.entry j := by
    intro j hj
    rw [Directory.entry_setEntry, if_neg hj]
  -- the entry is left without a header and without sectors, and the others keep theirs
  refine h.rebuild hback.size_eq rfl rfl rfl (fun _ _ => rfl) ?_ ?_
  · intro j hused
    by_cases hj : j = i
    · rw [hj, hentry] at hused
      cases hused
    · rw [hother j hj] at hused
      rw [h.header?_congr (hother j hj) fun _ _ => rfl]
      exact h.exists_header j hused
  · refine h.partition.vacate hback ?_ ?_
    · apply sectorsOf_entry_of_none
      rw [header?, hentry]
      rfl
    · intro o ho
      refine h.perm_sectorsOf rfl rfl ?_ (fun _ => rfl) fun _ _ => rfl
      rintro j rfl
      exact hother j fun hj => ho (congrArg _ hj)

end Intact

/-! ## Making a file -/

theorem yields_zeroSectors {sectors : List SectorId} (hlt : ∀ s ∈ sectors, s.toNat < disk.count) :
    (zeroSectors sectors).Yields disk fun _ disk' =>
      disk.SameOff sectors disk' ∧ ∀ s ∈ sectors, disk'.get s = Sector.zero := by
  induction sectors generalizing disk with
  | nil => exact Transfer.yields_pure.2 ⟨Disk.SameOff.refl _ _, by simp⟩
  | cons s rest ih =>
    have hs : s.toNat < disk.count := hlt s (List.mem_cons_self ..)
    rw [zeroSectors, Transfer.yields_bind, Transfer.yields_store hs]
    have hrest : ∀ t ∈ rest, t.toNat < (disk.put s Sector.zero).count :=
      fun t ht => hlt t (List.mem_cons_of_mem _ ht)
    refine (ih hrest).mono ?_
    rintro - disk' ⟨hoff, hzero⟩
    refine ⟨(Disk.SameOff.put disk s _).trans hoff, ?_⟩
    intro t ht
    by_cases hmem : t ∈ rest
    · exact hzero t hmem
    · rw [hoff.2 t hmem, (List.mem_cons.1 ht).resolve_right hmem, Disk.get_put_self]

/-- Fills the sectors of a new file with zeros and writes its header. -/
def writeNew (header header' : FileHeader) (sector : SectorId) : Transfer Unit := do
  zeroSectors (← header.sectors)
  header'.store sector

/-- The volume with an entry for a new file, whose times the clock has told. -/
def withFile (volume : Volume) (map : FreeMap) (i : Fin numEntries) (entry : DirEntry) : Volume :=
  { volume.now.2 with freeMap := map, directory := volume.directory.setEntry i entry }

@[simp]
theorem entry_withFile_self (volume : Volume) (map : FreeMap) (i : Fin numEntries)
    (entry : DirEntry) : (volume.withFile map i entry).directory.entry i = entry := by
  show (volume.directory.setEntry i entry).entry i = entry
  rw [Directory.entry_setEntry, if_pos rfl]

theorem entry_withFile_of_ne (volume : Volume) (map : FreeMap) (entry : DirEntry)
    {j : Fin numEntries} (hj : j ≠ i) :
    (volume.withFile map i entry).directory.entry j = volume.directory.entry j := by
  show (volume.directory.setEntry i entry).entry j = _
  rw [Directory.entry_setEntry, if_neg hj]

/-- A new file of `size` bytes, with its header in `sector`, is in the lowest sectors that were
free. Besides them, at most the tables were written. -/
structure Lodged (volume : Volume) (disk : Disk) (size : Nat) (sector : SectorId)
    (header : FileHeader) (map' : FreeMap) (disk' : Disk) : Prop where
  /-- The header is on the disk. -/
  header?_eq : disk'.header? sector = some header
  /-- The header is consistent. -/
  consistent : header.IsConsistent
  /-- The file has the length that was asked for. -/
  length_eq : header.length = size
  /-- The sector of the header is taken first, and then those of the file. -/
  takes : ∃ others, volume.freeMap.Takes (sector :: others) map' ∧
    (header.allSectors disk').Perm others
  /-- The sectors with the bytes of the file are filled with zeros. -/
  get_eq_zero : ∀ s ∈ header.dataSectors disk', disk'.get s = Sector.zero
  /-- Nothing else is written but the tables. -/
  sameOff : disk.SameOff ((sector :: header.allSectors disk') ++ volume.tableSectors disk) disk'

namespace Lodged

variable {sector : SectorId}

/-- The sectors of a new file were free. -/
theorem free (h : volume.Lodged disk size sector header map' disk') {s : SectorId}
    (hs : s ∈ sector :: header.allSectors disk') : s.toNat ∉ volume.freeMap := by
  obtain ⟨others, htakes, hperm⟩ := h.takes
  exact htakes.free s ((hperm.cons sector).subset hs)

/-- The sectors of a new file are taken. -/
theorem mem_iff (h : volume.Lodged disk size sector header map' disk') (n : Nat) :
    n ∈ map' ↔ n ∈ volume.freeMap ∨ ∃ s ∈ sector :: header.allSectors disk', s.toNat = n := by
  obtain ⟨others, htakes, hperm⟩ := h.takes
  simp only [htakes.mem_iff, (hperm.cons sector).mem_iff]

/-- The tables are in other sectors than the file, so writing them does not change it. -/
theorem flush {disk₁ : Disk} (h : volume.Lodged disk size sector header map' disk₁)
    (hintact : volume.Intact disk lost)
    (hoff : disk₁.SameOff (volume.tableSectors disk) disk') :
    volume.Lodged disk size sector header map' disk' := by
  have hsame : ∀ s ∈ sector :: header.allSectors disk₁, disk'.get s = disk₁.get s := by
    intro s hs
    refine hoff.2 s fun htable => h.free hs ?_
    obtain ⟨o, hs⟩ := exists_owner_of_mem_tableSectors lost htable
    exact hintact.partition.mem hs
  have hindex : ∀ s ∈ header.indexSectors, disk'.get s = disk₁.get s := fun s hs =>
    hsame s (List.mem_cons_of_mem _ (header.indexSectors_subset disk₁ hs))
  have hall : header.allSectors disk' = header.allSectors disk₁ :=
    FileHeader.allSectors_congr hindex
  refine ⟨?_, h.consistent, h.length_eq, hall ▸ h.takes, ?_, ?_⟩
  · rw [← h.header?_eq]
    exact Disk.header?_congr (hsame _ (List.mem_cons_self ..))
  · intro s hs
    rw [FileHeader.dataSectors_congr hindex] at hs
    rw [hsame s (List.mem_cons_of_mem _ (header.dataSectors_subset disk₁ hs)), h.get_eq_zero s hs]
  · rw [hall]
    exact (h.sameOff.trans hoff).mono (by simp)

/-- All bytes of a new file are zero. -/
theorem contents_eq (h : volume.Lodged disk size sector header map' disk')
    (hplaced : header.Placed disk') : header.contents disk' = List.replicate size 0 := by
  apply List.ext_getElem
  · rw [FileHeader.length_contents, List.length_replicate, h.length_eq]
  · intro k hk hk'
    rw [FileHeader.length_contents] at hk
    have hmem := hplaced.sited.sectorOf_mem (FileHeader.div_lt_sectorCount hk)
    rw [FileHeader.getElem_contents, FileHeader.byteAt, List.getElem_replicate,
      h.get_eq_zero _ hmem, FileHeader.get_zero_inSector]

end Lodged

/-- The sectors of a new file are taken, that of its header first, and those with its bytes are
filled with zeros. -/
structure Zeroed (volume : Volume) (disk : Disk) (size : Nat) (sector : SectorId)
    (header : FileHeader) (map map' : FreeMap) (disk₁ disk₂ : Disk) : Prop where
  /-- The sector of the header is taken first. -/
  takes : volume.freeMap.Takes [sector] map
  /-- Those of the file are allotted to it next. -/
  allocated : FileHeader.empty.Allocated map size disk header map' disk₁
  /-- The sectors with the bytes of the file are the only ones that are filled. -/
  sameOff : disk₁.SameOff (header.dataSectors disk₁) disk₂
  /-- They are filled with zeros. -/
  get_eq_zero : ∀ s ∈ header.dataSectors disk₁, disk₂.get s = Sector.zero

namespace Zeroed

variable {sector s : SectorId} {map : FreeMap} {disk₁ disk₂ : Disk}

/-- The sector of the header is none of those of the file. -/
theorem ne_sector (h : volume.Zeroed disk size sector header map map' disk₁ disk₂)
    (hs : s ∈ header.allSectors disk₁) : s ≠ sector := by
  rintro rfl
  exact h.allocated.free hs ((h.takes.mem_iff _).2 (.inr ⟨s, by simp, rfl⟩))

/-- Neither the zeros nor the header are written over the index sector. -/
theorem get_index (h : volume.Zeroed disk size sector header map map' disk₁ disk₂)
    (hsize : volume.freeMap.size ≤ disk.count) (data : Sector) (hs : s ∈ header.indexSectors) :
    (disk₂.put sector data).get s = disk₁.get s := by
  have hplaced := h.allocated.placed (h.takes.size_eq ▸ hsize)
  rw [Disk.get_put_of_ne (h.ne_sector (header.indexSectors_subset disk₁ hs))]
  exact h.sameOff.2 s (hplaced.notMem_dataSectors_of_mem_indexSectors hs)

/-- Nor is anything written over a sector that was taken before. -/
theorem get_of_mem (h : volume.Zeroed disk size sector header map map' disk₁ disk₂)
    (data : Sector) (hs : s.toNat ∈ volume.freeMap) :
    (disk₂.put sector data).get s = disk.get s := by
  have hs₁ : s.toNat ∈ map := (h.takes.mem_iff _).2 (.inl hs)
  have hne : s ≠ sector := by
    rintro rfl
    exact h.takes.free s (by simp) hs
  have hfree := fun hmem => h.allocated.free (s := s) hmem hs₁
  rw [Disk.get_put_of_ne hne,
    h.sameOff.2 s fun hmem => hfree (header.dataSectors_subset disk₁ hmem),
    h.allocated.sameOff.2 s fun hmem => hfree (header.indexSectors_subset disk₁ hmem)]

/-- Once the header is written, the file is where the free sectors were. -/
theorem lodged (h : volume.Zeroed disk size sector header map map' disk₁ disk₂)
    (hsize : volume.freeMap.size ≤ disk.count) {header' : FileHeader}
    (hlayout : header.SameLayout header') (hhome : header'.home = some sector) :
    volume.Lodged disk size sector header' map' (disk₂.put sector header'.encode) := by
  obtain ⟨others, htakes, hperm⟩ := h.allocated.takes
  have hcons : header'.IsConsistent := hlayout.isConsistent h.allocated.consistent
  have hindex := fun s hs => h.get_index hsize header'.encode (s := s) hs
  have hall : header'.allSectors (disk₂.put sector header'.encode) = header.allSectors disk₁ := by
    rw [hlayout.allSectors_eq, FileHeader.allSectors_congr hindex]
  have hdata : header'.dataSectors (disk₂.put sector header'.encode) =
      header.dataSectors disk₁ := by
    rw [hlayout.dataSectors_eq, FileHeader.dataSectors_congr hindex]
  refine ⟨Disk.header?_put_encode hcons hhome, hcons,
    hlayout.length_eq.trans h.allocated.length_eq, ⟨others, h.takes.append htakes, hall ▸ hperm⟩,
    ?_, ?_⟩
  · intro s hs
    rw [hdata] at hs
    rw [Disk.get_put_of_ne (h.ne_sector (header.dataSectors_subset disk₁ hs)), h.get_eq_zero s hs]
  · -- the index sector, those with the bytes and that of the header are all that is written
    rw [hall, FileHeader.allSectors]
    refine ((h.allocated.sameOff.trans h.sameOff).trans
      (Disk.SameOff.put disk₂ sector _)).mono ?_
    intro s hs
    simp only [List.mem_append, List.mem_cons, List.not_mem_nil, or_false] at hs ⊢
    rcases hs with (hs | hs) | hs
    · exact .inl (.inr (.inr hs))
    · exact .inl (.inr (.inl hs))
    · exact .inl (.inl hs)

end Zeroed

/-- A new file of `size` bytes is on the disk, and the volume in memory has it in entry `i`. The
sectors of the file were allotted to it on `disk₁`. -/
structure Stored (volume : Volume) (disk : Disk) (lost : List SectorId) (size : Nat)
    (i : Fin numEntries) (sector : SectorId) (header : FileHeader) (volume' : Volume)
    (disk₁ disk' : Disk) : Prop where
  /-- The header is on the disk. -/
  get_eq : disk'.get sector = header.encode
  /-- The index sector is as it was allotted. -/
  get_index : ∀ s ∈ header.indexSectors, disk'.get s = disk₁.get s
  /-- The sectors that were taken before are as they were. -/
  get_of_mem : ∀ s : SectorId, s.toNat ∈ volume.freeMap → disk'.get s = disk.get s
  /-- The header is found through the entry. -/
  header?_eq : (volume'.directory.entry i).isUnused = false →
    volume'.header? disk' i = some header
  /-- All bytes of the file are zero. -/
  contents?_eq : (volume'.directory.entry i).isUnused = false →
    volume'.contents? disk' i = some (List.replicate size 0)
  /-- The volume stays intact. -/
  intact : ∃ lost', volume'.Intact disk' lost' ∧
    ((volume'.directory.entry i).isUnused = false → lost' = lost) ∧ lost ⊆ lost'
  /-- The file is where the free sectors were. -/
  lodged : volume.Lodged disk size sector header volume'.freeMap disk'

/-- The tables are where they were, so writing them does not touch the new file. -/
theorem Stored.lodged_of_sameOff {sector : SectorId} {entry : DirEntry} {disk₁ disk₃ : Disk}
    (hstored : volume.Stored disk lost size i sector header (volume.withFile map' i entry) disk₁
      disk₃)
    (h : volume.Intact disk lost)
    (hoff : disk₃.SameOff ((volume.withFile map' i entry).tableSectors disk₃) disk') :
    volume.Lodged disk size sector header map' disk' := by
  have htables : (volume.withFile map' i entry).tableSectors disk₃ = volume.tableSectors disk :=
    tableSectors_congr rfl rfl fun o s hs =>
      hstored.get_of_mem s (h.partition.mem (metaSectors_subset o hs))
  exact hstored.lodged.flush h (htables ▸ hoff)

/-- A new file that was written in sectors that were free. -/
theorem Intact.stored (h : volume.Intact disk lost) {sector : SectorId} {entry : DirEntry}
    {map map₂ : FreeMap} {disk₁ disk₂ : Disk}
    (hunused : (volume.directory.entry i).isUnused = true)
    (hzeroed : volume.Zeroed disk size sector header map map₂ disk₁ disk₂)
    (hentry : entry.header = sector) {header' : FileHeader} (hlayout : header.SameLayout header')
    (hhome : header'.home = some sector) :
    volume.Stored disk lost size i sector header' (volume.withFile map₂ i entry) disk₁
      (disk₂.put sector header'.encode) := by
  subst hentry
  have hlodged := hzeroed.lodged h.size_le hlayout hhome
  obtain ⟨others, htakes, hperm⟩ := hlodged.takes
  have hsame := fun s hs => hzeroed.get_of_mem header'.encode (s := s) hs
  obtain ⟨lost', hintact, hlost, hsub⟩ := h.addFile hunused htakes hlodged.sameOff.1 hsame
    hlodged.header?_eq hlodged.consistent (hperm.cons entry.header) volume.now.2.clock
  have hself := entry_withFile_self volume map₂ i entry
  -- the entry may look unused all the same, and then the file is not found through it
  have hheader : ((volume.withFile map₂ i entry).directory.entry i).isUnused = false →
      (volume.withFile map₂ i entry).header? (disk₂.put entry.header header'.encode) i =
        some header' := by
    intro hused
    refine header?_eq_some_iff.2 ⟨hused, ?_⟩
    rw [hself]
    exact hlodged.header?_eq
  refine ⟨Disk.get_put_self _ _ _, ?_, hsame, hheader, ?_,
    ⟨lost', hintact, fun hused => hlost (hself ▸ hused), hsub⟩, hlodged⟩
  · rw [hlayout.indexSectors_eq]
    exact fun s hs => hzeroed.get_index h.size_le _ hs
  · intro hused
    rw [contents?, hheader hused, Option.map_some,
      hlodged.contents_eq (hintact.placed (hheader hused))]

/-! ## Making a file: the checks -/

/-- A new file that is refused is refused before anything is written. -/
theorem create_eq_throw (hsize : volume.freeMap.size ≤ 2 ^ 32) {cause : Refusal}
    (h : volume.refusal? name size = some cause) : volume.create name size = throw cause := by
  rw [refusal?] at h
  rw [create]
  simp only [Directory.find?_eq, Directory.insert?_eq, Option.isSome_map]
  -- the checks one after another, as `refusal?` lists them
  by_cases hexists : (volume.directory.indexOf? name).isSome = true
  · simp only [if_pos hexists] at h ⊢
    cases h
    rfl
  simp only [if_neg hexists] at h ⊢
  by_cases hfull : volume.numFree = 0
  · simp only [if_pos hfull, FreeMap.take?_eq_none_iff.2 hfull] at h ⊢
    cases h
    rfl
  -- from here on there is a sector for the header
  obtain ⟨sector, map₁, htake, htakes⟩ := FreeMap.exists_take? hsize (Nat.pos_of_ne_zero hfull)
  have hfree₁ : map₁.numFree = volume.numFree - 1 := by
    have hcount := htakes.numFree_add_length
    rw [List.length_singleton] at hcount
    rw [numFree]
    omega
  simp only [if_neg hfull, htake] at h ⊢
  by_cases hempty : Utf8.encode name = []
  · rw [if_pos hempty] at h
    simp only [DirEntry.make_eq_emptyName hempty, Transfer.liftM_refused]
    cases h
    rfl
  rw [if_neg hempty] at h
  by_cases hlong : maxNameBytes < (Utf8.encode name).length
  · rw [if_pos hlong] at h
    simp only [DirEntry.make_eq_nameTooLong hlong, Transfer.liftM_refused]
    cases h
    rfl
  rw [if_neg hlong] at h
  obtain ⟨entry, hmake⟩ : ∃ entry, DirEntry.make name sector = .ok entry :=
    ⟨_, DirEntry.make_eq_ok_iff.2 ⟨hempty, Nat.le_of_not_lt hlong, rfl⟩⟩
  simp only [hmake, Transfer.liftM_accepted, pure_bind]
  rcases hfirst : volume.directory.firstUnused? with _ | i
  · rw [if_pos hfirst] at h
    cases h
    rfl
  rw [if_neg (by rw [hfirst]; nofun)] at h
  simp only [Option.map_some]
  by_cases hmax : maxSectors < sectorsFor size
  · rw [if_pos hmax] at h
    rw [FileHeader.allocate_eq_fileTooLarge hmax]
    cases h
    rfl
  rw [if_neg hmax] at h
  by_cases hfree : volume.numFree - 1 < totalSectorsFor size
  · rw [if_pos hfree] at h
    rw [FileHeader.allocate_eq_noSpace (htakes.size_eq ▸ hsize) (Nat.le_of_not_lt hmax)
      (hfree₁ ▸ hfree)]
    cases h
    rfl
  · rw [if_neg hfree] at h
    cases h

/-- A new file has passed the checks: the sector of its header and its entry are found. -/
structure Accepted (volume : Volume) (name : String) (size : Nat) (sector : SectorId)
    (map : FreeMap) (entry : DirEntry) (i : Fin numEntries) : Prop where
  /-- The sector of the header was free. -/
  takes : volume.freeMap.Takes [sector] map
  /-- The entry is made for the name. -/
  make_eq : DirEntry.make name sector = .ok entry
  /-- There is an unused entry. -/
  firstUnused?_eq : volume.directory.firstUnused? = some i
  /-- The file has a possible size. -/
  size_le : sectorsFor size ≤ maxSectors
  /-- There are enough free sectors. -/
  totalSectorsFor_le : totalSectorsFor size ≤ map.numFree
  /-- The sectors are taken, and then the file and the tables are written. -/
  create_eq : volume.create name size = do
    let (header, map) ← FileHeader.empty.allocate map size
    writeNew header ((header.describe (Extension.ofName name) volume.now.1).setHome sector) sector
    (volume.withFile map i entry).flush
    return volume.withFile map i entry

/-- A new file that is not refused has passed the checks. -/
theorem exists_accepted (hsize : volume.freeMap.size ≤ 2 ^ 32)
    (h : volume.refusal? name size = none) :
    ∃ sector map entry i, volume.Accepted name size sector map entry i := by
  rw [refusal?] at h
  split_ifs at h with hexists hfull hempty hlong hdirectory hmax hfree
  obtain ⟨i, hfirst⟩ := Option.ne_none_iff_exists'.1 hdirectory
  obtain ⟨sector, map, htake, htakes⟩ := FreeMap.exists_take? hsize (Nat.pos_of_ne_zero hfull)
  have hcount := htakes.numFree_add_length
  rw [List.length_singleton] at hcount
  obtain ⟨entry, hmake⟩ : ∃ entry, DirEntry.make name sector = .ok entry :=
    ⟨_, DirEntry.make_eq_ok_iff.2 ⟨hempty, Nat.le_of_not_lt hlong, rfl⟩⟩
  refine ⟨sector, map, entry, i, htakes, hmake, hfirst, Nat.le_of_not_lt hmax, ?_, ?_⟩
  · rw [numFree] at hfree
    omega
  · rw [create]
    simp only [Directory.find?_eq, Directory.insert?_eq, Option.isSome_map, if_neg hexists, htake,
      hmake, hfirst, Transfer.liftM_accepted, pure_bind, Option.map_some, writeNew, liftM_bind,
      bind_assoc, withFile]

/-! ## Making a file: the outcome -/

/-- What comes of a new file of `size` bytes in entry `i`. -/
structure Created (volume : Volume) (disk : Disk) (lost : List SectorId) (name : String)
    (size : Nat) (i : Fin numEntries) (volume' : Volume) (disk' : Disk) : Prop where
  /-- The entry is the first that was unused. -/
  firstUnused?_eq : volume.directory.firstUnused? = some i
  /-- The entry is made for the name, and the others are as before. -/
  exists_entry : ∃ sector entry, DirEntry.make name sector = .ok entry ∧
    volume'.directory = volume.directory.setEntry i entry
  /-- All bytes of the file are zero. -/
  contents?_eq : (volume'.directory.entry i).isUnused = false →
    volume'.contents? disk' i = some (List.replicate size 0)
  /-- The other files are as before. -/
  contents?_of_ne : ∀ j, j ≠ i → volume'.contents? disk' j = volume.contents? disk j
  /-- The sectors of the file and of its header are taken. -/
  numFree_eq : volume'.numFree + (1 + totalSectorsFor size) = volume.numFree
  /-- The size of the volume does not change. -/
  size_eq : volume'.freeMap.size = volume.freeMap.size
  /-- The volume stays intact. -/
  intact : ∃ lost', volume'.Intact disk' lost' ∧
    ((volume'.directory.entry i).isUnused = false → lost' = lost) ∧ lost ⊆ lost'
  /-- The tables are on the disk. -/
  flushed : volume'.Flushed disk'
  /-- The clock tells the time once, and only the free map and the directory change besides. -/
  fields_eq : volume' =
    { volume.now.2 with freeMap := volume'.freeMap, directory := volume'.directory }
  /-- The file is where the free sectors were. -/
  exists_lodged : ∃ header, volume.Lodged disk size (volume'.directory.entry i).header header
    volume'.freeMap disk'

namespace Accepted

variable {sector : SectorId} {map map₂ : FreeMap} {entry : DirEntry} {disk₁ disk₃ : Disk}
  {header' : FileHeader}

/-- The entry of the new file names the sector of its header. -/
theorem header_eq (haccepted : volume.Accepted name size sector map entry i) (map' : FreeMap) :
    ((volume.withFile map' i entry).directory.entry i).header = sector := by
  rw [entry_withFile_self, DirEntry.header_make haccepted.make_eq]

/-- The sectors of the file are there to be taken. -/
theorem yields_allocate (haccepted : volume.Accepted name size sector map entry i)
    (h : volume.Intact disk lost) :
    (FileHeader.empty.allocate map size).run.Yields disk fun answer disk' =>
      ∃ header map', answer = .ok (header, map') ∧
        FileHeader.empty.Allocated map size disk header map' disk' :=
  FileHeader.yields_allocate (haccepted.takes.size_eq ▸ h.size_le_pow)
    (haccepted.takes.size_eq ▸ h.size_le) haccepted.size_le haccepted.totalSectorsFor_le

/-- Once its sectors are taken, the zeros and the header of the file are written. -/
theorem yields_writeNew (haccepted : volume.Accepted name size sector map entry i)
    (h : volume.Intact disk lost)
    (halloc : FileHeader.empty.Allocated map size disk header map₂ disk₁)
    (hlayout : header.SameLayout header') (hhome : header'.home = some sector) :
    (writeNew header header' sector).Yields disk₁ fun _ disk₃ =>
      volume.Stored disk lost size i sector header' (volume.withFile map₂ i entry) disk₁ disk₃ := by
  have hplaced := halloc.placed (haccepted.takes.size_eq ▸ h.size_le)
  rw [writeNew, Transfer.yields_bind, hplaced.inside.yields_sectors]
  have hdata : ∀ s ∈ header.dataSectors disk₁, s.toNat < disk₁.count :=
    fun s hs => hplaced.lt_count s (header.dataSectors_subset disk₁ hs)
  refine (yields_zeroSectors hdata).bind ?_
  rintro - disk₂ ⟨hoff, hzero⟩
  have hsector : sector.toNat < disk₂.count := by
    rw [hoff.1, halloc.sameOff.1]
    exact Nat.lt_of_lt_of_le (haccepted.takes.lt_size sector (List.mem_singleton_self _)) h.size_le
  rw [FileHeader.store, Transfer.yields_store hsector]
  exact h.stored (Directory.isUnused_of_firstUnused? haccepted.firstUnused?_eq)
    ⟨haccepted.takes, halloc, hoff, hzero⟩ (DirEntry.header_make haccepted.make_eq) hlayout hhome

/-- Once the tables are written as well, the file is made. -/
theorem created (haccepted : volume.Accepted name size sector map entry i)
    (h : volume.Intact disk lost)
    (halloc : FileHeader.empty.Allocated map size disk header map₂ disk₁)
    (hstored : volume.Stored disk lost size i sector header' (volume.withFile map₂ i entry) disk₁
      disk₃)
    (hoff : disk₃.SameOff ((volume.withFile map₂ i entry).tableSectors disk₃) disk')
    (hintact : ∃ lost', (volume.withFile map₂ i entry).Intact disk' lost' ∧
      (((volume.withFile map₂ i entry).directory.entry i).isUnused = false → lost' = lost) ∧
      lost ⊆ lost')
    (hflushed : (volume.withFile map₂ i entry).Flushed disk') :
    volume.Created disk lost name size i (volume.withFile map₂ i entry) disk' := by
  obtain ⟨lost', hintact₃, -⟩ := hstored.intact
  refine ⟨haccepted.firstUnused?_eq, ⟨sector, entry, haccepted.make_eq, rfl⟩, ?contents, ?others,
    ?numFree, halloc.size_eq.trans haccepted.takes.size_eq, hintact, hflushed, rfl, header',
    (haccepted.header_eq map₂).symm ▸ hstored.lodged_of_sameOff h hoff⟩
  case contents =>
    intro hused
    exact (hintact₃.contents?_of_sameOff hoff).trans (hstored.contents?_eq hused)
  case others =>
    intro j hj
    refine (hintact₃.contents?_of_sameOff hoff).trans
      (h.contents?_congr (entry_withFile_of_ne volume map₂ entry hj) fun s hs => ?_)
    exact hstored.get_of_mem s (h.partition.mem hs)
  case numFree =>
    have htotal := halloc.numFree_eq
    have hcount := haccepted.takes.numFree_add_length
    rw [List.length_singleton] at hcount
    show map₂.numFree + _ = volume.freeMap.numFree
    omega

end Accepted

theorem Intact.yields_create (h : volume.Intact disk lost) (name : String) (size : Nat) :
    (volume.create name size).run.Yields disk fun answer disk' =>
      match volume.refusal? name size with
      | some cause => answer = .error cause ∧ disk' = disk
      | none => ∃ volume' i, answer = .ok volume' ∧
          volume.Created disk lost name size i volume' disk' := by
  rcases hrefusal : volume.refusal? name size with _ | cause
  swap
  · rw [create_eq_throw h.size_le_pow hrefusal, Transfer.yields_run_throw]
    exact ⟨rfl, rfl⟩
  obtain ⟨sector, map, entry, i, haccepted⟩ := exists_accepted h.size_le_pow hrefusal
  rw [haccepted.create_eq, Transfer.yields_run_bind]
  refine (haccepted.yields_allocate h).mono ?_
  rintro - disk₁ ⟨header, map₂, rfl, halloc⟩
  simp only [Transfer.yields_run_bind, Transfer.yields_run_lift]
  refine (haccepted.yields_writeNew h halloc (header.sameLayout_describe _ _ _) rfl).mono ?_
  intro _ disk₃ hstored
  obtain ⟨lost', hintact, hlost⟩ := hstored.intact
  refine hintact.yields_flush.mono ?_
  rintro - disk₄ ⟨hintact₄, hflushed, hoff⟩
  rw [Transfer.yields_run_pure]
  exact ⟨_, i, rfl, haccepted.created h halloc hstored hoff ⟨lost', hintact₄, hlost⟩ hflushed⟩

/-! ## Removing a file -/

/-- What comes of the removal of the file in entry `i`. -/
structure Removed (volume : Volume) (disk : Disk) (lost : List SectorId) (i : Fin numEntries)
    (volume' : Volume) (disk' : Disk) : Prop where
  /-- The entry is unused, and the others are as before. -/
  directory_eq : volume'.directory = volume.directory.setEntry i .unused
  /-- The other files are as before. -/
  contents?_of_ne : ∀ j, j ≠ i → volume'.contents? disk' j = volume.contents? disk j
  /-- The sectors of the file and of its header are free. -/
  numFree_eq : ∀ bytes, volume.contents? disk i = some bytes →
    volume'.numFree = volume.numFree + (1 + totalSectorsFor bytes.length)
  /-- The size of the volume does not change. -/
  size_eq : volume'.freeMap.size = volume.freeMap.size
  /-- The volume stays intact. -/
  intact : volume'.Intact disk' lost
  /-- The tables are on the disk. -/
  flushed : volume'.Flushed disk'
  /-- The sectors of the file are given back. -/
  givesBack : volume.freeMap.GivesBack (volume.sectorsOf disk lost (.entry i)) volume'.freeMap
  /-- Only the free map and the directory change in memory. -/
  fields_eq : volume' = { volume with freeMap := volume'.freeMap, directory := volume'.directory }
  /-- Only the tables are written. -/
  sameOff : disk.SameOff (volume.tableSectors disk) disk'

theorem Intact.yields_remove (h : volume.Intact disk lost) (name : String) :
    (volume.remove name).run.Yields disk fun answer disk' =>
      match volume.directory.indexOf? name with
      | none => answer = .error .notFound ∧ disk' = disk
      | some i => ∃ volume', answer = .ok volume' ∧
          volume.Removed disk lost i volume' disk' := by
  rw [remove]
  simp only [Directory.erase?_eq]
  rcases hindex : volume.directory.indexOf? name with _ | i
  · simp only [Option.map_none, Transfer.yields_run_throw]
    exact ⟨trivial, trivial⟩
  have hused := Directory.isUnused_of_indexOf? hindex
  obtain ⟨header, hheader, hcons⟩ := h.exists_header i hused
  have hstored := (header?_eq_some_iff.1 hheader).2
  have hplaced := h.placed hheader
  have hlayout := header.sameLayout_forget
  have hperm : (volume.sectorsOf disk lost (.entry i)).Perm
      ((volume.directory.entry i).header :: header.allSectors disk) := sectorsOf_entry hheader
  -- the sectors are those that the header on the disk lists, wherever its home is
  have htaken : ∀ s ∈ FileHeader.allSectors { header with home := none } disk,
      s.toNat ∈ volume.freeMap := by
    rw [hlayout.allSectors_eq]
    exact fun s hs => h.partition.mem (allSectors_subset hheader hs)
  simp only [Option.map_some, Transfer.yields_run_bind, Transfer.yields_run_lift,
    FileHeader.yields_load (h.header_lt_count hheader) hstored]
  have hrelease := (hlayout.placed hplaced).yields_release htaken
  rw [hlayout.allSectors_eq] at hrelease
  refine hrelease.mono ?_
  rintro ⟨freed, map₁⟩ disk₁ ⟨rfl, hback⟩
  -- the sector of the header is given back after the others
  have hlt : (volume.directory.entry i).header.toNat < map₁.size := by
    rw [hback.size_eq]
    exact h.partition.lt_size (metaSectors_subset (.entry i) (header_mem hheader))
  obtain ⟨map₂, hclear, hback₁⟩ := FreeMap.exists_clear hlt
  have hall : volume.freeMap.GivesBack (volume.sectorsOf disk₁ lost (.entry i)) map₂ :=
    (hback.append hback₁).perm ((List.perm_append_singleton _ _).trans hperm.symm)
  have hintact := h.removeFile hall
  simp only [hclear, Transfer.liftM_run_ok, Transfer.yields_run_pure]
  refine hintact.yields_flush.mono ?_
  rintro - disk₂ ⟨hintact₂, hflushed, hoff⟩
  -- only the tables are written, so all files but the one are read back as before
  refine ⟨_, rfl, rfl, ?_, ?_, hall.size_eq, hintact₂, hflushed, hall, rfl, hoff⟩
  · intro j hj
    refine (hintact.contents?_of_sameOff hoff).trans (h.contents?_congr ?_ fun _ _ => rfl)
    rw [Directory.entry_setEntry, if_neg hj]
  · intro bytes hbytes
    rw [contents?, hheader, Option.map_some, Option.some.injEq] at hbytes
    have hcount := hall.numFree_eq (h.partition.nodup _) fun s hs => h.partition.mem hs
    rw [hperm.length_eq, List.length_cons, hcons.length_allSectors] at hcount
    rw [← hbytes, FileHeader.length_contents, numFree, numFree, hcount, Nat.add_comm 1]

end SectorStore.Volume
