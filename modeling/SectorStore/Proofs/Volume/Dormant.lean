import SectorStore.Proofs.FileHeader.Sited
import SectorStore.Proofs.Volume.Evolution

/-!
# Removed files

Removing a file leaves its header and its bytes on the disk. The header stays `Dormant` until one of
its sectors is handed out again, and whoever still knows its sector can read and write the file.
Such a write only `Strays`: it touches none of the sectors of the tables' headers, the tables and
the files of the directory, but for the free map, where it takes the sectors by which the removed
file grows (`Dormant.yields_writeAt`). These may be sectors that the file lists already, so of its
sectors only the index sector is known to differ from the others.
-/

namespace SectorStore

/-- The sector of a header, and the sectors of the file if there is a header. -/
def Disk.fileSectors (disk : Disk) (sector : SectorId) : List SectorId :=
  sector :: match disk.header? sector with
    | some header => header.allSectors disk
    | none => []

/-- The sector holds the header of a file on the disk. -/
structure Disk.Holds (disk : Disk) (sector : SectorId) (header : FileHeader) : Prop where
  /-- The header is in the sector. -/
  header?_eq : disk.header? sector = some header
  /-- The sector is on the disk. -/
  lt_count : sector.toNat < disk.count
  /-- The sectors of the file are on the disk. -/
  sited : header.Sited disk
  /-- The header is not in the index sector. -/
  notMem_indexSectors : sector ∉ header.indexSectors

namespace Disk.Holds

variable {disk disk' : Disk} {sector : SectorId} {header : FileHeader}

theorem fileSectors_eq (h : disk.Holds sector header) :
    disk.fileSectors sector = sector :: header.allSectors disk := by
  rw [fileSectors, h.header?_eq]

/-- The header is found as long as the sectors of the file stay. -/
theorem congr (h : disk.Holds sector header) (hcount : disk'.count = disk.count)
    (hsame : ∀ s ∈ disk.fileSectors sector, disk'.get s = disk.get s) :
    disk'.Holds sector header ∧ disk'.fileSectors sector = disk.fileSectors sector := by
  rw [h.fileSectors_eq] at hsame ⊢
  have hindex : ∀ s ∈ header.indexSectors, disk'.get s = disk.get s := fun s hs =>
    hsame s (List.mem_cons_of_mem _ (header.indexSectors_subset disk hs))
  have h' : disk'.Holds sector header :=
    ⟨(header?_congr (hsame sector (List.mem_cons_self ..))).trans h.header?_eq,
      hcount.symm ▸ h.lt_count, h.sited.congr hcount hindex, h.notMem_indexSectors⟩
  exact ⟨h', by rw [h'.fileSectors_eq, FileHeader.allSectors_congr hindex]⟩

end Disk.Holds

namespace Volume

variable {volume volume' volume'' : Volume} {disk disk' disk'' : Disk}
  {lost lost' lost'' fresh : List SectorId} {sector s : SectorId} {i : Fin numEntries}
  {header header' header'' : FileHeader} {file : OpenFile} {offset stop : Nat} {data : Bytes}

namespace Intact

/-- The header of a file of the directory is where the directory says. -/
theorem exists_holds (h : volume.Intact disk lost) (hlists : volume.Lists sector i) :
    (∃ header, disk.Holds sector header) ∧
      disk.fileSectors sector ⊆ volume.sectorsOf disk [] (.entry i) := by
  obtain ⟨header, hheader, -⟩ := h.exists_header i hlists.1
  obtain ⟨hused, hstored⟩ := header?_eq_some_iff.1 hheader
  have hholds : disk.Holds sector header := by
    rw [← hlists.2]
    exact ⟨hstored, h.header_lt_count hheader, (h.placed hheader).sited, fun hs =>
      h.header_notMem_allSectors hheader (header.indexSectors_subset disk hs)⟩
  refine ⟨⟨header, hholds⟩, ?_⟩
  rw [hholds.fileSectors_eq, ← hlists.2]
  exact (sectorsOf_entry hheader).symm.subset

/-- What is idle depends on the free map and on what is lost. -/
theorem idle_congr (h : volume.Intact disk lost) (h' : volume.Intact disk' lost) :
    volume.Idle disk' s ↔ volume.Idle disk s :=
  h'.idle_iff.trans h.idle_iff.symm

/-- Sectors that were idle and sectors that nobody got are idle. -/
theorem idle_of_takes (h : volume.Intact disk lost) (h' : volume'.Intact disk' (lost ++ fresh))
    (htakes : volume.freeMap.Takes fresh volume'.freeMap)
    (hs : volume.Idle disk s ∨ s ∈ fresh) : volume'.Idle disk' s := by
  rw [h'.idle_iff]
  intro hmem
  rcases hs with hidle | hs
  · rcases (htakes.mem_iff _).1 hmem with hold | ⟨t, ht, hts⟩
    · exact List.mem_append_left _ (h.idle_iff.1 hidle hold)
    · exact List.mem_append_right _ (UInt32.toNat_inj.1 hts ▸ ht)
  · exact List.mem_append_right _ hs

/-- Whatever is written to idle sectors, the volume stays as it is. -/
theorem congr_of_idle (h : volume.Intact disk lost) {sectors : List SectorId}
    (hoff : disk.SameOff sectors disk') (hidle : ∀ s ∈ sectors, volume.Idle disk s) :
    volume.Intact disk' lost ∧ (volume.Flushed disk → volume.Flushed disk') ∧
      ∀ i, volume.contents? disk' i = volume.contents? disk i := by
  have hsame : ∀ o, ∀ s ∈ volume.sectorsOf disk [] o, disk'.get s = disk.get s :=
    fun o s hs => hoff.2 s fun hmem => hidle s hmem o hs
  refine ⟨h.congr hoff.1 fun o s hs => hsame o s (metaSectors_subset o hs), ?_, ?_⟩
  · exact fun hflushed => h.flushed_congr hflushed (hsame .freeMapFile) (hsame .directoryFile)
  · exact fun i => h.contents?_congr rfl (hsame (.entry i))

end Intact

/-- The sector holds the header of a file that is not in the directory, and whose sectors neither
the tables nor the files of the directory have. -/
structure Dormant (volume : Volume) (disk : Disk) (sector : SectorId) (header : FileHeader) : Prop
    extends disk.Holds sector header where
  /-- The sectors are idle. -/
  idle : ∀ s ∈ disk.fileSectors sector, volume.Idle disk s

/-- A header stays dormant, or becomes so, where its sectors are left alone and are idle. -/
theorem Dormant.of_kept (h : disk.Holds sector header) (hcount : disk'.count = disk.count)
    (hkept : ∀ s ∈ disk.fileSectors sector, disk'.get s = disk.get s ∧ volume'.Idle disk' s) :
    volume'.Dormant disk' sector header ∧ disk'.fileSectors sector = disk.fileSectors sector := by
  obtain ⟨hholds, hsectors⟩ := h.congr hcount fun s hs => (hkept s hs).1
  exact ⟨⟨hholds, fun s hs => (hkept s (hsectors ▸ hs)).2⟩, hsectors⟩

/-- What writes to a removed file make of the volume. -/
structure Strays (volume : Volume) (disk : Disk) (sector : SectorId) (header : FileHeader)
    (volume' : Volume) (disk' : Disk) (lost' : List SectorId) (header' : FileHeader) : Prop where
  /-- The volume stays intact. -/
  intact : volume'.Intact disk' lost'
  /-- The tables are on the disk. -/
  flushed : volume'.Flushed disk'
  /-- Nothing but the free map and the clock changes in memory. -/
  fields_eq : volume' = { volume with freeMap := volume'.freeMap, clock := volume'.clock }
  /-- The size of the volume does not change. -/
  size_eq : volume'.freeMap.size = volume.freeMap.size
  /-- The files of the directory are as before. -/
  contents?_eq : ∀ i, volume'.contents? disk' i = volume.contents? disk i
  /-- No sector is given back. -/
  mem_of_mem : ∀ n ∈ volume.freeMap, n ∈ volume'.freeMap
  /-- The sectors that the removed file gets are taken. -/
  numFree_eq : volume'.numFree + totalSectorsFor header'.length =
    volume.numFree + totalSectorsFor header.length
  /-- The header of the removed file stays dormant. -/
  dormant : volume'.Dormant disk' sector header'
  /-- The removed file gets no sectors but such as were free. -/
  fileSectors_from : ∀ s ∈ disk'.fileSectors sector,
    s ∈ disk.fileSectors sector ∨ volume.HandsOut volume' s
  /-- Idle sectors that are none of the file are left alone unless it gets them. -/
  of_idle : ∀ s, volume.Idle disk s → s ∉ disk.fileSectors sector → ¬ volume.HandsOut volume' s →
    disk'.get s = disk.get s ∧ volume'.Idle disk' s

namespace Strays

theorem refl (h : volume.Dormant disk sector header) (hintact : volume.Intact disk lost)
    (hflushed : volume.Flushed disk) :
    volume.Strays disk sector header volume disk lost header :=
  ⟨hintact, hflushed, rfl, rfl, fun _ => rfl, fun _ => id, rfl, h, fun _ => .inl,
    fun _ hidle _ _ => ⟨rfl, hidle⟩⟩

theorem trans (h : volume.Strays disk sector header volume' disk' lost' header')
    (h' : volume'.Strays disk' sector header' volume'' disk'' lost'' header'') :
    volume.Strays disk sector header volume'' disk'' lost'' header'' where
  intact := h'.intact
  flushed := h'.flushed
  fields_eq := by rw [h'.fields_eq, h.fields_eq]
  size_eq := h'.size_eq.trans h.size_eq
  contents?_eq i := (h'.contents?_eq i).trans (h.contents?_eq i)
  mem_of_mem n hn := h'.mem_of_mem n (h.mem_of_mem n hn)
  numFree_eq := by
    have hfirst := h.numFree_eq
    have hsecond := h'.numFree_eq
    omega
  dormant := h'.dormant
  fileSectors_from s hs := by
    rcases h'.fileSectors_from s hs with hs | hout
    · exact (h.fileSectors_from s hs).imp_right fun hout => ⟨hout.1, h'.mem_of_mem _ hout.2⟩
    · exact .inr ⟨fun hmem => hout.1 (h.mem_of_mem _ hmem), hout.2⟩
  of_idle s hidle hnot hkept := by
    -- what was handed out in the first step is taken still, and so was handed out over both
    have hfirst : ¬ volume.HandsOut volume' s := fun hout =>
      hkept ⟨hout.1, h'.mem_of_mem _ hout.2⟩
    obtain ⟨hget, hidle'⟩ := h.of_idle s hidle hnot hfirst
    obtain ⟨hget', hidle''⟩ := h'.of_idle s hidle'
      (fun hs => (h.fileSectors_from s hs).elim hnot hfirst)
      fun hout => hkept ⟨fun hmem => hout.1 (h.mem_of_mem _ hmem), hout.2⟩
    exact ⟨hget'.trans hget, hidle''⟩

/-- The directory stays. -/
theorem directory_eq (h : volume.Strays disk sector header volume' disk' lost' header') :
    volume'.directory = volume.directory := by
  rw [h.fields_eq]

end Strays

/-- A removed file about to be written, with its header in memory already grown. -/
structure Regrown (volume : Volume) (disk : Disk) (lost : List SectorId) (header : FileHeader)
    (stop : Nat) (header' : FileHeader) (volume' : Volume) (disk' : Disk)
    (fresh : List SectorId) : Prop where
  /-- The file ends where it can. -/
  length_eq : header'.length = FileHeader.reach header.length volume.numFree stop
  /-- The new sectors were free. -/
  takes : volume.freeMap.Takes fresh volume'.freeMap
  /-- Nothing but the free map changes in memory. -/
  fields_eq : volume' = { volume with freeMap := volume'.freeMap }
  /-- The new sectors belong to nobody in the directory. -/
  intact : volume'.Intact disk' (lost ++ fresh)
  /-- The tables are on the disk. -/
  flushed : volume'.Flushed disk'
  /-- The files of the directory are as before. -/
  contents?_eq : ∀ i, volume'.contents? disk' i = volume.contents? disk i
  /-- Only the length and the sectors change in the header. -/
  header_eq : header' = { header with numBytes := header'.numBytes, map := header'.map }
  /-- Nothing at all happens to a file that stays as long as it is. -/
  eq_of_length_eq : header'.length = header.length →
    header' = header ∧ volume' = volume ∧ disk' = disk
  /-- The header in memory is sited on the disk. -/
  sited : header'.Sited disk'
  /-- It has the new sectors in addition to the old ones. -/
  allSectors_eq : header'.allSectors disk' = header.allSectors disk ++ fresh
  /-- It has the same index sector. -/
  indexSectors_eq : header'.indexSectors = header.indexSectors
  /-- The tables and the sectors of the file are written. -/
  sameOff : disk.SameOff (volume.tableSectors disk ++ header'.dataSectors disk') disk'

/-- A file that ends where it did is as it was. -/
theorem Dormant.regrown_self (h : volume.Dormant disk sector header)
    (hintact : volume.Intact disk lost) (hflushed : volume.Flushed disk)
    (hreach : FileHeader.reach header.length volume.numFree stop = header.length) :
    volume.Regrown disk lost header stop header volume disk [] where
  length_eq := hreach.symm
  takes := .nil _
  fields_eq := rfl
  intact := (List.append_nil lost).symm ▸ hintact
  flushed := hflushed
  contents?_eq _ := rfl
  header_eq := rfl
  eq_of_length_eq _ := ⟨rfl, rfl, rfl⟩
  sited := h.sited
  allSectors_eq := (List.append_nil _).symm
  indexSectors_eq := rfl
  sameOff := .refl _ _

/-- Growing a removed file runs through, and takes free sectors only. -/
theorem Dormant.yields_extend (h : volume.Dormant disk sector header)
    (hintact : volume.Intact disk lost) (hflushed : volume.Flushed disk) {offset stop : Nat}
    (hle : offset ≤ stop) (hsum : stop < sumLimit) :
    (OpenFile.extend header volume offset stop).Yields disk fun answer disk' =>
      ∃ fresh, volume.Regrown disk lost header stop answer.1 answer.2 disk' fresh := by
  rcases OpenFile.extend_cases h.sited.consistent hintact.size_le_pow hle hsum with
    ⟨hreach, heq⟩ | ⟨header', map', fresh, hlt, hreach, hnew, hgap, heq⟩
  · rw [heq, Transfer.yields_pure]
    exact ⟨[], h.regrown_self hintact hflushed hreach⟩
  rw [heq]
  let volume₁ : Volume := { volume with freeMap := map' }
  have h₁ : volume₁.Intact disk (lost ++ fresh) := hintact.intact_of_takes hnew.takes
  -- the flush only writes the tables, and no sector of the removed file is one of theirs
  refine h₁.yields_flush.bind ?_
  rintro - disk₁ ⟨h₂, hflushed₂, hoff₂⟩
  obtain ⟨hholds₂, hsectors₂⟩ := h.congr hoff₂.1 fun s hs =>
    hoff₂.2 s (h.idle s hs).notMem_tableSectors
  have hsited₂ : header'.Sited disk₁ := hnew.sited hholds₂.sited fun s hs =>
    h₂.lt_count (o := .lost) (List.mem_append_right lost hs)
  have hall₂ : header'.allSectors disk₁ = header.allSectors disk ++ fresh := by
    rw [hholds₂.fileSectors_eq, h.fileSectors_eq, List.cons.injEq] at hsectors₂
    rw [hnew.allSectors_eq, hsectors₂.2]
  have hidle₂ : ∀ s ∈ header'.dataSectors disk₁, volume₁.Idle disk₁ s := by
    intro s hs
    refine hintact.idle_of_takes h₂ hnew.takes ?_
    rcases List.mem_append.1 (hall₂ ▸ header'.dataSectors_subset disk₁ hs) with hs | hs
    · exact .inl (h.idle s (h.fileSectors_eq ▸ List.mem_cons_of_mem _ hs))
    · exact .inr hs
  -- the gap is filled with zeros in sectors that no file of the volume has
  refine (hsited₂.yields_writeAt hgap).bind ?_
  rintro written disk₂ ⟨-, hoff₃, -⟩
  obtain ⟨h₃, hflushed₃, hcontents₃⟩ := h₂.congr_of_idle hoff₃ hidle₂
  have hindex₃ : ∀ s ∈ header'.indexSectors, disk₂.get s = disk₁.get s := fun s hs =>
    hoff₃.2 s (hsited₂.notMem_dataSectors s hs)
  rw [Transfer.yields_pure]
  refine ⟨fresh, ?length, hnew.takes, rfl, h₃, hflushed₃ hflushed₂,
    fun i => (hcontents₃ i).trans (h₁.contents?_of_sameOff hoff₂), hnew.fields_eq, ?longer,
    hsited₂.congr hoff₃.1 hindex₃, ?sectors, hnew.indexSectors_eq, ?touched⟩
  case length => rw [hnew.length_eq, hreach]
  case longer =>
    intro hlength
    rw [hnew.length_eq] at hlength
    omega
  case sectors => rw [FileHeader.allSectors_congr hindex₃, hall₂]
  case touched =>
    rw [FileHeader.dataSectors_congr hindex₃]
    exact hoff₂.trans hoff₃

namespace Regrown

variable {disk₁ : Disk}

/-- The grown file has its old sectors and the new ones. -/
theorem mem_or_mem (h : volume.Regrown disk lost header stop header' volume' disk₁ fresh)
    (hholds : disk.Holds sector header) (hs : s ∈ sector :: header'.allSectors disk₁) :
    s ∈ disk.fileSectors sector ∨ s ∈ fresh := by
  rw [hholds.fileSectors_eq]
  rw [h.allSectors_eq, ← List.cons_append, List.mem_append] at hs
  exact hs

/-- The header of the grown file is found with the sectors of the file once it is stored, whatever
bytes are written to the file. -/
theorem holds (h : volume.Regrown disk lost header stop header' volume' disk₁ fresh)
    (hholds : disk.Holds sector header)
    (hoff : disk₁.SameOff (sector :: header'.dataSectors disk₁) disk')
    (hlayout : header'.SameLayout header'') (hstored : disk'.header? sector = some header'') :
    disk'.Holds sector header'' ∧
      disk'.fileSectors sector = sector :: header'.allSectors disk₁ := by
  -- the index sector is neither that of the header nor one with bytes
  have hindex : ∀ s ∈ header'.indexSectors, disk'.get s = disk₁.get s := by
    intro s hs
    refine hoff.2 s fun hmem => ?_
    rcases List.mem_cons.1 hmem with rfl | hmem
    · exact hholds.notMem_indexSectors (h.indexSectors_eq ▸ hs)
    · exact h.sited.notMem_dataSectors s hs hmem
  have hholds' : disk'.Holds sector header'' := by
    refine ⟨hstored, ?_, hlayout.sited (h.sited.congr hoff.1 hindex), ?_⟩
    · rw [hoff.1, h.sameOff.1]
      exact hholds.lt_count
    · rw [hlayout.indexSectors_eq, h.indexSectors_eq]
      exact hholds.notMem_indexSectors
  refine ⟨hholds', ?_⟩
  rw [hholds'.fileSectors_eq, hlayout.allSectors_eq, FileHeader.allSectors_congr hindex]

/-- The sectors by which the file has grown are no longer free. -/
theorem numFree_eq (h : volume.Regrown disk lost header stop header' volume' disk₁ fresh)
    (hcons : header.IsConsistent) :
    volume'.numFree + totalSectorsFor header'.length =
      volume.numFree + totalSectorsFor header.length := by
  have hcount := h.takes.numFree_add_length
  have htotal := congrArg List.length h.allSectors_eq
  rw [List.length_append, h.sited.consistent.length_allSectors, hcons.length_allSectors] at htotal
  rw [htotal, numFree, numFree]
  omega

/-- A write to a removed file that has grown, once the data and the header are on the disk. -/
theorem strays (h : volume.Regrown disk lost header stop header' volume' disk₁ fresh)
    (hdormant : volume.Dormant disk sector header) (hintact : volume.Intact disk lost)
    (hoff : disk₁.SameOff (sector :: header'.dataSectors disk₁) disk')
    (hlayout : header'.SameLayout header'') (hstored : disk'.header? sector = some header'')
    (hvolume : volume'' = { volume' with clock := volume''.clock }) :
    volume.Strays disk sector header volume'' disk' (lost ++ fresh) header'' := by
  have hmap : volume''.freeMap = volume'.freeMap := by rw [hvolume]
  have hidle : ∀ s, volume.Idle disk s ∨ s ∈ fresh → volume'.Idle disk₁ s := fun s =>
    hintact.idle_of_takes h.intact h.takes
  have hwritten : ∀ s ∈ sector :: header'.dataSectors disk₁,
      s ∈ disk.fileSectors sector ∨ s ∈ fresh := fun s hs =>
    h.mem_or_mem hdormant.toHolds (List.cons_subset_cons _ (header'.dataSectors_subset disk₁) hs)
  obtain ⟨hintact', hflushed', hcontents'⟩ := h.intact.congr_of_idle hoff fun s hs =>
    hidle s ((hwritten s hs).imp_left (hdormant.idle s))
  obtain ⟨hholds, hsectors'⟩ := h.holds hdormant.toHolds hoff hlayout hstored
  have hsectors : ∀ s ∈ disk'.fileSectors sector, s ∈ disk.fileSectors sector ∨ s ∈ fresh :=
    fun s hs => h.mem_or_mem hdormant.toHolds (hsectors' ▸ hs)
  have hfresh : ∀ s ∈ fresh, volume.HandsOut volume'' s := fun s hs =>
    ⟨h.takes.free s hs, hmap ▸ (h.takes.mem_iff _).2 (.inr ⟨s, hs, rfl⟩)⟩
  have hdone : volume''.Intact disk' (lost ++ fresh) := hvolume ▸ hintact'.withClock _
  -- to be idle is a matter of the free map and the headers, which the write leaves alone
  have hidle' : ∀ s, volume.Idle disk s ∨ s ∈ fresh → volume''.Idle disk' s := by
    intro s hs
    rw [hdone.idle_iff, hmap, ← hintact'.idle_iff, h.intact.idle_congr hintact']
    exact hidle s hs
  constructor
  case intact => exact hdone
  case flushed =>
    rw [hvolume]
    exact ⟨(hflushed' h.flushed).1, (hflushed' h.flushed).2⟩
  case fields_eq => rw [hvolume, h.fields_eq]
  case size_eq => rw [hmap, h.takes.size_eq]
  case contents?_eq =>
    intro i
    rw [hvolume]
    exact (hcontents' i).trans (h.contents?_eq i)
  case mem_of_mem => exact fun n hn => hmap ▸ (h.takes.mem_iff n).2 (.inl hn)
  case numFree_eq =>
    rw [hlayout.length_eq, numFree, hmap]
    exact h.numFree_eq hdormant.sited.consistent
  case dormant =>
    exact ⟨hholds, fun s hs => hidle' s ((hsectors s hs).imp_left (hdormant.idle s))⟩
  case fileSectors_from => exact fun s hs => (hsectors s hs).imp_right (hfresh s)
  case of_idle =>
    -- a sector that is not written was idle, and nobody got it
    intro s hs hnot hkept
    have hnone : ¬ (s ∈ disk.fileSectors sector ∨ s ∈ fresh) := fun hor =>
      hor.elim hnot fun hmem => hkept (hfresh s hmem)
    have hfirst : s ∉ volume.tableSectors disk ++ header'.dataSectors disk₁ := by
      rw [List.mem_append, not_or]
      exact ⟨hs.notMem_tableSectors, fun hmem => hnone (hwritten s (List.mem_cons_of_mem _ hmem))⟩
    have hlater : s ∉ sector :: header'.dataSectors disk₁ := fun hmem => hnone (hwritten s hmem)
    exact ⟨(hoff.2 s hlater).trans (h.sameOff.2 s hfirst), hidle' s (.inl hs)⟩

end Regrown

theorem Dormant.yields_header (h : volume.Dormant disk sector header)
    (hfile : file.headerSector = sector) {post : FileHeader → Disk → Prop} :
    file.header.Yields disk post ↔ post header disk := by
  subst hfile
  exact FileHeader.yields_loadHome h.lt_count h.header?_eq

/-- A removed file can be read. -/
theorem Dormant.yields_readBytes (h : volume.Dormant disk sector header)
    (hfile : file.headerSector = sector) {offset count : Nat} (hsum : offset + count < sumLimit) :
    (file.readBytes offset count).Yields disk fun _ disk' => disk' = disk := by
  rw [OpenFile.readBytes, Transfer.yields_bind, h.yields_header hfile]
  exact h.sited.yields_readBytes hsum

/-- A write to a removed file runs through and leaves the volume alone, but for the sectors by which
the file grows. -/
theorem Dormant.yields_writeAt (h : volume.Dormant disk sector header)
    (hintact : volume.Intact disk lost) (hflushed : volume.Flushed disk)
    (hfile : file.headerSector = sector) {offset : Nat} {data : Bytes}
    (hsum : offset + data.length < sumLimit) :
    (file.writeAt volume offset data).Yields disk fun answer disk' => ∃ lost' header',
      volume.Strays disk sector header answer.2 disk' lost' header' ∧
        header'.length = FileHeader.reach header.length volume.numFree (offset + data.length) ∧
        answer.1 = min data.length (header'.length - offset) := by
  subst hfile
  rw [OpenFile.writeAt_eq _ _ hsum, Transfer.yields_bind, h.yields_header rfl]
  refine (h.yields_extend hintact hflushed (Nat.le_add_right offset data.length) hsum).bind ?_
  rintro ⟨header', volume'⟩ disk₁ ⟨fresh, hgrown⟩
  simp only at hgrown
  refine (hgrown.sited.yields_writeAt hsum).bind ?_
  rintro written disk₂ ⟨hwritten, hoff, hnothing⟩
  simp only
  split
  · -- the header is stamped and written back to its sector
    have hlayout := header'.sameLayout_setModified volume'.now.1
    have hlt : file.headerSector.toNat < disk₂.count := by
      rw [hoff.1, hgrown.sameOff.1]
      exact h.lt_count
    have hhome : (header'.setModified volume'.now.1).home = some file.headerSector := by
      have hhome := Disk.home_of_header? h.header?_eq
      rwa [FileHeader.setModified, hgrown.header_eq]
    rw [FileHeader.store, Transfer.yields_bind, Transfer.yields_store hlt, Transfer.yields_pure]
    refine ⟨_, _, hgrown.strays h hintact ?_ hlayout
      (Disk.header?_put_encode (hlayout.isConsistent hgrown.sited.consistent) hhome) rfl, ?_, ?_⟩
    · exact (hoff.trans (.put _ _ _)).mono (by simp)
    · rw [hlayout.length_eq, hgrown.length_eq]
    · rw [hlayout.length_eq, hwritten]
  · next hsame =>
    simp only [not_or, Nat.not_lt, ne_eq, not_not] at hsame
    obtain ⟨rfl, rfl, rfl⟩ := hgrown.eq_of_length_eq hsame.2
    obtain rfl := hnothing (Nat.le_zero.1 hsame.1)
    exact Transfer.yields_pure.2 ⟨lost, _, .refl h hintact hflushed, hgrown.length_eq, hwritten⟩

end Volume

end SectorStore
