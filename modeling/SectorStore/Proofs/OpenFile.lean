import SectorStore.OpenFile
import SectorStore.Proofs.Volume.Idle
import SectorStore.Proofs.Transfer.Always

/-!
# Reading and writing files of an intact volume

An open file on entry `i` reads and writes the bytes `volume.contents? disk i`.
`Intact.yields_writeAt` says what a write makes of them and of the rest of the volume:
`Bytes.overlay` for the file, whose new length `FileHeader.reach` tells, and nothing for any other
file. `Intact.yields_rewrite` says besides which bytes a write may touch (`Rewritten.sameBytesOff`),
and so which sectors (`Rewritten.sameOff`).
-/

namespace SectorStore

/-- The first `length` bytes of `bytes` and zeros behind them, with `data` laid over them from
`offset` on as far as they go. -/
def Bytes.overlay (bytes : Bytes) (length offset : Nat) (data : Bytes) : Bytes :=
  splice (bytes ++ List.replicate (length - bytes.length) 0) offset (data.take (length - offset))

/-- Data that is laid over a string leaves it as long as it is to become. -/
theorem Bytes.length_overlay {bytes : Bytes} {length : Nat} (h : bytes.length ≤ length)
    (offset : Nat) (data : Bytes) : (bytes.overlay length offset data).length = length := by
  simp only [overlay, splice, List.length_append, List.length_take, List.length_replicate,
    List.length_drop]
  omega

/-- The data shows where it lies, the old bytes elsewhere, and zeros behind them. -/
theorem Bytes.getD_overlay {bytes : Bytes} {length : Nat} (h : bytes.length ≤ length)
    (offset : Nat) (data : Bytes) {k : Nat} (hk : k < length) :
    (bytes.overlay length offset data).getD k 0 =
      if offset ≤ k ∧ k < offset + data.length then data.getD (k - offset) 0
      else bytes.getD k 0 := by
  have hzeros : (bytes ++ List.replicate (length - bytes.length) (0 : UInt8)).getD k 0 =
      bytes.getD k 0 := by
    simp only [List.getD_eq_getElem?_getD]
    by_cases hold : k < bytes.length
    · rw [List.getElem?_append_left hold]
    · rw [List.getElem?_append_right (by omega),
        List.getElem?_eq_none (by omega : bytes.length ≤ k)]
      simp [show k - bytes.length < length - bytes.length by omega]
  rw [overlay]
  -- behind the end nothing is laid over; before it the data counts up to the end
  by_cases hoffset : offset ≤ length
  · have hle : offset ≤ (bytes ++ List.replicate (length - bytes.length) (0 : UInt8)).length := by
      rw [List.length_append, List.length_replicate]
      omega
    rw [getD_splice hle, hzeros, List.length_take]
    by_cases hbefore : k < offset
    · rw [if_pos hbefore, if_neg (by omega)]
    rw [if_neg hbefore]
    by_cases hinside : k - offset < data.length
    · rw [if_pos (by omega), if_pos (by omega)]
      simp only [List.getD_eq_getElem?_getD]
      rw [List.getElem?_take_of_lt (by omega)]
    · rw [if_neg (by omega), if_neg (by omega)]
  · rw [if_neg (by omega), show length - offset = 0 by omega, List.take_zero, splice,
      List.append_nil, List.length_nil, Nat.add_zero, List.take_append_drop, hzeros]

/-- Data that is laid over bytes inside their length leaves those in front of it and behind it. -/
theorem Bytes.getD_overlay_self {bytes : Bytes} {offset : Nat} {data : Bytes} {k : Nat}
    (hk : ¬ (offset ≤ k ∧ k < offset + data.length)) :
    (bytes.overlay bytes.length offset data).getD k 0 = bytes.getD k 0 := by
  by_cases hlt : k < bytes.length
  · rw [getD_overlay (Nat.le_refl _) offset data hlt, if_neg hk]
  · have hle := Nat.le_of_not_lt hlt
    simp only [List.getD_eq_getElem?_getD]
    rw [List.getElem?_eq_none hle, List.getElem?_eq_none]
    rwa [length_overlay (Nat.le_refl _)]

/-- The bytes of a file that has grown, once the gap up to `offset` is filled with zeros. -/
theorem FileHeader.Grown.byteAt_of_zeros {header header' : FileHeader} {map map' : FreeMap}
    {stop offset written : Nat} {fresh : List SectorId} {disk disk' : Disk}
    (h : header.Grown map stop fresh header' map') (hcons : header.IsConsistent)
    (hwritten : written = min (offset - header.length) (header'.length - header.length))
    (hbytes : ∀ k, k / sectorSize < header'.sectorCount → header'.byteAt disk' k =
      if header.length ≤ k ∧ k < header.length + written then
        (List.replicate (offset - header.length) 0).getD (k - header.length) 0
      else header'.byteAt disk k)
    {k : Nat} (hk : k < header'.length) (hcase : k < header.length ∨ k < offset) :
    header'.byteAt disk' k = (header.contents disk).getD k 0 := by
  rw [hbytes k (div_lt_sectorCount hk)]
  simp only [List.getD_eq_getElem?_getD]
  by_cases hold : k < header.length
  · have hlength : k < (header.contents disk).length := by rwa [length_contents]
    rw [if_neg (by omega), h.byteAt_eq hcons disk (div_lt_sectorCount hold),
      ← getElem_contents hlength, List.getElem?_eq_getElem hlength, Option.getD_some]
  · have hend : (header.contents disk).length ≤ k := by
      rw [length_contents]
      omega
    rw [if_pos (by omega), List.getElem?_eq_none hend, List.getElem?_replicate,
      if_pos (by omega), Option.getD_some, Option.getD_none]

/-- A file stays as long as it is, or it ends at `stop` afterwards: then the tables are written with
the sectors that it gets, and zeros from its old end up to `offset`. -/
theorem OpenFile.extend_cases {header : FileHeader} {volume : Volume} (h : header.IsConsistent)
    (hsize : volume.freeMap.size ≤ 2 ^ 32) {offset stop : Nat} (hle : offset ≤ stop)
    (hsum : stop < sumLimit) :
    (FileHeader.reach header.length volume.numFree stop = header.length ∧
      extend header volume offset stop = pure (header, volume)) ∨
    ∃ header' map' fresh, header.length < stop ∧
      FileHeader.reach header.length volume.numFree stop = stop ∧
      header.Grown volume.freeMap stop fresh header' map' ∧
      header.length + (List.replicate (offset - header.length) (0 : UInt8)).length < sumLimit ∧
      extend header volume offset stop = do
        Volume.flush { volume with freeMap := map' }
        let _ ← header'.writeAt header.length (List.replicate (offset - header.length) 0)
        return (header', { volume with freeMap := map' }) := by
  rw [extend]
  by_cases hlong : stop ≤ header.length
  · rw [if_pos hlong]
    exact .inl ⟨if_neg (by omega), rfl⟩
  rw [if_neg hlong]
  have hlt := Nat.lt_of_not_le hlong
  rw [FileHeader.grow_eq (Nat.le_of_lt hlt) hsum]
  by_cases hgrow : FileHeader.Growable header.length volume.numFree stop
  swap
  · obtain ⟨cause, hrefused⟩ := FileHeader.exists_growTo_eq_error h hsize hgrow
    rw [hrefused]
    exact .inl ⟨if_neg fun hreach => hgrow hreach.2, rfl⟩
  obtain ⟨header', map', fresh, hgrown, hnew⟩ :=
    FileHeader.exists_growTo h hsize (Nat.le_of_lt hlt) hgrow
  rw [hgrown]
  have hgap : header.length + (List.replicate (offset - header.length) (0 : UInt8)).length <
      sumLimit := by
    rw [List.length_replicate]
    omega
  exact .inr ⟨header', map', fresh, hlt, if_pos ⟨hlt, hgrow⟩, hnew, hgap, rfl⟩

/-- Where the end of the data can be told, the file is extended up to there if it can be. -/
theorem OpenFile.writeAt_eq (file : OpenFile) (volume : Volume) {offset : Nat} {data : Bytes}
    (hsum : offset + data.length < sumLimit) : file.writeAt volume offset data = do
      let old ← file.header
      let (header, volume) ← extend old volume offset (offset + data.length)
      let written ← header.writeAt offset data
      if 0 < written ∨ header.length ≠ old.length then
        let (now, volume) := volume.now
        (header.setModified now).store file.headerSector
        return (written, volume)
      else
        return (written, volume) := by
  rw [writeAt, checkedAdd_eq hsum]
  rfl

/-- A read has told the end of what it reads, where there is an answer. -/
theorem OpenFile.always_readAt_fits (file : OpenFile) (offset : Nat) (buffer : Bytes) :
    (file.readAt offset buffer).Always fun _ => offset + buffer.length < sumLimit := by
  refine Transfer.always_bind fun header => ?_
  rw [FileHeader.readAt, FileHeader.readBytes, bind_assoc]
  exact Transfer.always_bind_checkedAdd

/-- A write has told the end of what it writes, where there is an answer. -/
theorem OpenFile.always_writeAt_fits (file : OpenFile) (volume : Volume) (offset : Nat)
    (data : Bytes) :
    (file.writeAt volume offset data).Always fun _ => offset + data.length < sumLimit :=
  Transfer.always_bind fun _ => Transfer.always_bind_checkedAdd

namespace Volume

variable {volume : Volume} {disk disk' : Disk} {lost : List SectorId} {i : Fin numEntries}
  {header header' : FileHeader} {file : OpenFile} {bytes : Bytes}

/-- The sector is that of the header of a file in the directory. -/
def Lists (volume : Volume) (sector : SectorId) (i : Fin numEntries) : Prop :=
  (volume.directory.entry i).isUnused = false ∧ (volume.directory.entry i).header = sector

/-- A file is opened where the directory names its header. -/
theorem exists_lists_of_open {name : String} (hopen : volume.open name = .ok file) :
    ∃ i, volume.Lists file.headerSector i := by
  rw [Volume.open, Directory.find?_eq] at hopen
  rcases hindex : volume.directory.indexOf? name with _ | i
  · rw [hindex] at hopen
    cases hopen
  · rw [hindex] at hopen
    cases hopen
    exact ⟨i, Directory.isUnused_of_indexOf? hindex, rfl⟩

namespace Intact

/-- The file of an entry in use has contents. -/
theorem exists_contents? (h : volume.Intact disk lost)
    (hused : (volume.directory.entry i).isUnused = false) :
    ∃ bytes, volume.contents? disk i = some bytes := by
  obtain ⟨header, hheader, -⟩ := h.exists_header i hused
  exact ⟨header.contents disk, by rw [contents?, hheader, Option.map_some]⟩

/-- The tables on the disk depend on their sectors only. -/
theorem flushed_congr (h : volume.Intact disk lost) (hflushed : volume.Flushed disk)
    (hmap : ∀ s ∈ volume.sectorsOf disk lost .freeMapFile, disk'.get s = disk.get s)
    (hdirectory : ∀ s ∈ volume.sectorsOf disk lost .directoryFile, disk'.get s = disk.get s) :
    volume.Flushed disk' where
  freeMap_eq := by
    rw [← hflushed.freeMap_eq]
    exact h.placed_freeMapFile.contents_congr fun s hs => hmap s (List.perm_append_comm.subset hs)
  directory_eq := by
    rw [← hflushed.directory_eq]
    exact h.placed_directoryFile.contents_congr fun s hs =>
      hdirectory s (List.perm_append_comm.subset hs)

/-- Writing the header of a file touches no sector of any other owner. -/
theorem get_put_header_of_ne (h : volume.Intact disk lost)
    (hheader : volume.header? disk i = some header) (data : Sector) {o : Owner} {s : SectorId}
    (ho : o ≠ .entry i) (hs : s ∈ volume.sectorsOf disk lost o) :
    (disk.put (volume.directory.entry i).header data).get s = disk.get s := by
  refine Disk.get_put_of_ne ?_
  rintro rfl
  exact ho (h.partition.owner_eq hs (metaSectors_subset _ (header_mem hheader)))

/-- Nor does it touch the sectors that the header lists. -/
theorem get_put_header_of_mem (h : volume.Intact disk lost)
    (hheader : volume.header? disk i = some header) (data : Sector) {s : SectorId}
    (hs : s ∈ header.allSectors disk) :
    (disk.put (volume.directory.entry i).header data).get s = disk.get s := by
  refine Disk.get_put_of_ne ?_
  rintro rfl
  exact h.header_notMem_allSectors hheader hs

/-- The header of a file is written anew, with sectors that belonged to nobody. -/
theorem storeHeader {fresh : List SectorId} (h : volume.Intact disk (lost ++ fresh))
    (hheader : volume.header? disk i = some header) (hplaced : header'.Placed disk)
    (hhome : header'.home = header.home)
    (hdata : header'.dataSectors disk = header.dataSectors disk ++ fresh)
    (hindex : header'.indexSectors = header.indexSectors) :
    let disk' := disk.put (volume.directory.entry i).header header'.encode
    volume.Intact disk' lost ∧ volume.header? disk' i = some header' ∧
      volume.contents? disk' i = some (header'.contents disk) ∧
      (∀ j, j ≠ i → volume.contents? disk' j = volume.contents? disk j) ∧
      (volume.Flushed disk → volume.Flushed disk') ∧
      ∀ o, volume.metaSectors disk' o = volume.metaSectors disk o := by
  intro disk'
  obtain ⟨hused, hstored⟩ := header?_eq_some_iff.1 hheader
  have hnew : volume.header? disk' i = some header' := by
    refine header?_eq_some_iff.2 ⟨hused, Disk.header?_put_encode hplaced.consistent ?_⟩
    rw [hhome, Disk.home_of_header? hstored]
  have howner : ∀ o, ∀ s ∈ volume.sectorsOf disk (lost ++ fresh) o, o ≠ .entry i →
      disk'.get s = disk.get s :=
    fun _ _ hs ho => h.get_put_header_of_ne hheader _ ho hs
  have hold : (volume.sectorsOf disk (lost ++ fresh) (.entry i)).Perm
      ((volume.directory.entry i).header :: header.allSectors disk) := sectorsOf_entry hheader
  have hall : (header'.allSectors disk).Perm (header.allSectors disk ++ fresh) := by
    rw [FileHeader.allSectors, FileHeader.allSectors, hdata, hindex, List.append_assoc,
      List.append_assoc]
    exact List.perm_append_comm.append_left _
  -- the written sector is the home of the header, so the sectors it lists keep their bytes
  have hself : ∀ s ∈ header'.allSectors disk, disk'.get s = disk.get s := by
    intro s hs
    rcases List.mem_append.1 (hall.mem_iff.1 hs) with hs | hs
    · exact h.get_put_header_of_mem hheader _ hs
    · exact howner .lost s (List.mem_append_right _ (List.mem_append_right lost hs)) (by simp)
  have hall' : header'.allSectors disk' = header'.allSectors disk :=
    FileHeader.allSectors_congr fun s hs => hself s (header'.indexSectors_subset disk hs)
  refine ⟨h.rebuild rfl rfl rfl rfl ?_ ?_ ?_, hnew, ?_, ?_, ?_, ?_⟩
  · exact fun s hs => howner .headers s (metaSectors_subset _ hs) (by simp)
  · -- the header in the written sector is the new one, and the others are where they were
    intro j hused'
    by_cases hj : j = i
    · exact hj ▸ ⟨header', hnew, hplaced.consistent⟩
    · rw [h.header?_congr rfl fun s hs =>
        howner (.entry j) s (metaSectors_subset _ hs) (by simpa using hj)]
      exact h.exists_header j hused'
  · -- with its header on the disk the file takes over the new sectors, which were nobody's
    have hfrom : (volume.sectorsOf disk (lost ++ fresh) .lost).Perm
        (volume.sectorsOf disk' lost .lost ++ fresh) := .refl _
    refine h.partition.move (o := .lost) (q := .entry i) (by simp) hfrom ?_ ?_
    · refine (sectorsOf_entry hnew).trans (.trans ?_ (hold.append_right fresh).symm)
      rw [hall', List.cons_append]
      exact hall.cons _
    · intro o ho ho'
      refine h.perm_sectorsOf rfl rfl (fun _ _ => rfl) (fun heq => absurd heq ho) ?_
      exact fun s hs => howner o s (metaSectors_subset _ hs) ho'
  · rw [contents?, hnew, Option.map_some, hplaced.contents_congr hself]
  · intro j hj
    exact h.contents?_congr rfl fun s hs => howner (.entry j) s hs (by simpa using hj)
  · intro hflushed
    exact h.flushed_congr hflushed (fun s hs => howner .freeMapFile s hs (by simp))
      fun s hs => howner .directoryFile s hs (by simp)
  · intro o
    by_cases ho : o = .entry i
    · rw [ho, metaSectors_entry hnew, metaSectors_entry hheader, hindex]
    · exact h.metaSectors_congr rfl rfl (fun _ _ => rfl) fun s hs =>
        howner o s (metaSectors_subset _ hs) ho

/-! ## Reading -/

/-- A file with contents has a header that says where they are. -/
theorem header?_of_contents? (hbytes : volume.contents? disk i = some bytes) :
    ∃ header, volume.header? disk i = some header ∧ header.contents disk = bytes := by
  rw [contents?, Option.map_eq_some_iff] at hbytes
  exact hbytes

/-- The bytes of a file can be counted. -/
theorem length_lt_of_contents? (hbytes : volume.contents? disk i = some bytes) :
    bytes.length < sumLimit := by
  obtain ⟨header, -, rfl⟩ := header?_of_contents? hbytes
  rw [FileHeader.length_contents]
  exact header.length_lt_sumLimit

/-- No file is larger than its header can tell where its bytes are. -/
theorem length_le_of_contents? (h : volume.Intact disk lost)
    (hbytes : volume.contents? disk i = some bytes) : bytes.length ≤ maxFileSize := by
  obtain ⟨header, hheader, rfl⟩ := header?_of_contents? hbytes
  rw [FileHeader.length_contents]
  by_contra hlt
  have hmany := maxSectors_lt_sectorsFor_iff.2 (Nat.lt_of_not_le hlt)
  exact Nat.not_lt.2 (h.isConsistent hheader).sectorCount_le hmany

/-- The header of an open file is that of its entry. -/
theorem yields_header (h : volume.Intact disk lost) (hlists : volume.Lists file.headerSector i)
    (hheader : volume.header? disk i = some header) {post : FileHeader → Disk → Prop} :
    file.header.Yields disk post ↔ post header disk := by
  have hlt := h.header_lt_count hheader
  have hstored := (header?_eq_some_iff.1 hheader).2
  rw [hlists.2] at hlt hstored
  exact FileHeader.yields_loadHome hlt hstored

/-- The length of an open file is the number of its bytes. -/
theorem yields_length (h : volume.Intact disk lost) (hlists : volume.Lists file.headerSector i)
    (hbytes : volume.contents? disk i = some bytes) {post : Nat → Disk → Prop} :
    file.length.Yields disk post ↔ post bytes.length disk := by
  obtain ⟨header, hheader, rfl⟩ := header?_of_contents? hbytes
  rw [OpenFile.length, Transfer.yields_bind, h.yields_header hlists hheader, Transfer.yields_pure,
    FileHeader.length_contents]

/-- Reading gives the bytes of the file that are in the range, and changes nothing. -/
theorem yields_readBytes (h : volume.Intact disk lost) (hlists : volume.Lists file.headerSector i)
    (hbytes : volume.contents? disk i = some bytes) {offset count : Nat}
    (hsum : offset + count < sumLimit) {post : Bytes → Disk → Prop} :
    (file.readBytes offset count).Yields disk post ↔ post (bytes.slice offset count) disk := by
  obtain ⟨header, hheader, rfl⟩ := header?_of_contents? hbytes
  rw [OpenFile.readBytes, Transfer.yields_bind, h.yields_header hlists hheader,
    (h.placed hheader).yields_readBytes hsum]

/-- Reading puts the bytes of the file that are in the range at the front of the buffer. -/
theorem yields_readAt (h : volume.Intact disk lost) (hlists : volume.Lists file.headerSector i)
    (hbytes : volume.contents? disk i = some bytes) {offset : Nat} {buffer : Bytes}
    (hsum : offset + buffer.length < sumLimit) {post : Filling → Disk → Prop} :
    (file.readAt offset buffer).Yields disk post ↔
      post (.front buffer (bytes.slice offset buffer.length)) disk := by
  obtain ⟨header, hheader, rfl⟩ := header?_of_contents? hbytes
  rw [OpenFile.readAt, Transfer.yields_bind, h.yields_header hlists hheader, FileHeader.readAt,
    Transfer.yields_bind, (h.placed hheader).yields_readBytes hsum, Transfer.yields_pure]

/-! ## Writing -/

/-- Where bytes of a file or of nobody's sectors are written, all else stays. -/
theorem congr_of_write {fresh : List SectorId} (h : volume.Intact disk (lost ++ fresh))
    (hheader : volume.header? disk i = some header)
    (hdata : header'.dataSectors disk = header.dataSectors disk ++ fresh)
    (hoff : disk.SameOff (header'.dataSectors disk) disk') :
    volume.Intact disk' (lost ++ fresh) ∧ volume.header? disk' i = some header ∧
      (∀ j, j ≠ i → volume.contents? disk' j = volume.contents? disk j) ∧
      (volume.Flushed disk → volume.Flushed disk') ∧
      ∀ o, ∀ s ∈ volume.metaSectors disk o, disk'.get s = disk.get s := by
  -- the written sectors have two owners, the file and nobody, and hold bytes for both
  have hwritten : ∀ s ∈ header'.dataSectors disk,
      s ∈ volume.dataSectors disk (lost ++ fresh) (.entry i) ∨
        s ∈ volume.dataSectors disk (lost ++ fresh) .lost := by
    intro s hs
    rw [hdata] at hs
    rw [dataSectors_entry hheader]
    rcases List.mem_append.1 hs with hs | hs
    · exact .inl hs
    · exact .inr (List.mem_append_right _ hs)
  have howner : ∀ o, o ≠ .entry i → o ≠ .lost →
      ∀ s ∈ volume.sectorsOf disk (lost ++ fresh) o, disk'.get s = disk.get s := by
    intro o ho ho' s hs
    refine hoff.2 s fun hmem => ?_
    rcases hwritten s hmem with hs' | hs'
    · exact ho (h.partition.owner_eq hs (dataSectors_subset _ hs'))
    · exact ho' (h.partition.owner_eq hs (dataSectors_subset _ hs'))
  have hmeta : ∀ o, ∀ s ∈ volume.metaSectors disk o, disk'.get s = disk.get s := by
    intro o s hs
    refine hoff.2 s fun hmem => ?_
    rcases hwritten s hmem with hs' | hs'
    · exact h.notMem_metaSectors hs' hs
    · exact h.notMem_metaSectors hs' hs
  refine ⟨h.congr hoff.1 hmeta, ?_, ?_, ?_, hmeta⟩
  · rw [← hheader]
    exact h.header?_congr rfl (hmeta (.entry i))
  · intro j hj
    exact h.contents?_congr rfl (howner (.entry j) (by simpa using hj) nofun)
  · intro hflushed
    exact h.flushed_congr hflushed (howner .freeMapFile nofun nofun)
      (howner .directoryFile nofun nofun)

end Intact

/-- A file about to be written, with its header in memory already grown but the old one still on
the disk: the new sectors are nobody's so far. -/
structure Extended (volume : Volume) (disk : Disk) (lost : List SectorId) (i : Fin numEntries)
    (header : FileHeader) (offset stop : Nat) (header' : FileHeader) (volume' : Volume)
    (disk' : Disk) (fresh : List SectorId) : Prop where
  /-- The file ends where it can. -/
  length_eq : header'.length = FileHeader.reach header.length volume.numFree stop
  /-- The new sectors were free. -/
  takes : volume.freeMap.Takes fresh volume'.freeMap
  /-- Nothing but the free map changes in memory. -/
  fields_eq : volume' = { volume with freeMap := volume'.freeMap }
  /-- The new sectors are nobody's so far. -/
  intact : volume'.Intact disk' (lost ++ fresh)
  /-- The header on the disk is the old one. -/
  header?_eq : volume'.header? disk' i = some header
  /-- Only the length and the sectors change in the header. -/
  header_eq : header' = { header with numBytes := header'.numBytes, map := header'.map }
  /-- A file that stays as long as it is changes in nothing. -/
  eq_of_length_eq : header'.length = header.length → header' = header ∧ volume' = volume
  /-- The header in memory is placed on the disk. -/
  placed : header'.Placed disk'
  /-- It has the new sectors behind the old ones. -/
  dataSectors_eq : header'.dataSectors disk' = header.dataSectors disk' ++ fresh
  /-- It has the same index sector. -/
  indexSectors_eq : header'.indexSectors = header.indexSectors
  /-- The old bytes are where they were, and the bytes from there to `offset` are zero. -/
  byteAt_eq : ∀ k, k < header'.length → k < header.length ∨ k < offset →
    header'.byteAt disk' k = (header.contents disk).getD k 0
  /-- The other files are as before. -/
  contents?_of_ne : ∀ j, j ≠ i → volume'.contents? disk' j = volume.contents? disk j
  /-- The tables are on the disk if they were before. -/
  flushed : volume.Flushed disk → volume'.Flushed disk'
  /-- Headers and numbers of sectors are as before. -/
  get_eq : ∀ o, ∀ s ∈ volume.metaSectors disk o, disk'.get s = disk.get s
  /-- The tables are written if the file grows, and zeros from the old end up to `offset`. -/
  sameBytesOff : disk.SameBytesOff
    ((if header'.length = header.length then ∅ else volume.tablePlaces disk) ∪
      header'.places disk' ⟨header.length, min offset header'.length⟩) disk'

namespace Intact

/-- Nothing happens to a file that is long enough or cannot grow. -/
theorem extended_self (h : volume.Intact disk lost) (hheader : volume.header? disk i = some header)
    {offset stop : Nat}
    (hreach : FileHeader.reach header.length volume.numFree stop = header.length) :
    volume.Extended disk lost i header offset stop header volume disk [] where
  length_eq := hreach.symm
  takes := .nil _
  fields_eq := rfl
  intact := (List.append_nil lost).symm ▸ h
  header?_eq := hheader
  header_eq := rfl
  eq_of_length_eq _ := ⟨rfl, rfl⟩
  placed := h.placed hheader
  dataSectors_eq := (List.append_nil _).symm
  indexSectors_eq := rfl
  byteAt_eq k hk _ := by
    have hk' : k < (header.contents disk).length := by rwa [FileHeader.length_contents]
    rw [← FileHeader.getElem_contents hk', List.getD_eq_getElem?_getD,
      List.getElem?_eq_getElem hk', Option.getD_some]
  contents?_of_ne _ _ := rfl
  flushed := id
  get_eq _ _ _ := rfl
  sameBytesOff := .refl _ _

/-- The new sectors of a file that grows are nobody's while the tables are written. -/
theorem intact_of_takes {fresh : List SectorId} {map' : FreeMap} (h : volume.Intact disk lost)
    (htakes : volume.freeMap.Takes fresh map') :
    Intact { volume with freeMap := map' } disk (lost ++ fresh) := by
  refine h.rebuild htakes.size_eq rfl rfl rfl (fun _ _ => rfl) h.exists_header ?_
  refine h.partition.extend (o := .lost) htakes (.refl _) fun o ho => ?_
  exact h.perm_sectorsOf rfl rfl (fun _ _ => rfl) (fun heq => absurd heq ho) fun _ _ => rfl

/-- The header of a file that has grown is placed on the disk. -/
theorem placed_of_grown {map : FreeMap} {stop : Nat} {fresh : List SectorId} {map' : FreeMap}
    (h : volume.Intact disk (lost ++ fresh)) (hheader : volume.header? disk i = some header)
    (hgrown : header.Grown map stop fresh header' map') : header'.Placed disk where
  consistent := hgrown.consistent
  nodup := by
    have hlost : (lost ++ fresh).Nodup := h.partition.nodup .lost
    rw [hgrown.allSectors_eq, List.nodup_append]
    refine ⟨(h.placed hheader).nodup, (List.nodup_append.1 hlost).2.1, ?_⟩
    rintro s hs t ht rfl
    have ht : s ∈ volume.sectorsOf disk (lost ++ fresh) .lost := List.mem_append_right lost ht
    cases h.partition.owner_eq (allSectors_subset hheader hs) ht
  lt_count := by
    intro s hs
    rw [hgrown.allSectors_eq] at hs
    rcases List.mem_append.1 hs with hs | hs
    · exact (h.placed hheader).lt_count s hs
    · exact h.lt_count (o := .lost) (List.mem_append_right lost hs)

/-- A file is made longer as far as this is possible, and what is new are zeros up to the offset. -/
theorem yields_extend (h : volume.Intact disk lost) (hheader : volume.header? disk i = some header)
    {offset stop : Nat} (hle : offset ≤ stop) (hsum : stop < sumLimit) :
    (OpenFile.extend header volume offset stop).Yields disk fun answer disk' =>
      ∃ fresh, volume.Extended disk lost i header offset stop answer.1 answer.2 disk' fresh := by
  have hcons := h.isConsistent hheader
  rcases OpenFile.extend_cases hcons h.size_le_pow hle hsum with
    ⟨hreach, heq⟩ | ⟨header', map', fresh, hlt, hreach, hnew, hgap, heq⟩
  · rw [heq, Transfer.yields_pure]
    exact ⟨[], h.extended_self hheader hreach⟩
  rw [heq]
  let volume₁ : Volume := { volume with freeMap := map' }
  have h₁ : volume₁.Intact disk (lost ++ fresh) := h.intact_of_takes hnew.takes
  refine h₁.yields_flush_bytes.bind ?_
  rintro - disk₁ ⟨h₂, hflushed₂, htables₂⟩
  have hoff₂ := htables₂.sameOff fun _ _ => h₁.mem_tableSectors_of_mem_tablePlaces
  have hheader₂ : volume₁.header? disk₁ i = some header :=
    (h₁.header?_of_sameOff hoff₂).trans hheader
  have hplaced₂ : header'.Placed disk₁ := h₂.placed_of_grown hheader₂ hnew
  refine (hplaced₂.yields_writeAt hgap).bind ?_
  rintro written disk₂ ⟨hwritten, hoff₃, hbytes₃⟩
  obtain ⟨h₃, hheader₃, hothers₃, hflushed₃, hmeta₃⟩ :=
    h₂.congr_of_write hheader₂ (hnew.dataSectors_eq disk₁) hoff₃
  rw [Transfer.yields_pure]
  have hlonger : header'.length ≠ header.length := by
    rw [hnew.length_eq]
    omega
  refine ⟨fresh, ?length, hnew.takes, rfl, h₃, hheader₃, hnew.fields_eq,
    fun heq => absurd heq hlonger, h₃.placed_of_grown hheader₃ hnew, hnew.dataSectors_eq disk₂,
    hnew.indexSectors_eq, ?bytes, ?others, fun _ => hflushed₃ hflushed₂, ?kept, ?touched⟩
  case length => rw [hnew.length_eq, hreach]
  case bytes =>
    intro k hk hcase
    have hcontents : header.contents disk₁ = header.contents disk := by
      have hsame := h₁.contents?_of_sameOff (i := i) hoff₂
      rw [contents?, hheader₂, contents?, show volume₁.header? disk i = some header from hheader]
        at hsame
      exact Option.some.inj hsame
    rw [← hcontents]
    exact hnew.byteAt_of_zeros hcons (by rwa [List.length_replicate] at hwritten) hbytes₃ hk hcase
  case others =>
    intro j hj
    rw [hothers₃ j hj]
    exact h₁.contents?_of_sameOff hoff₂
  case kept =>
    intro o s (hs : s ∈ volume₁.metaSectors disk o)
    have hsame := fun s hs => h₁.get_of_sameOff (o := o) (s := s) hoff₂ hs
    rw [← hsame s hs]
    exact hmeta₃ o s ((h₁.metaSectors_congr rfl rfl (fun _ _ => rfl) hsame).symm ▸ hs)
  case touched =>
    -- the zeros go where the header in memory says, not the one on the disk
    rw [if_neg hlonger]
    refine htables₂.trans ?_
    have hdata : header'.dataSectors disk₂ = header'.dataSectors disk₁ :=
      FileHeader.dataSectors_congr fun s hs =>
        hoff₃.2 s (hplaced₂.notMem_dataSectors_of_mem_indexSectors hs)
    rw [FileHeader.places_congr hdata]
    refine hplaced₂.sameBytesOff_places hoff₃ fun k hk hout => ?_
    rw [hbytes₃ k hk, if_neg]
    rw [List.length_replicate] at hwritten
    simp only at hout
    omega

/-- The clock has no part in whether a volume is intact. -/
theorem withClock (h : volume.Intact disk lost) (clock : Clock) :
    (volume.withClock clock).Intact disk lost :=
  ⟨h.1, h.2, h.3, h.4, h.5, h.6, h.7, h.8, h.9, h.10⟩

end Intact

/-- What a write makes of the header of the file in entry `i`, and what it touches besides. -/
structure Rewritten (volume : Volume) (disk : Disk) (i : Fin numEntries) (header : FileHeader)
    (offset : Nat) (data : Bytes) (written : Nat) (header' : FileHeader) (volume' : Volume)
    (disk' : Disk) : Prop where
  /-- The header is on the disk. -/
  header?_eq : volume'.header? disk' i = some header'
  /-- The file ends where it can. -/
  length_eq : header'.length = FileHeader.reach header.length volume.numFree (offset + data.length)
  /-- The bytes are written as far as the file goes. -/
  written_eq : written = min data.length (header'.length - offset)
  /-- Only the length, the sectors and the time of the last change are new. -/
  header_eq : header' = { header with
    numBytes := header'.numBytes, map := header'.map, modified := header'.modified }
  /-- A file that stays as long as it is keeps its sectors. -/
  eq_of_length_eq : header'.length = header.length →
    header' = { header with modified := header'.modified } ∧ volume'.freeMap = volume.freeMap
  /-- The sectors in addition were free, and come behind the others. -/
  exists_takes : ∃ fresh, volume.freeMap.Takes fresh volume'.freeMap ∧
    header'.dataSectors disk' = header.dataSectors disk ++ fresh
  /-- There is no other index sector than before. -/
  indexSectors_eq : header'.indexSectors = header.indexSectors
  /-- Nothing but the free map and the clock changes in memory. -/
  fields_eq : volume' = { volume with freeMap := volume'.freeMap, clock := volume'.clock }
  /-- If anything has changed, the header is stamped with the time and written. -/
  stamped : 0 < written ∨ header'.length ≠ header.length →
    header'.modified = .ofString volume.now.1 ∧
      disk'.get (volume.directory.entry i).header = header'.encode
  /-- The clock goes on with the same readings. -/
  readings_eq : volume'.clock.readings = volume.clock.readings
  /-- Of all bytes, only those of the header are written if it is stamped, those of the tables if
  the file grows, and those of the data and of the gap in front of it. -/
  sameBytesOff : disk.SameBytesOff
    ({p | p.1 = (volume.directory.entry i).header ∧
        (0 < written ∨ header'.length ≠ header.length)} ∪
      ((if header'.length = header.length then ∅ else volume.tablePlaces disk) ∪
        header'.places disk'
          ⟨min offset header.length, min (offset + data.length) header'.length⟩)) disk'

/-- Of all sectors, only that of the header, those of the tables if the file grows, and those that
have a part of the data or of the gap in front of it are written. -/
theorem Rewritten.sameOff {offset written : Nat} {data : Bytes} {volume' : Volume}
    (h : volume.Rewritten disk i header offset data written header' volume' disk')
    (hintact : volume.Intact disk lost) :
    disk.SameOff ((volume.directory.entry i).header ::
      ((if header'.length = header.length then [] else volume.tableSectors disk) ++
        header'.sectorsIn disk' ⟨min offset header.length, offset + data.length⟩)) disk' := by
  refine h.sameBytesOff.sameOff fun s k hplace => ?_
  rcases hplace with hhome | htable | hplace
  · exact hhome.1 ▸ List.mem_cons_self
  · refine List.mem_cons_of_mem _ (List.mem_append_left _ ?_)
    split at htable
    · exact htable.elim
    · next hgrown =>
      rw [if_neg hgrown]
      exact hintact.mem_tableSectors_of_mem_tablePlaces htable
  · refine List.mem_cons_of_mem _ (List.mem_append_right _ ?_)
    have hmem := FileHeader.mem_sectorsIn_of_mem_places
      (Nat.le_trans (Nat.min_le_right _ _) (FileHeader.length_le_mul _)) hplace
    refine FileHeader.sectorsIn_subset ?_ ?_ hmem
    · exact Nat.le_refl _
    · exact Nat.min_le_left _ _

/-- A write spares the idle sectors, but for those that it hands out to the file. -/
theorem Rewritten.spares {offset written : Nat} {data : Bytes} {volume' : Volume}
    (h : volume.Rewritten disk i header offset data written header' volume' disk')
    (hintact : volume.Intact disk lost) (hintact' : volume'.Intact disk' lost)
    (hheader : volume.header? disk i = some header) : volume.Spares disk volume' disk' := by
  constructor
  · intro s hidle hkept
    refine ⟨(h.sameOff hintact).2 s fun hs => ?_,
      hintact.idle_of_idle hintact' (List.Subset.refl _) hidle hkept⟩
    -- a sector that was written is the file's, a table's, or one of those that the file got
    rcases List.mem_cons.1 hs with rfl | hs
    · exact hidle _ (metaSectors_subset _ (Intact.header_mem hheader))
    rcases List.mem_append.1 hs with hs | hs
    · split at hs
      · exact absurd hs List.not_mem_nil
      · exact hidle.notMem_tableSectors hs
    · obtain ⟨fresh, htakes, hdata⟩ := h.exists_takes
      have hs := (hintact'.placed h.header?_eq).sectorsIn_subset_dataSectors _ hs
      rw [hdata] at hs
      rcases List.mem_append.1 hs with hs | hs
      · exact hidle _ (allSectors_subset hheader (header.dataSectors_subset disk hs))
      · exact hkept ⟨htakes.free s hs, (htakes.mem_iff _).2 (.inr ⟨s, hs, rfl⟩)⟩
  · intro j _ hne
    rw [h.fields_eq] at hne
    exact absurd rfl hne

/-- What comes of a write to the file in entry `i`, which had the given bytes before. -/
structure Written (volume : Volume) (disk : Disk) (lost : List SectorId) (i : Fin numEntries)
    (bytes : Bytes) (offset : Nat) (data : Bytes) (written : Nat) (volume' : Volume)
    (disk' : Disk) : Prop where
  /-- The bytes are written as far as the file reaches. -/
  written_eq : written = min data.length
    (FileHeader.reach bytes.length volume.numFree (offset + data.length) - offset)
  /-- The file has the bytes, behind zeros if there was a gap. -/
  contents?_eq : volume'.contents? disk' i = some (bytes.overlay
    (FileHeader.reach bytes.length volume.numFree (offset + data.length)) offset data)
  /-- The other files are as before. -/
  contents?_of_ne : ∀ j, j ≠ i → volume'.contents? disk' j = volume.contents? disk j
  /-- The directory does not change. -/
  directory_eq : volume'.directory = volume.directory
  /-- The size of the volume does not change. -/
  size_eq : volume'.freeMap.size = volume.freeMap.size
  /-- The sectors that the file needs in addition are taken. -/
  numFree_eq : volume'.numFree + totalSectorsFor
      (FileHeader.reach bytes.length volume.numFree (offset + data.length)) =
    volume.numFree + totalSectorsFor bytes.length
  /-- The volume stays intact. -/
  intact : volume'.Intact disk' lost
  /-- The tables are on the disk if they were before. -/
  flushed : volume.Flushed disk → volume'.Flushed disk'
  /-- Headers and numbers of sectors are where they were. -/
  metaSectors_eq : ∀ o, volume'.metaSectors disk' o = volume.metaSectors disk o
  /-- The free map stays in the same file. -/
  freeMapFile_eq : volume'.freeMapFile = volume.freeMapFile
  /-- No sector is given back. -/
  mem_of_mem : ∀ n ∈ volume.freeMap, n ∈ volume'.freeMap
  /-- The idle sectors are spared. -/
  spares : volume.Spares disk volume' disk'

/-- The bytes of the file after a write. -/
theorem Rewritten.contents_eq {volume' : Volume} {offset written : Nat} {data : Bytes}
    (h : volume.Rewritten disk i header offset data written header' volume' disk')
    (hwritten : volume.Written disk lost i (header.contents disk) offset data written volume'
      disk') :
    header'.contents disk' = (header.contents disk).overlay header'.length offset data := by
  have hbytes := hwritten.contents?_eq
  rwa [FileHeader.length_contents, ← h.length_eq, contents?, h.header?_eq, Option.map_some,
    Option.some.injEq] at hbytes

/-- The bytes of the file are as before but for those that were written, and zero behind the old
end. -/
theorem Written.exists_contents? {volume' : Volume} {offset written : Nat} {data : Bytes}
    (h : volume.Written disk lost i bytes offset data written volume' disk') :
    ∃ bytes', volume'.contents? disk' i = some bytes' ∧ bytes.length ≤ bytes'.length ∧
      ∀ k, ¬ (offset ≤ k ∧ k < offset + written) → bytes'.getD k 0 = bytes.getD k 0 := by
  have hle := FileHeader.le_reach bytes.length volume.numFree (offset + data.length)
  have hlength := Bytes.length_overlay hle offset data
  refine ⟨_, h.contents?_eq, hlength.symm ▸ hle, fun k hk => ?_⟩
  have hwritten := h.written_eq
  rcases Nat.lt_or_ge k (FileHeader.reach bytes.length volume.numFree (offset + data.length)) with
    hlt | hge
  · rw [Bytes.getD_overlay hle offset data hlt, if_neg (by omega)]
  · simp only [List.getD_eq_getElem?_getD]
    rw [List.getElem?_eq_none (hlength.symm ▸ hge), List.getElem?_eq_none (Nat.le_trans hle hge)]

namespace Extended

variable {volume' : Volume} {fresh : List SectorId} {offset stop : Nat} {disk₁ : Disk}

/-- The sectors of the grown file are those that its length asks for. -/
theorem totalSectorsFor_eq
    (h : volume.Extended disk lost i header offset stop header' volume' disk' fresh)
    (hcons : header.IsConsistent) :
    totalSectorsFor header'.length = totalSectorsFor header.length + fresh.length := by
  rw [← h.placed.consistent.length_allSectors disk', ← hcons.length_allSectors disk',
    FileHeader.allSectors, FileHeader.allSectors, h.dataSectors_eq, h.indexSectors_eq]
  simp only [List.length_append]
  omega

/-- The headers and numbers of sectors are where they were. -/
theorem metaSectors_eq
    (h : volume.Extended disk lost i header offset stop header' volume' disk₁ fresh)
    (hintact : volume.Intact disk lost) (o : Owner) :
    volume'.metaSectors disk₁ o = volume.metaSectors disk o := by
  rw [h.fields_eq]
  exact hintact.metaSectors_congr rfl rfl (fun _ _ => rfl) (h.get_eq o)

/-- The bytes of the grown file once the data is written. -/
theorem contents_eq {data : Bytes} {written : Nat}
    (h : volume.Extended disk lost i header offset (offset + data.length) header' volume' disk₁
      fresh)
    (hwritten : written = min data.length (header'.length - offset))
    (hbytes : ∀ k, k / sectorSize < header'.sectorCount → header'.byteAt disk' k =
      if offset ≤ k ∧ k < offset + written then data.getD (k - offset) 0
      else header'.byteAt disk₁ k) :
    header'.contents disk' = (header.contents disk).overlay header'.length offset data := by
  have hlength := h.length_eq
  have hle : (header.contents disk).length ≤ header'.length := by
    rw [FileHeader.length_contents, hlength]
    exact FileHeader.le_reach _ _ _
  apply List.ext_getElem
  · rw [FileHeader.length_contents, Bytes.length_overlay hle]
  intro k hk hk'
  rw [FileHeader.length_contents] at hk
  have hgetD := Bytes.getD_overlay hle offset data hk
  rw [List.getD_eq_getElem?_getD, List.getElem?_eq_getElem hk', Option.getD_some] at hgetD
  rw [FileHeader.getElem_contents, hbytes k (FileHeader.div_lt_sectorCount hk), hgetD]
  by_cases hdata : offset ≤ k ∧ k < offset + data.length
  · rw [if_pos hdata, if_pos (by omega)]
  · rw [if_neg hdata, if_neg (by omega)]
    apply h.byteAt_eq k hk
    -- a file that grew ends behind the data, so only the gap is left
    rw [FileHeader.reach] at hlength
    split at hlength <;> omega

/-- The data sectors of the grown file, once the data is written into them. -/
theorem dataSectors_of_sameOff
    (h : volume.Extended disk lost i header offset stop header' volume' disk₁ fresh)
    (hoff : disk₁.SameOff (header'.dataSectors disk₁) disk') :
    header'.Placed disk' ∧ header'.dataSectors disk' = header.dataSectors disk' ++ fresh := by
  have hindexed : ∀ s ∈ header'.indexSectors, disk'.get s = disk₁.get s := fun s hs =>
    hoff.2 s (h.placed.notMem_dataSectors_of_mem_indexSectors hs)
  have hold : header.dataSectors disk' = header.dataSectors disk₁ :=
    FileHeader.dataSectors_congr (h.indexSectors_eq ▸ hindexed)
  refine ⟨h.placed.congr hoff.1 hindexed, ?_⟩
  rw [FileHeader.dataSectors_congr hindexed, h.dataSectors_eq, hold]

/-- Neither the data nor the header is written over the index sector of the grown file. -/
theorem get_index {disk₂ : Disk} {s : SectorId}
    (h : volume.Extended disk lost i header offset stop header' volume' disk₁ fresh)
    (hintact : volume.Intact disk lost) (hheader : volume.header? disk i = some header)
    (hoff : disk₁.SameOff (header'.dataSectors disk₁) disk₂)
    (hput : disk₂.SameOff [(volume.directory.entry i).header] disk')
    (hs : s ∈ header'.indexSectors) : disk'.get s = disk₁.get s := by
  rw [hput.2 s, hoff.2 s (h.placed.notMem_dataSectors_of_mem_indexSectors hs)]
  rw [List.mem_singleton]
  rintro rfl
  refine hintact.header_notMem_allSectors hheader (header.indexSectors_subset disk ?_)
  rwa [← h.indexSectors_eq]

/-- Until the header is stamped, the bytes of the tables are written if the file grows, and those of
the data and of the gap in front of it. -/
theorem sameBytesOff_data {data : Bytes} {written : Nat}
    (h : volume.Extended disk lost i header offset (offset + data.length) header' volume' disk₁
      fresh)
    (hwritten : written = min data.length (header'.length - offset))
    (hoff : disk₁.SameOff (header'.dataSectors disk₁) disk')
    (hbytes : ∀ k, k / sectorSize < header'.sectorCount → header'.byteAt disk' k =
      if offset ≤ k ∧ k < offset + written then data.getD (k - offset) 0
      else header'.byteAt disk₁ k) :
    disk.SameBytesOff ((if header'.length = header.length then ∅ else volume.tablePlaces disk) ∪
      header'.places disk₁
        ⟨min offset header.length, min (offset + data.length) header'.length⟩) disk' := by
  have hspan : disk₁.SameBytesOff (header'.places disk₁ ⟨offset, offset + written⟩) disk' :=
    h.placed.sameBytesOff_places hoff fun k hk hout => by rw [hbytes k hk, if_neg hout]
  refine (h.sameBytesOff.trans hspan).mono ?_
  have hgap : header'.places disk₁ ⟨header.length, min offset header'.length⟩ ⊆
      header'.places disk₁
        ⟨min offset header.length, min (offset + data.length) header'.length⟩ :=
    FileHeader.places_subset fun k hstart hstop => by
      simp only at hstart hstop ⊢
      omega
  have hdataSpan : header'.places disk₁ ⟨offset, offset + written⟩ ⊆
      header'.places disk₁
        ⟨min offset header.length, min (offset + data.length) header'.length⟩ :=
    FileHeader.places_subset fun k hstart hstop => by
      simp only at hstart hstop ⊢
      omega
  rintro p ((htable | hplace) | hplace)
  · exact .inl htable
  · exact .inr (hgap hplace)
  · exact .inr (hdataSpan hplace)

/-- The header of a grown file and the sectors that were touched, once the data and the header are
on the disk. -/
theorem rewritten {data : Bytes} {written : Nat} {header'' : FileHeader} {volume'' : Volume}
    {disk₂ : Disk}
    (h : volume.Extended disk lost i header offset (offset + data.length) header' volume' disk₁
      fresh)
    (hintact : volume.Intact disk lost) (hheader : volume.header? disk i = some header)
    (hwritten : written = min data.length (header'.length - offset))
    (hoff : disk₁.SameOff (header'.dataSectors disk₁) disk₂)
    (hbytes : ∀ k, k / sectorSize < header'.sectorCount → header'.byteAt disk₂ k =
      if offset ≤ k ∧ k < offset + written then data.getD (k - offset) 0
      else header'.byteAt disk₁ k)
    (hput : disk₂.SameBytesOff {p | p.1 = (volume.directory.entry i).header ∧
      (0 < written ∨ header''.length ≠ header.length)} disk')
    (hheader' : header'' = { header' with modified := header''.modified })
    (hstored : volume''.header? disk' i = some header'')
    (hvolume : volume'' = { volume' with clock := volume''.clock })
    (hreadings : volume''.clock.readings = volume'.clock.readings)
    (hstamped : 0 < written ∨ header''.length ≠ header.length →
      header''.modified = .ofString volume'.now.1 ∧
        disk'.get (volume.directory.entry i).header = header''.encode) :
    volume.Rewritten disk i header offset data written header'' volume'' disk' := by
  have hlayout : header'.SameLayout header'' := by
    rw [hheader']
    exact ⟨rfl, rfl⟩
  have hfields :
      volume'' = { volume with freeMap := volume''.freeMap, clock := volume''.clock } := by
    rw [hvolume, h.fields_eq]
  have hmap : volume''.freeMap = volume'.freeMap := by rw [hvolume]
  have hclock : volume'.clock = volume.clock := by rw [h.fields_eq]
  have hputOff : disk₂.SameOff [(volume.directory.entry i).header] disk' :=
    hput.sameOff fun _ _ hhome => List.mem_singleton.2 hhome.1
  -- the index sector is where it was, and with it all that the header lists
  have hindex₁ : ∀ s ∈ header.indexSectors, disk₁.get s = disk.get s := fun s hs =>
    h.get_eq (.entry i) s (metaSectors_entry hheader ▸ List.mem_cons_of_mem _ hs)
  have hindex : ∀ s ∈ header'.indexSectors, disk'.get s = disk₁.get s :=
    fun _ hs => h.get_index hintact hheader hoff hputOff hs
  have hdata : header''.dataSectors disk' = header'.dataSectors disk₁ := by
    rw [hlayout.dataSectors_eq, FileHeader.dataSectors_congr hindex]
  have hplaces : ∀ span, header''.places disk' span = header'.places disk₁ span := by
    intro span
    rw [hlayout.places_eq, FileHeader.places_congr (FileHeader.dataSectors_congr hindex)]
  constructor
  case header?_eq => exact hstored
  case length_eq => rw [hlayout.length_eq, h.length_eq]
  case written_eq => rw [hlayout.length_eq, hwritten]
  case header_eq => rw [hheader', h.header_eq]
  case eq_of_length_eq =>
    intro hlength
    rw [hlayout.length_eq] at hlength
    obtain ⟨rfl, rfl⟩ := h.eq_of_length_eq hlength
    exact ⟨hheader', hmap⟩
  case exists_takes =>
    refine ⟨fresh, hmap ▸ h.takes, ?_⟩
    rw [hdata, h.dataSectors_eq, FileHeader.dataSectors_congr hindex₁]
  case indexSectors_eq => rw [hlayout.indexSectors_eq, h.indexSectors_eq]
  case fields_eq => exact hfields
  case stamped =>
    intro hchanged
    rw [Volume.now, ← hclock]
    exact hstamped hchanged
  case readings_eq => rw [hreadings, hclock]
  case sameBytesOff =>
    refine ((h.sameBytesOff_data hwritten hoff hbytes).trans hput).mono ?_
    rw [hplaces, hlayout.length_eq, Set.union_comm]

/-- A write to a grown file, once the data and the header are on the disk. -/
theorem written {data : Bytes} {written : Nat} {header'' : FileHeader} {volume'' : Volume}
    (h : volume.Extended disk lost i header offset (offset + data.length) header' volume' disk₁
      fresh)
    (hold : volume.Intact disk lost) (hheader : volume.header? disk i = some header)
    (hrewritten : volume.Rewritten disk i header offset data written header'' volume'' disk')
    (hmap : volume''.freeMap = volume'.freeMap) (hintact : volume''.Intact disk' lost)
    (hself : volume''.contents? disk' i =
      some ((header.contents disk).overlay header'.length offset data))
    (hothers : ∀ j, j ≠ i → volume''.contents? disk' j = volume'.contents? disk₁ j)
    (hflushed : volume'.Flushed disk₁ → volume''.Flushed disk')
    (hmeta : ∀ o, volume''.metaSectors disk' o = volume.metaSectors disk o) :
    volume.Written disk lost i (header.contents disk) offset data written volume'' disk' where
  written_eq := by rw [FileHeader.length_contents, ← hrewritten.length_eq, hrewritten.written_eq]
  contents?_eq := by rw [FileHeader.length_contents, ← h.length_eq, hself]
  contents?_of_ne j hj := (hothers j hj).trans (h.contents?_of_ne j hj)
  directory_eq := by rw [hrewritten.fields_eq]
  size_eq := by rw [hmap, h.takes.size_eq]
  numFree_eq := by
    have hcount := h.takes.numFree_add_length
    have htotal := h.totalSectorsFor_eq (hold.isConsistent hheader)
    rw [FileHeader.length_contents, ← h.length_eq, htotal, numFree, hmap, numFree]
    omega
  intact := hintact
  flushed hf := hflushed (h.flushed hf)
  metaSectors_eq := hmeta
  freeMapFile_eq := by rw [hrewritten.fields_eq]
  mem_of_mem n hn := hmap ▸ (h.takes.mem_iff n).2 (.inl hn)
  spares := hrewritten.spares hold hintact hheader

end Extended

namespace Intact

/-- A write to a listed file, told by its bytes and by its header. -/
theorem yields_rewrite (h : volume.Intact disk lost) (hlists : volume.Lists file.headerSector i)
    (hheader : volume.header? disk i = some header) {offset : Nat} {data : Bytes}
    (hsum : offset + data.length < sumLimit) :
    (file.writeAt volume offset data).Yields disk fun answer disk' =>
      volume.Written disk lost i (header.contents disk) offset data answer.1 answer.2 disk' ∧
        ∃ header', volume.Rewritten disk i header offset data answer.1 header' answer.2 disk' := by
  have hcons := h.isConsistent hheader
  rw [OpenFile.writeAt_eq _ _ hsum, Transfer.yields_bind, h.yields_header hlists hheader]
  refine (h.yields_extend hheader (Nat.le_add_right offset data.length) hsum).bind ?_
  rintro ⟨header', volume'⟩ disk₁ ⟨fresh, hext⟩
  simp only at hext
  refine (hext.placed.yields_writeAt hsum).bind ?_
  rintro written disk₂ ⟨hwritten, hoff, hbytesAt⟩
  obtain ⟨h₂, hheader₂, hothers₂, hflushed₂, hsame₂⟩ :=
    hext.intact.congr_of_write hext.header?_eq hext.dataSectors_eq hoff
  have hmeta₂ : ∀ o, volume'.metaSectors disk₂ o = volume.metaSectors disk o := fun o =>
    (hext.intact.metaSectors_congr rfl rfl (fun _ _ => rfl) (hsame₂ o)).trans
      (hext.metaSectors_eq h o)
  have hcontents := hext.contents_eq hwritten hbytesAt
  have hlayout := header'.sameLayout_setModified volume'.now.1
  have hdirectory : volume'.directory = volume.directory := by rw [hext.fields_eq]
  obtain ⟨hplaced₂, hdata₂⟩ := hext.dataSectors_of_sameOff hoff
  simp only
  split
  · next hchanged =>
    -- the header is stamped, and with it the new sectors become the file's
    have hlt := h₂.header_lt_count hheader₂
    rw [hdirectory, hlists.2] at hlt
    rw [FileHeader.store, Transfer.yields_bind, Transfer.yields_store hlt, Transfer.yields_pure]
    have hhome : (header'.setModified volume'.now.1).home = header.home := by
      rw [FileHeader.setModified, hext.header_eq]
    obtain ⟨hintact, hstored, hnew, hothers₃, hflushed₃, hmeta₃⟩ := h₂.storeHeader hheader₂
      (hlayout.placed hplaced₂) hhome (by rw [hlayout.dataSectors_eq, hdata₂])
      (by rw [hlayout.indexSectors_eq, hext.indexSectors_eq])
    rw [hdirectory, hlists.2] at hintact hstored hnew hothers₃ hflushed₃ hmeta₃
    rw [hlayout.contents_eq, hcontents] at hnew
    have hput := (Disk.SameOff.put disk₂ file.headerSector
      (header'.setModified volume'.now.1).encode).sameBytesOff
    rw [← hlists.2] at hput hstored ⊢
    have hrewritten : volume.Rewritten disk i header offset data written
        (header'.setModified volume'.now.1) volume'.now.2 _ :=
      hext.rewritten h hheader hwritten hoff hbytesAt
        (hput.mono fun p hhome => ⟨List.mem_singleton.1 hhome, hlayout.length_eq ▸ hchanged⟩) rfl
        hstored rfl rfl fun _ => ⟨rfl, Disk.get_put_self _ _ _⟩
    rw [hlists.2] at hrewritten ⊢
    refine ⟨hext.written h hheader hrewritten rfl (hintact.withClock _) hnew ?_ ?_
      fun o => (hmeta₃ o).trans (hmeta₂ o), _, hrewritten⟩
    · exact fun j hj => (hothers₃ j hj).trans (hothers₂ j hj)
    · intro hf
      have hf := hflushed₃ (hflushed₂ hf)
      exact ⟨hf.1, hf.2⟩
  · next hsame =>
    rw [Transfer.yields_pure]
    simp only [not_or, Nat.not_lt, ne_eq, not_not] at hsame
    -- a file that did not grow has no new sectors, so the old header is as good as the new one
    have hnone : fresh = [] := by
      have htotal := hext.totalSectorsFor_eq hcons
      rw [hsame.2] at htotal
      exact List.length_eq_zero_iff.1 (by omega)
    rw [hnone, List.append_nil] at hdata₂ h₂
    have hcontents₂ : header.contents disk₂ = header'.contents disk₂ := by
      rw [FileHeader.contents, FileHeader.contents, hsame.2]
      apply List.map_congr_left
      intro k _
      simp only [FileHeader.byteAt, FileHeader.sectorOf, hdata₂]
    have hrewritten := hext.rewritten h hheader hwritten hoff hbytesAt (.refl _ disk₂) rfl
      ((hext.eq_of_length_eq hsame.2).1 ▸ hheader₂) rfl rfl fun hchanged => by omega
    refine ⟨hext.written h hheader hrewritten rfl h₂ ?_ hothers₂ hflushed₂ hmeta₂, _, hrewritten⟩
    rw [contents?, hheader₂, Option.map_some, hcontents₂, hcontents]

/-- A write makes the file longer if it can, and lays the data over it as far as the file goes. -/
theorem yields_writeAt (h : volume.Intact disk lost) (hlists : volume.Lists file.headerSector i)
    (hbytes : volume.contents? disk i = some bytes) {offset : Nat} {data : Bytes}
    (hsum : offset + data.length < sumLimit) :
    (file.writeAt volume offset data).Yields disk fun answer disk' =>
      volume.Written disk lost i bytes offset data answer.1 answer.2 disk' := by
  obtain ⟨header, hheader, rfl⟩ := header?_of_contents? hbytes
  exact (h.yields_rewrite hlists hheader hsum).mono fun _ _ houtcome => houtcome.1

end Intact

/-- Of all files, at most that in entry `i` is changed. -/
structure ChangesOnly (volume : Volume) (disk : Disk) (i : Fin numEntries) (volume' : Volume)
    (disk' : Disk) : Prop where
  /-- The directory does not change. -/
  directory_eq : volume'.directory = volume.directory
  /-- The size of the volume does not change. -/
  size_eq : volume'.freeMap.size = volume.freeMap.size
  /-- The free map stays in the same file. -/
  freeMapFile_eq : volume'.freeMapFile = volume.freeMapFile
  /-- The other files are as before. -/
  contents?_of_ne : ∀ j, j ≠ i → volume'.contents? disk' j = volume.contents? disk j
  /-- The tables are on the disk if they were before. -/
  flushed : volume.Flushed disk → volume'.Flushed disk'
  /-- No sector is given back. -/
  mem_of_mem : ∀ n ∈ volume.freeMap, n ∈ volume'.freeMap
  /-- The idle sectors are spared. -/
  spares : volume.Spares disk volume' disk'

namespace ChangesOnly

variable {volume' volume'' : Volume} {disk'' : Disk}

/-- Nothing has changed. -/
theorem refl (volume : Volume) (disk : Disk) (i : Fin numEntries) :
    volume.ChangesOnly disk i volume disk :=
  ⟨rfl, rfl, rfl, fun _ _ => rfl, id, fun _ => id, .refl volume disk⟩

/-- Two changes of one file are a change of this file. -/
theorem trans (h : volume.ChangesOnly disk i volume' disk')
    (h' : volume'.ChangesOnly disk' i volume'' disk'') :
    volume.ChangesOnly disk i volume'' disk'' where
  directory_eq := h'.directory_eq.trans h.directory_eq
  size_eq := h'.size_eq.trans h.size_eq
  freeMapFile_eq := h'.freeMapFile_eq.trans h.freeMapFile_eq
  contents?_of_ne j hj := (h'.contents?_of_ne j hj).trans (h.contents?_of_ne j hj)
  flushed hflushed := h'.flushed (h.flushed hflushed)
  mem_of_mem n hn := h'.mem_of_mem n (h.mem_of_mem n hn)
  spares := by
    constructor
    · -- what neither step gives back was handed out by both together if by one of them
      intro s hidle hkept
      obtain ⟨hget, hidle'⟩ := h.spares.of_idle s hidle fun hout =>
        hkept ⟨hout.1, h'.mem_of_mem _ hout.2⟩
      obtain ⟨hget', hidle''⟩ := h'.spares.of_idle s hidle' fun hout =>
        hkept ⟨fun hmem => hout.1 (h.mem_of_mem _ hmem), hout.2⟩
      exact ⟨hget'.trans hget, hidle''⟩
    · intro j _ hne
      rw [h'.directory_eq, h.directory_eq] at hne
      exact absurd rfl hne

/-- An entry keeps its header when a file is changed. -/
theorem lists (h : volume.ChangesOnly disk i volume' disk') {sector : SectorId}
    {j : Fin numEntries} (hlists : volume.Lists sector j) : volume'.Lists sector j := by
  rw [Lists, h.directory_eq]
  exact hlists

end ChangesOnly

/-- A write changes no other file. -/
theorem Written.changesOnly {volume' : Volume} {offset written : Nat} {data : Bytes}
    (h : volume.Written disk lost i bytes offset data written volume' disk') :
    volume.ChangesOnly disk i volume' disk' :=
  ⟨h.directory_eq, h.size_eq, h.freeMapFile_eq, h.contents?_of_ne, h.flushed, h.mem_of_mem,
    h.spares⟩

end Volume

end SectorStore
