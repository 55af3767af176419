import SectorStore.Proofs.Session.Remount

/-!
# What a write may touch

A write to a file of a reachable volume, where the end of the data can be told, has one of two
outcomes (`Reachable.writeAt_touches`). If the file has to grow for it and cannot, the write stops
at the end of the file (`Clamped`): apart from bytes in front of the end and the time of the last
change nothing changes, and if there are no such bytes, no block is written. Otherwise all of the
data is written (`Completed`): only the sectors of the file that have a part of the data or of the
gap in front of it change, the sector of the header, and, if the file grows, the sectors of the
tables.
-/

namespace SectorStore

/-- The part of a write that follows when the header is read and the end of the data is told. -/
def OpenFile.rewrite (file : OpenFile) (volume : Volume) (offset : Nat) (data : Bytes)
    (old : FileHeader) : Transfer (Nat × Volume) := do
  let (header, volume) ← extend old volume offset (offset + data.length)
  let written ← header.writeAt offset data
  if 0 < written ∨ header.length ≠ old.length then
    let (now, volume) := volume.now
    (header.setModified now).store file.headerSector
    return (written, volume)
  else
    return (written, volume)

theorem OpenFile.writeAt_eq_bind (file : OpenFile) (volume : Volume) {offset : Nat} {data : Bytes}
    (hsum : offset + data.length < sumLimit) :
    file.writeAt volume offset data = file.header >>= file.rewrite volume offset data :=
  file.writeAt_eq volume hsum

/-- The file would have to grow to reach up to `stop`, and cannot. -/
def FileHeader.RefusesGrowth (header : FileHeader) (map : FreeMap) (stop : Nat) : Prop :=
  header.length < stop ∧ ∃ cause, header.grow map (stop - header.length) = .ok (.error cause)

namespace FileHeader

variable {header : FileHeader} {map : FreeMap} {stop : Nat}

/-- A file that cannot grow ends where it did. -/
theorem RefusesGrowth.reach_eq (h : header.RefusesGrowth map stop) (hcons : header.IsConsistent)
    (hsize : map.size ≤ 2 ^ 32) : reach header.length map.numFree stop = header.length := by
  obtain ⟨hlt, cause, hrefused⟩ := h
  refine if_neg fun hreach => ?_
  obtain ⟨-, hrefused⟩ := growTo_of_grow hrefused
  rw [Nat.add_sub_of_le (Nat.le_of_lt hlt)] at hrefused
  obtain ⟨header', map', fresh, hgrown, -⟩ :=
    exists_growTo hcons hsize (Nat.le_of_lt hlt) hreach.2
  rw [hrefused] at hgrown
  cases hgrown

/-- A file that is not refused growth ends where the write does, or where it did. -/
theorem reach_eq_max (h : ¬ header.RefusesGrowth map stop) (hcons : header.IsConsistent)
    (hsize : map.size ≤ 2 ^ 32) (hsum : stop < sumLimit) :
    reach header.length map.numFree stop = max header.length stop := by
  rcases Nat.lt_or_ge header.length stop with hlt | hle
  · rw [Nat.max_eq_right (Nat.le_of_lt hlt)]
    refine if_pos ⟨hlt, ?_⟩
    by_contra hgrow
    obtain ⟨cause, hrefused⟩ := exists_growTo_eq_error hcons hsize hgrow
    exact h ⟨hlt, cause, by rw [grow_eq (Nat.le_of_lt hlt) hsum, hrefused]⟩
  · rw [Nat.max_eq_left hle, reach, if_neg (by omega)]

end FileHeader

namespace Volume

variable {δ : Type} [BlockDevice δ] {volume volume' : Volume} {device device' : δ}
  {numSectors offset written : Nat} {header header' : FileHeader} {file : OpenFile} {data : Bytes}

/-- A write has stopped at the end of the file. -/
structure Clamped (volume : Volume) (device : δ) (numSectors : Nat) (file : OpenFile)
    (header : FileHeader) (offset : Nat) (data : Bytes) (written : Nat) (header' : FileHeader)
    (volume' : Volume) (device' : δ) : Prop where
  /-- The bytes are counted that there was room for in front of the end. -/
  written_eq : written = min data.length (header.length - offset)
  /-- Length and sectors of the file stay as they were. -/
  header_eq : header' = { header with modified := header'.modified }
  /-- The free map, the directory and the headers of the tables stay as they were. -/
  fields_eq : volume' = { volume with clock := volume'.clock }
  /-- The bytes of the file change from `offset` on. -/
  contents_eq : header'.contents (Disk.image device' numSectors) =
    (header.contents (Disk.image device numSectors)).overlay header.length offset data
  /-- Only the sectors of these bytes and that of the header change. -/
  sameBlocksOff : SameBlocksOff (file.headerSector ::
    header.sectorsIn (Disk.image device numSectors) ⟨offset, header.length⟩) device device'
  /-- If there was no room, no block is written and the clock is not asked. -/
  of_written_eq_zero : written = 0 → volume' = volume ∧ device' = device ∧
    ((file.writeAt volume offset data).traffic device).writes = 0

/-- All of the data is written. -/
structure Completed (volume : Volume) (device : δ) (numSectors : Nat) (file : OpenFile)
    (header : FileHeader) (offset : Nat) (data : Bytes) (written : Nat) (header' : FileHeader)
    (volume' : Volume) (device' : δ) : Prop where
  /-- All bytes are counted. -/
  written_eq : written = data.length
  /-- The file ends behind the data, or where it did. -/
  length_eq : header'.length = max header.length (offset + data.length)
  /-- Only the length, the sectors and the time of the last change are new. -/
  header_eq : header' = { header with
    numBytes := header'.numBytes, map := header'.map, modified := header'.modified }
  /-- Only the free map and the clock change in memory. -/
  fields_eq : volume' = { volume with freeMap := volume'.freeMap, clock := volume'.clock }
  /-- The file has the data, behind zeros if there was a gap. -/
  contents_eq : header'.contents (Disk.image device' numSectors) =
    (header.contents (Disk.image device numSectors)).overlay header'.length offset data
  /-- Only the sectors with a part of the data or of the gap change, that of the header, and those
  of the tables if the file grows. -/
  sameBlocksOff : SameBlocksOff (file.headerSector ::
    ((if header.length < offset + data.length then
        volume.tableSectors (Disk.image device numSectors)
      else []) ++ header'.sectorsIn (Disk.image device' numSectors)
        ⟨min offset header.length, offset + data.length⟩)) device device'
  /-- The header is consistent, and its sectors are distinct. -/
  placed : header'.Placed (Disk.image device' numSectors)
  /-- The sectors of the file are taken. -/
  mem : ∀ s ∈ file.headerSector :: header'.allSectors (Disk.image device' numSectors),
    s.toNat ∈ volume'.freeMap
  /-- The free map and the directory on the disk are those in memory. -/
  run_mount : (mount numSectors).run device' = (.ok (volume'.withClock .silent), device')

/-- In front of `offset` and behind the end of the file no byte changes. -/
theorem Clamped.getD_eq
    (h : volume.Clamped device numSectors file header offset data written header' volume' device')
    {k : Nat} (hk : ¬ (offset ≤ k ∧ k < header.length)) :
    (header'.contents (Disk.image device' numSectors)).getD k 0 =
      (header.contents (Disk.image device numSectors)).getD k 0 := by
  have hlength := FileHeader.length_contents header (Disk.image device numSectors)
  rw [h.contents_eq]
  by_cases hlt : k < header.length
  · rw [Bytes.getD_overlay (Nat.le_of_eq hlength) offset data hlt, if_neg (by omega)]
  · have hover := Bytes.length_overlay (Nat.le_of_eq hlength) offset data
    simp only [List.getD_eq_getElem?_getD]
    rw [List.getElem?_eq_none (by omega), List.getElem?_eq_none (by omega)]

/-- A file that stays as long as it is keeps the sectors of each span. -/
theorem Rewritten.sectorsIn_eq {disk disk' : Disk} {i : Fin numEntries}
    (h : volume.Rewritten disk i header offset data written header' volume' disk')
    (hcons : header.IsConsistent) (hlength : header'.length = header.length) (span : Span) :
    header'.sectorsIn disk' span = header.sectorsIn disk span := by
  have hlayout : header.SameLayout header' := by
    rw [(h.eq_of_length_eq hlength).1]
    exact ⟨rfl, rfl⟩
  obtain ⟨fresh, -, hdata⟩ := h.exists_takes
  -- as many sectors as before leave none in addition
  have hnone : fresh = [] := by
    have hcount := congrArg List.length hdata
    rw [hlayout.dataSectors_eq, List.length_append, hcons.length_dataSectors,
      hcons.length_dataSectors] at hcount
    exact List.length_eq_zero_iff.1 (by omega)
  rw [hnone, List.append_nil, hlayout.dataSectors_eq] at hdata
  rw [hlayout.sectorsIn_eq, FileHeader.sectorsIn_congr hdata]

/-- Where there is no room for a byte and the file cannot grow, nothing follows the reading of the
header. -/
theorem rewrite_eq_pure (hsum : offset + data.length < sumLimit)
    (hrefuses : header.RefusesGrowth volume.freeMap (offset + data.length))
    (hnone : min data.length (header.length - offset) = 0) :
    file.rewrite volume offset data header = pure (0, volume) := by
  obtain ⟨hlt, cause, hgrow⟩ := hrefuses
  simp only [OpenFile.rewrite, OpenFile.extend, if_neg (Nat.not_le.2 hlt), hgrow,
    Transfer.liftM_ok, pure_bind, FileHeader.writeAt_eq_pure hsum hnone]
  simp

end Volume

namespace Session

variable {δ : Type} [BlockDevice δ] [LawfulBlockDevice δ] {numSectors : Nat}
  {device device' : δ} {session : Session} {volume volume' : Volume} {lost : List SectorId}
  {file : OpenFile} {header header' : FileHeader} {offset written : Nat} {data : Bytes}
  {i : Fin numEntries}

/-- The header of a listed file is read without a write. -/
theorem run_header (hblocks : HasBlocks device numSectors)
    (hintact : volume.Intact (Disk.image device numSectors) lost)
    (hlists : volume.Lists file.headerSector i)
    (hheader : volume.header? (Disk.image device numSectors) i = some header) :
    file.header.run device = (.ok header, device) := by
  have hlt := hintact.header_lt_count hheader
  have hstored := (Volume.header?_eq_some_iff.1 hheader).2
  rw [hlists.2] at hlt hstored
  exact FileHeader.run_loadHome hblocks hlt hstored

namespace SoundOn

/-- A write that the file cannot grow for stops at the end of the file. -/
theorem clamped (h : session.SoundOn device numSectors volume lost)
    (hsum : offset + data.length < sumLimit) (hlists : volume.Lists file.headerSector i)
    (hheader : volume.header? (Disk.image device numSectors) i = some header)
    (hrefuses : header.RefusesGrowth volume.freeMap (offset + data.length))
    (hrun : (file.writeAt volume offset data).run device = (.ok (written, volume'), device'))
    (hwritten : volume.Written (Disk.image device numSectors) lost i
      (header.contents (Disk.image device numSectors)) offset data written volume'
      (Disk.image device' numSectors))
    (hrewritten : volume.Rewritten (Disk.image device numSectors) i header offset data written
      header' volume' (Disk.image device' numSectors)) :
    volume.Clamped device numSectors file header offset data written header' volume' device' := by
  have hintact := h.sound.intact
  have hcons := hintact.isConsistent hheader
  have hreach := hrefuses.reach_eq hcons hintact.size_le_pow
  have hlength : header'.length = header.length := hrewritten.length_eq.trans hreach
  obtain ⟨hsame, hmap⟩ := hrewritten.eq_of_length_eq hlength
  have hcount : written = min data.length (header.length - offset) :=
    hlength ▸ hrewritten.written_eq
  have hreads := run_header h.hasBlocks hintact hlists hheader
  -- without room for a byte the run ends as soon as the header is read
  have hzero : written = 0 → volume' = volume ∧ device' = device ∧
      ((file.writeAt volume offset data).traffic device).writes = 0 := by
    intro hnone
    have hpure : file.rewrite volume offset data header = pure (0, volume) :=
      Volume.rewrite_eq_pure hsum hrefuses (hcount.symm.trans hnone)
    rw [OpenFile.writeAt_eq_bind _ _ hsum] at hrun ⊢
    rw [Transfer.run_bind, hreads] at hrun
    simp only [hpure, Transfer.run_pure, Prod.mk.injEq, Except.ok.injEq] at hrun
    refine ⟨hrun.1.2.symm, hrun.2.symm, ?_⟩
    have hnoWrites : (file.header.traffic device).writes = 0 :=
      (FileHeader.onlyReads_loadHome file.headerSector).writes_traffic device
    rw [Transfer.writes_traffic_bind hreads, hpure, hnoWrites]
    rfl
  have hcontents := hrewritten.contents_eq hwritten
  rw [hlength] at hcontents
  refine ⟨hcount, hsame, ?_, hcontents, ?_, hzero⟩
  · rw [hrewritten.fields_eq, hmap]
  -- behind the end of the file there is nothing to write
  by_cases hroom : offset < header.length
  swap
  · obtain ⟨-, rfl, -⟩ := hzero (by omega)
    exact fun _ _ => rfl
  have hyields := hintact.yields_rewrite hlists hheader hsum
  refine (hyields.sameBlocksOff h.hasBlocks (h.size_eq ▸ hintact.size_le_pow) hrun
    (hrewritten.sameOff hintact)).mono ?_
  rw [if_pos hlength, List.nil_append, hlists.2, hrewritten.sectorsIn_eq hcons hlength,
    Nat.min_eq_left (Nat.le_of_lt hroom)]
  exact List.cons_subset_cons _ (FileHeader.sectorsIn_subset_of_lt hroom)

/-- A write that the file need not grow for, or can grow for, is completed. -/
theorem completed (h : session.SoundOn device numSectors volume lost)
    (hsum : offset + data.length < sumLimit) (hlists : volume.Lists file.headerSector i)
    (hheader : volume.header? (Disk.image device numSectors) i = some header)
    (hgrows : ¬ header.RefusesGrowth volume.freeMap (offset + data.length))
    (hrun : (file.writeAt volume offset data).run device = (.ok (written, volume'), device'))
    (hblocks' : HasBlocks device' numSectors)
    (hwritten : volume.Written (Disk.image device numSectors) lost i
      (header.contents (Disk.image device numSectors)) offset data written volume'
      (Disk.image device' numSectors))
    (hrewritten : volume.Rewritten (Disk.image device numSectors) i header offset data written
      header' volume' (Disk.image device' numSectors)) :
    volume.Completed device numSectors file header offset data written header' volume' device' := by
  have hintact := h.sound.intact
  have hreach := FileHeader.reach_eq_max hgrows (hintact.isConsistent hheader)
    hintact.size_le_pow hsum
  have hlength : header'.length = max header.length (offset + data.length) :=
    hrewritten.length_eq.trans hreach
  have hyields := hintact.yields_rewrite hlists hheader hsum
  have hblocksOff := hyields.sameBlocksOff h.hasBlocks (h.size_eq ▸ hintact.size_le_pow) hrun
    (hrewritten.sameOff hintact)
  rw [hlists.2, hlength] at hblocksOff
  have hlists' : volume'.Lists file.headerSector i := hwritten.changesOnly.lists hlists
  -- the session with the new volume is sound, so taking up the device gives the volume back
  have hsound' : (session.setVolume 0 volume').SoundOn device' numSectors volume' lost := by
    refine ⟨⟨hblocks', ⟨volumes_setVolume h.sound.volumes_eq volume', hwritten.intact,
      hwritten.flushed h.sound.flushed⟩, hwritten.size_eq.trans h.size_eq,
      h.numbered.congr rfl (Nat.le_refl _), ⟨fun _ _ _ => trivial, h.rings.pipe⟩⟩, ?_⟩
    rw [hwritten.freeMapFile_eq, h.freeMapFile_length]
  refine ⟨?_, hlength, hrewritten.header_eq, hrewritten.fields_eq,
    hrewritten.contents_eq hwritten, hblocksOff.mono ?_,
    hwritten.intact.placed hrewritten.header?_eq, ?_, hsound'.run_mount⟩
  · rw [hrewritten.written_eq, hlength]
    omega
  · by_cases hgrown : header.length < offset + data.length
    · rw [if_pos hgrown, if_neg (by omega)]
      exact List.Subset.refl _
    · rw [if_neg hgrown, if_pos (by omega)]
      exact List.Subset.refl _
  · intro s hs
    rw [← hlists'.2] at hs
    exact hwritten.intact.partition.mem
      ((Volume.sectorsOf_entry hrewritten.header?_eq).symm.subset hs)

end SoundOn

/-- A write to a file of a reachable volume runs through where the end of the data can be told. It
stops at the end of the file if the file has to grow for it and cannot, and otherwise writes all of
the data; in both cases it touches nothing besides what it has to. -/
theorem Reachable.writeAt_touches (h : Reachable (fun _ => True) numSectors device session)
    (hvolume : session.volumes = #[volume]) (hlists : volume.Lists file.headerSector i)
    (hsum : offset + data.length < sumLimit) :
    ∃ header written volume' header' device',
      file.header.run device = (.ok header, device) ∧
      (file.writeAt volume offset data).run device = (.ok (written, volume'), device') ∧
      file.header.run device' = (.ok header', device') ∧
      (header.RefusesGrowth volume.freeMap (offset + data.length) →
        volume.Clamped device numSectors file header offset data written header' volume' device') ∧
      (¬ header.RefusesGrowth volume.freeMap (offset + data.length) →
        volume.Completed device numSectors file header offset data written header' volume'
          device') := by
  obtain ⟨volume, lost, hsound, -⟩ := h.exists_soundOn
  obtain rfl := eq_of_volumes_eq hvolume hsound.sound.volumes_eq
  have hintact := hsound.sound.intact
  obtain ⟨header, hheader, -⟩ := hintact.exists_header i hlists.1
  obtain ⟨⟨written, volume'⟩, device', hrun, hblocks', hwritten, header', hrewritten⟩ :=
    (hintact.yields_rewrite hlists hheader hsum).exists_run hsound.hasBlocks
  have hlists' : volume'.Lists file.headerSector i := hwritten.changesOnly.lists hlists
  exact ⟨header, written, volume', header', device',
    run_header hsound.hasBlocks hintact hlists hheader, hrun,
    run_header hblocks' hwritten.intact hlists' hrewritten.header?_eq,
    fun hrefuses => hsound.clamped hsum hlists hheader hrefuses hrun hwritten hrewritten,
    fun hgrows => hsound.completed hsum hlists hheader hgrows hrun hblocks' hwritten hrewritten⟩

/-- On a memory disk of 20 blocks, a file of 200 bytes is written from position 100 on, with data
that ends behind it and with more data than the disk has room for. -/
theorem Reachable.writeAt_touches_of_open : ∃ (session : Session) (device : RamDisk sectorSize)
    (volume : Volume) (file : OpenFile) (i : Fin numEntries),
    (start.performAll [.format 0 20, .create 0 "a" 200, .openFile 0 0 "a"]).run
      (RamDisk.zeroed 20 sectorSize) = (.ok ([.done, .done, .done], session), device) ∧
    session.volumes = #[volume] ∧ volume.Lists file.headerSector i ∧
    ∀ data ∈ [List.replicate 200 7, List.replicate 4000 7], 100 + data.length < sumLimit ∧
      ∃ header written volume' header' device',
        file.header.run device = (.ok header, device) ∧
        (file.writeAt volume 100 data).run device = (.ok (written, volume'), device') ∧
        file.header.run device' = (.ok header', device') ∧
        (header.RefusesGrowth volume.freeMap (100 + data.length) →
          volume.Clamped device 20 file header 100 data written header' volume' device') ∧
        (¬ header.RefusesGrowth volume.freeMap (100 + data.length) →
          volume.Completed device 20 file header 100 data written header' volume' device') := by
  have hanswers : answers? ((start.performAll [.format 0 20, .create 0 "a" 200,
      .openFile 0 0 "a"]).run (RamDisk.zeroed 20 sectorSize)) =
        some [.done, .done, .done] := by decide +kernel
  obtain ⟨session, device, hrun⟩ := exists_of_answers? hanswers
  obtain ⟨session₁, device₁, hformat, hrest⟩ := run_performAll_cons hrun
  obtain ⟨session₂, device₂, hcreate, hrest⟩ := run_performAll_cons hrest
  obtain ⟨session₃, device₃, hopen, hrest⟩ := run_performAll_cons hrest
  obtain ⟨-, rfl, rfl⟩ := run_performAll_nil hrest
  have hpermits : session₁.Permits (fun _ => True) (.create 0 "a" 200) := trivial
  have hpermits' : session₂.Permits (fun _ => True) (.openFile 0 0 "a") := trivial
  have hreachable : Reachable (fun _ => True) 20 device₂ session₂ :=
    .perform (.format (RamDisk.hasBlocks _) hformat) hpermits hcreate
  obtain ⟨volume, lost, hsound, -⟩ := hreachable.exists_soundOn
  obtain ⟨file, i, rfl, rfl, hlists⟩ := hsound.sound.exists_lists_of_openFile hopen
  have hopened : Reachable (fun _ => True) 20 device (session₂.setFile 0 ⟨0, file⟩) :=
    hreachable.perform hpermits' hopen
  refine ⟨_, device, volume, file, i, hrun, hsound.sound.volumes_eq, hlists, fun data hdata => ?_⟩
  have hsum : 100 + data.length < sumLimit := by
    simp only [List.mem_cons, List.not_mem_nil, or_false] at hdata
    rcases hdata with rfl | rfl <;> rw [List.length_replicate] <;> decide
  exact ⟨hsum, hopened.writeAt_touches hsound.sound.volumes_eq hlists hsum⟩

end Session

end SectorStore
