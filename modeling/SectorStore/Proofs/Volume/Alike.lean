import SectorStore.Proofs.FileHeader.Both
import SectorStore.Proofs.OpenFile
import SectorStore.Proofs.Volume.Format
import SectorStore.Volume.Listing

/-!
# One volume on two disks

`volume.AlikeOn left right` says that a volume is intact on two disks which have the same headers,
the same numbers of sectors and the same bytes in all files. In anything else the disks may differ:
in the sectors that are free, in the bytes behind the ends of files, and in the slack of the tables.

Whatever is done with the volume has the same answer on both disks and leaves a volume that is alike
on both again. So what an older file has left in a sector is not seen, and neither is what was on
the disk before it was laid out (`yieldsBoth_format`).
-/

namespace SectorStore.Volume

open Transfer (YieldsBoth Settled)

variable {volume volume' : Volume} {left right left' right' : Disk} {lost lost' : List SectorId}
  {i : Fin numEntries} {header : FileHeader} {file : OpenFile} {bytes : Bytes}

/-- The volume is intact on both disks, with the same headers and the same bytes in all files. -/
structure AlikeOn (volume : Volume) (left right : Disk) : Prop where
  /-- The volume is intact on the one disk. -/
  exists_intact_left : ∃ lost, volume.Intact left lost
  /-- The volume is intact on the other disk. -/
  exists_intact_right : ∃ lost, volume.Intact right lost
  /-- Headers and numbers of sectors are the same. -/
  get_eq : ∀ o, ∀ s ∈ volume.metaSectors left o, right.get s = left.get s
  /-- The bytes of the files are the same. -/
  contents?_eq : ∀ i, volume.contents? right i = volume.contents? left i

namespace AlikeOn

/-- A disk is like itself. -/
theorem refl {disk : Disk} (h : volume.Intact disk lost) : volume.AlikeOn disk disk :=
  ⟨⟨lost, h⟩, ⟨lost, h⟩, fun _ _ _ => rfl, fun _ => rfl⟩

/-- Disks that are alike have the same headers. -/
theorem header?_eq (h : volume.AlikeOn left right) (i : Fin numEntries) :
    volume.header? right i = volume.header? left i := by
  obtain ⟨lost, hleft⟩ := h.exists_intact_left
  exact hleft.header?_congr rfl (h.get_eq (.entry i))

/-- Disks that are alike have the same sectors of headers and indexes. -/
theorem metaSectors_eq (h : volume.AlikeOn left right) (o : Owner) :
    volume.metaSectors right o = volume.metaSectors left o := by
  obtain ⟨lost, hleft⟩ := h.exists_intact_left
  exact hleft.metaSectors_congr rfl rfl (fun _ _ => rfl) (h.get_eq o)

/-- Disks that are alike have the bytes of a file in the same sectors. -/
theorem dataSectors_eq (h : volume.AlikeOn left right)
    (hheader : volume.header? left i = some header) :
    header.dataSectors right = header.dataSectors left := by
  refine FileHeader.dataSectors_congr fun s hs => h.get_eq (.entry i) s ?_
  rw [metaSectors_entry hheader]
  exact List.mem_cons_of_mem _ hs

theorem withClock (h : volume.AlikeOn left right) (clock : Clock) :
    (volume.withClock clock).AlikeOn left right := by
  obtain ⟨⟨lost, hleft⟩, ⟨lost', hright⟩⟩ := And.intro h.exists_intact_left h.exists_intact_right
  exact ⟨⟨lost, hleft.withClock clock⟩, ⟨lost', hright.withClock clock⟩, h.get_eq, h.contents?_eq⟩

/-- Where the tables are written on both disks, all that matters stays as it was. -/
theorem of_sameOff (h : volume.AlikeOn left right)
    (hintactLeft : ∃ lost, volume.Intact left' lost)
    (hintactRight : ∃ lost, volume.Intact right' lost)
    (hoffLeft : left.SameOff (volume.tableSectors left) left')
    (hoffRight : right.SameOff (volume.tableSectors right) right') :
    volume.AlikeOn left' right' := by
  obtain ⟨lost, hleft⟩ := h.exists_intact_left
  obtain ⟨lost', hright⟩ := h.exists_intact_right
  refine ⟨hintactLeft, hintactRight, ?_, fun i => ?_⟩
  · intro o s hs
    rw [hleft.metaSectors_congr rfl rfl (fun _ _ => rfl)
      fun s hs => hleft.get_of_sameOff hoffLeft hs] at hs
    rw [hleft.get_of_sameOff hoffLeft hs, ← h.get_eq o s hs]
    exact hright.get_of_sameOff hoffRight (h.metaSectors_eq o ▸ hs)
  · rw [hleft.contents?_of_sameOff hoffLeft, hright.contents?_of_sameOff hoffRight,
      h.contents?_eq]

/-- Writing back the tables keeps disks alike. -/
theorem yieldsBoth_flush (h : volume.AlikeOn left right) :
    volume.flush.YieldsBoth left right fun _ left' right' => volume.AlikeOn left' right' := by
  obtain ⟨lost, hleft⟩ := h.exists_intact_left
  obtain ⟨lost', hright⟩ := h.exists_intact_right
  refine (hleft.yields_flush.both hright.yields_flush fun _ _ _ _ _ _ => rfl).mono ?_
  rintro - left' right' ⟨⟨hleft', -, hoffLeft⟩, hright', -, hoffRight⟩
  exact h.of_sameOff ⟨lost, hleft'⟩ ⟨lost', hright'⟩ hoffLeft hoffRight

/-! ## Making and removing files -/

/-- A file was stored on both disks, with the same header and the same index sector. -/
theorem of_stored {sector : SectorId} {map : FreeMap} {entry : DirEntry} {left₁ right₁ : Disk}
    {name : String} {size : Nat} {map₂ : FreeMap} (h : volume.AlikeOn left right)
    (haccepted : volume.Accepted name size sector map entry i)
    (hleft : volume.Stored left lost size i sector header (volume.withFile map₂ i entry) left₁
      left')
    (hright : volume.Stored right lost' size i sector header (volume.withFile map₂ i entry) right₁
      right')
    (hindex : ∀ s ∈ header.indexSectors, right₁.get s = left₁.get s) :
    (volume.withFile map₂ i entry).AlikeOn left' right' := by
  obtain ⟨lost₀, hintact⟩ := h.exists_intact_left
  obtain ⟨lost₀', hintact'⟩ := h.exists_intact_right
  obtain ⟨lost₁, hintact₁, -⟩ := hleft.intact
  obtain ⟨lost₁', hintact₁', -⟩ := hright.intact
  have hother : ∀ j, j ≠ i →
      (volume.withFile map₂ i entry).directory.entry j = volume.directory.entry j :=
    fun _ hj => entry_withFile_of_ne volume map₂ entry hj
  -- the sectors of the others were taken before, and nothing was written there
  have hkeptLeft : ∀ o, ∀ s ∈ volume.sectorsOf left lost₀ o, left'.get s = left.get s :=
    fun o s hs => hleft.get_of_mem s (hintact.partition.mem hs)
  have hkeptRight : ∀ o, ∀ s ∈ volume.sectorsOf right lost₀' o, right'.get s = right.get s :=
    fun o s hs => hright.get_of_mem s (hintact'.partition.mem hs)
  refine ⟨⟨lost₁, hintact₁⟩, ⟨lost₁', hintact₁'⟩, ?_, ?_⟩
  · intro o s hs
    -- the new file has the same header and index sector on both disks; the others had them before
    by_cases ho : o = .entry i
    · subst ho
      cases hused : ((volume.withFile map₂ i entry).directory.entry i).isUnused with
      | true =>
        rw [metaSectors, header?, if_pos hused] at hs
        exact absurd hs List.not_mem_nil
      | false =>
        rw [metaSectors_entry (hleft.header?_eq hused), entry_withFile_self,
          DirEntry.header_make haccepted.make_eq, List.mem_cons] at hs
        rcases hs with rfl | hs
        · rw [hleft.get_eq, hright.get_eq]
        · rw [hleft.get_index s hs, hright.get_index s hs, hindex s hs]
    · have hentry : ∀ j, o = .entry j →
          (volume.withFile map₂ i entry).directory.entry j = volume.directory.entry j := by
        rintro j rfl
        exact hother j fun hj => ho (congrArg _ hj)
      have hmeta : (volume.withFile map₂ i entry).metaSectors left' o = volume.metaSectors left o :=
        hintact.metaSectors_congr rfl rfl hentry fun s hs => hkeptLeft o s (metaSectors_subset o hs)
      rw [hmeta] at hs
      rw [hkeptLeft o s (metaSectors_subset o hs), ← h.get_eq o s hs]
      exact hkeptRight o s (metaSectors_subset o (h.metaSectors_eq o ▸ hs))
  · intro j
    by_cases hj : j = i
    · subst hj
      cases hused : ((volume.withFile map₂ j entry).directory.entry j).isUnused with
      | true =>
        rw [contents?, contents?, header?, if_pos hused, header?, if_pos hused]
        rfl
      | false => rw [hleft.contents?_eq hused, hright.contents?_eq hused]
    · rw [hintact.contents?_congr (hother j hj) (hkeptLeft (.entry j)),
        hintact'.contents?_congr (hother j hj) (hkeptRight (.entry j)), h.contents?_eq]

/-- A file is made alike on disks that are alike, or refused on both. -/
theorem yieldsBoth_create (h : volume.AlikeOn left right) (name : String) (size : Nat) :
    (volume.create name size).run.YieldsBoth left right fun answer left' right' =>
      match answer with
      | .ok volume' => volume'.AlikeOn left' right'
      | .error _ => left' = left ∧ right' = right := by
  obtain ⟨lost, hleft⟩ := h.exists_intact_left
  obtain ⟨lost', hright⟩ := h.exists_intact_right
  rcases hrefusal : volume.refusal? name size with _ | cause
  swap
  · rw [create_eq_throw hleft.size_le_pow hrefusal]
    exact Transfer.yieldsBoth_pure.2 ⟨rfl, rfl⟩
  -- the checks do not look at the disk, so the file is made on both
  obtain ⟨sector, map, entry, i, haccepted⟩ := exists_accepted hleft.size_le_pow hrefusal
  have hsize := haccepted.takes.size_eq
  rw [haccepted.create_eq]
  refine ((FileHeader.yieldsBoth_allocate (hsize ▸ hleft.size_le_pow) (hsize ▸ hleft.size_le)
    (hsize ▸ hright.size_le) size).and (haccepted.yields_allocate hleft)
    (haccepted.yields_allocate hright)).run_bind ?_ ?_
  swap
  · rintro cause left₁ right₁ ⟨-, ⟨_, _, ⟨⟩, -⟩, -⟩
  rintro _ left₁ right₁ ⟨hindex, ⟨header, map₂, ⟨⟩, hallocLeft⟩, _, _, ⟨⟩, hallocRight⟩
  have hlayout := header.sameLayout_describe (Extension.ofName name) volume.now.1 sector
  refine ((haccepted.yields_writeNew hleft hallocLeft hlayout rfl).both
    (haccepted.yields_writeNew hright hallocRight hlayout rfl)
    fun _ _ _ _ _ _ => rfl).run_lift_bind ?_
  rintro - left₂ right₂ ⟨hstoredLeft, hstoredRight⟩
  have halike := h.of_stored haccepted hstoredLeft hstoredRight fun s hs =>
    (hindex header map₂ rfl).2 s (hlayout.indexSectors_eq ▸ hs)
  refine halike.yieldsBoth_flush.run_lift_bind ?_
  rintro - left₃ right₃ halike₃
  exact Transfer.yieldsBoth_pure.2 halike₃

/-- The volume in memory after a removal is the same on both disks. -/
theorem eq_of_removed (h : volume.AlikeOn left right) {volume'' : Volume}
    (hleft : volume.Removed left lost i volume' left')
    (hright : volume.Removed right lost' i volume'' right') : volume' = volume'' := by
  have hsectors : volume.sectorsOf right lost' (.entry i) =
      volume.sectorsOf left lost (.entry i) := by
    obtain ⟨lost₁, hintact⟩ := h.exists_intact_left
    have hcongr : volume.metaSectors right (.entry i) = volume.metaSectors left (.entry i) ∧
        volume.dataSectors right lost' (.entry i) = volume.dataSectors left lost (.entry i) :=
      hintact.sectorsOf_congr rfl rfl (fun _ _ => rfl) nofun (h.get_eq (.entry i))
    rw [sectorsOf, hcongr.1, hcongr.2, sectorsOf]
  -- the same sectors are given back, and nothing else changes in memory
  have hmap := hleft.givesBack.map_eq (hsectors ▸ hright.givesBack)
  have hdirectory := hleft.directory_eq.trans hright.directory_eq.symm
  calc volume' = { volume with freeMap := volume'.freeMap, directory := volume'.directory } :=
        hleft.fields_eq
    _ = { volume with freeMap := volume''.freeMap, directory := volume''.directory } := by
        rw [hmap, hdirectory]
    _ = volume'' := hright.fields_eq.symm

/-- Removing a file keeps disks alike. -/
theorem of_removed (h : volume.AlikeOn left right)
    (hleft : volume.Removed left lost i volume' left')
    (hright : volume.Removed right lost' i volume' right') : volume'.AlikeOn left' right' := by
  obtain ⟨lost₀, hintact⟩ := h.exists_intact_left
  obtain ⟨lost₀', hintact'⟩ := h.exists_intact_right
  have hself : (volume'.directory.entry i).isUnused = true := by
    rw [hleft.directory_eq, Directory.entry_setEntry, if_pos rfl]
    rfl
  refine ⟨⟨lost, hleft.intact⟩, ⟨lost', hright.intact⟩, ?_, ?_⟩
  · intro o s hs
    -- the removed file has nothing left that could differ
    have ho : o ≠ .entry i := by
      rintro rfl
      rw [metaSectors, header?, if_pos hself] at hs
      exact absurd hs List.not_mem_nil
    have hentry : ∀ j, o = .entry j → volume'.directory.entry j = volume.directory.entry j := by
      rintro j rfl
      rw [hleft.directory_eq, Directory.entry_setEntry, if_neg fun hj => ho (congrArg _ hj)]
    have hfiles := hleft.fields_eq
    rw [hintact.metaSectors_congr (by rw [hfiles]) (by rw [hfiles]) hentry fun s hs =>
      hintact.get_of_sameOff hleft.sameOff hs] at hs
    rw [hintact.get_of_sameOff hleft.sameOff hs, ← h.get_eq o s hs]
    exact hintact'.get_of_sameOff hright.sameOff (h.metaSectors_eq o ▸ hs)
  · intro j
    by_cases hj : j = i
    · rw [hj, contents?, contents?, header?, if_pos hself, header?, if_pos hself]
      rfl
    · rw [hleft.contents?_of_ne j hj, hright.contents?_of_ne j hj, h.contents?_eq]

/-- A file is removed alike on disks that are alike, or refused on both. -/
theorem yieldsBoth_remove (h : volume.AlikeOn left right) (name : String) :
    (volume.remove name).run.YieldsBoth left right fun answer left' right' =>
      match answer with
      | .ok volume' => volume'.AlikeOn left' right'
      | .error _ => left' = left ∧ right' = right := by
  obtain ⟨lost, hleft⟩ := h.exists_intact_left
  obtain ⟨lost', hright⟩ := h.exists_intact_right
  have hboth := hleft.yields_remove name
  have hboth' := hright.yields_remove name
  rcases hindex : volume.directory.indexOf? name with _ | i
  · simp only [hindex] at hboth hboth'
    refine (hboth.both hboth' fun _ _ _ _ hl hr => hl.1.trans hr.1.symm).mono ?_
    rintro _ left' right' ⟨⟨rfl, rfl⟩, -, rfl⟩
    exact ⟨rfl, rfl⟩
  · simp only [hindex] at hboth hboth'
    refine (hboth.both hboth' ?_).mono ?_
    · rintro _ _ left' right' ⟨volume', rfl, hremoved⟩ ⟨volume'', rfl, hremoved'⟩
      rw [h.eq_of_removed hremoved hremoved']
    · rintro _ left' right' ⟨⟨volume', rfl, hremoved⟩, _, ⟨⟩, hremoved'⟩
      exact h.of_removed hremoved hremoved'

/-! ## Reading files -/

section Reading

variable (h : volume.AlikeOn left right) (hlists : volume.Lists file.headerSector i)

include h hlists

/-- The header of a file is read alike. -/
theorem yieldsBoth_header : file.header.YieldsBoth left right fun answer left' right' =>
    volume.header? left i = some answer ∧ left' = left ∧ right' = right := by
  obtain ⟨lost, hleft⟩ := h.exists_intact_left
  obtain ⟨lost', hright⟩ := h.exists_intact_right
  obtain ⟨header, hheader, -⟩ := hleft.exists_header i hlists.1
  refine .of_looks ((hleft.yields_header hlists hheader).2 ⟨rfl, rfl⟩)
    ((hright.yields_header hlists ((h.header?_eq i).trans hheader)).2 ⟨rfl, rfl⟩)
    ⟨hheader, rfl, rfl⟩

theorem yieldsBoth_length : file.length.YieldsBoth left right fun _ left' right' =>
    left' = left ∧ right' = right := by
  obtain ⟨lost, hleft⟩ := h.exists_intact_left
  obtain ⟨lost', hright⟩ := h.exists_intact_right
  obtain ⟨bytes, hbytes⟩ := hleft.exists_contents? hlists.1
  exact .of_looks ((hleft.yields_length hlists hbytes).2 ⟨rfl, rfl⟩)
    ((hright.yields_length hlists ((h.contents?_eq i).trans hbytes)).2 ⟨rfl, rfl⟩) ⟨rfl, rfl⟩

/-- Bytes of a file are read without changing either disk. -/
theorem yieldsBoth_readBytes {offset count : Nat} (hsum : offset + count < sumLimit) :
    (file.readBytes offset count).YieldsBoth left right fun _ left' right' =>
      left' = left ∧ right' = right := by
  obtain ⟨lost, hleft⟩ := h.exists_intact_left
  obtain ⟨lost', hright⟩ := h.exists_intact_right
  obtain ⟨bytes, hbytes⟩ := hleft.exists_contents? hlists.1
  exact .of_looks ((hleft.yields_readBytes hlists hbytes hsum).2 ⟨rfl, rfl⟩)
    ((hright.yields_readBytes hlists ((h.contents?_eq i).trans hbytes) hsum).2 ⟨rfl, rfl⟩)
    ⟨rfl, rfl⟩

theorem yieldsBoth_readAt {offset : Nat} {buffer : Bytes}
    (hsum : offset + buffer.length < sumLimit) :
    (file.readAt offset buffer).YieldsBoth left right fun _ left' right' =>
      left' = left ∧ right' = right := by
  obtain ⟨lost, hleft⟩ := h.exists_intact_left
  obtain ⟨lost', hright⟩ := h.exists_intact_right
  obtain ⟨bytes, hbytes⟩ := hleft.exists_contents? hlists.1
  exact .of_looks ((hleft.yields_readAt hlists hbytes hsum).2 ⟨rfl, rfl⟩)
    ((hright.yields_readAt hlists ((h.contents?_eq i).trans hbytes) hsum).2 ⟨rfl, rfl⟩)
    ⟨rfl, rfl⟩

end Reading

/-! ## Writing files -/

/-- The header in memory and the free map after the file was extended are settled by the header
before. -/
theorem settled_extend (header : FileHeader) (volume : Volume) (offset stop : Nat) :
    (OpenFile.extend header volume offset stop).Settled := by
  rw [OpenFile.extend]
  split
  · exact Transfer.settled_pure _
  rcases header.grow volume.freeMap (stop - header.length) with cause | cause | ⟨header', map⟩
  · exact ⟨(header, volume), .fault cause⟩
  · exact Transfer.settled_pure _
  · rw [Transfer.liftM_ok, pure_bind]
    exact Transfer.settled_bind fun _ => Transfer.always_bind fun _ => Transfer.always_pure rfl

/-- A write has the same answer on both disks, and leaves headers and numbers of sectors the
same. -/
theorem yieldsBoth_writeAt_get (h : volume.AlikeOn left right)
    (hlists : volume.Lists file.headerSector i) {offset : Nat} {data : Bytes}
    (hsum : offset + data.length < sumLimit) :
    (file.writeAt volume offset data).YieldsBoth left right fun _ left' right' =>
      ∀ o, ∀ s ∈ volume.metaSectors left o, right'.get s = left'.get s := by
  obtain ⟨lost, hleft⟩ := h.exists_intact_left
  obtain ⟨lost', hright⟩ := h.exists_intact_right
  rw [OpenFile.writeAt_eq _ _ hsum]
  refine (h.yieldsBoth_header hlists).bind ?_
  rintro header _ _ ⟨hheader, hleft₀, hright₀⟩
  rw [hleft₀, hright₀]
  have hheader' := (h.header?_eq i).trans hheader
  have hle := Nat.le_add_right offset data.length
  refine ((settled_extend header volume offset (offset + data.length)).both
    (hleft.yields_extend hheader hle hsum) (hright.yields_extend hheader' hle hsum)).bind ?_
  rintro ⟨header', volume'⟩ left₁ right₁ ⟨⟨fresh, hext⟩, fresh', hext'⟩
  dsimp only at hext hext' ⊢
  refine ((hext.placed.yields_writeAt hsum).both (hext'.placed.yields_writeAt hsum)
    fun _ _ _ _ hl hr => hl.1.trans hr.1.symm).bind ?_
  rintro written left₂ right₂ ⟨⟨-, hoff, -⟩, -, hoff', -⟩
  obtain ⟨hintact₂, hheader₂, -, -, hget⟩ :=
    hext.intact.congr_of_write hext.header?_eq hext.dataSectors_eq hoff
  obtain ⟨hintact₂', hheader₂', -, -, hget'⟩ :=
    hext'.intact.congr_of_write hext'.header?_eq hext'.dataSectors_eq hoff'
  -- so far only bytes of files were written, on either disk
  have hsame : ∀ o, ∀ s ∈ volume.metaSectors left o, right₂.get s = left₂.get s := by
    intro o s hs
    have hs' := (h.metaSectors_eq o).symm ▸ hs
    calc right₂.get s = right₁.get s := hget' o s ((hext'.metaSectors_eq hright o).symm ▸ hs')
      _ = right.get s := hext'.get_eq o s hs'
      _ = left.get s := h.get_eq o s hs
      _ = left₁.get s := (hext.get_eq o s hs).symm
      _ = left₂.get s := (hget o s ((hext.metaSectors_eq hleft o).symm ▸ hs)).symm
  have hdirectory : volume'.directory = volume.directory := by rw [hext.fields_eq]
  split
  · -- the same header is put into the same sector
    have hlt := hintact₂.header_lt_count hheader₂
    have hlt' := hintact₂'.header_lt_count hheader₂'
    rw [hdirectory, hlists.2] at hlt hlt'
    rw [FileHeader.store]
    refine (Transfer.yieldsBoth_store hlt hlt' (p := fun _ left' right' =>
      ∀ o, ∀ s ∈ volume.metaSectors left o, right'.get s = left'.get s) ?_).bind ?_
    · intro o s hs
      rw [Disk.get_put, Disk.get_put, hsame o s hs]
    · exact fun _ _ _ hpost => Transfer.yieldsBoth_pure.2 hpost
  · exact Transfer.yieldsBoth_pure.2 hsame

/-- A write through an open file keeps disks alike, and the directory stays. -/
theorem yieldsBoth_writeAt (h : volume.AlikeOn left right)
    (hlists : volume.Lists file.headerSector i) {offset : Nat} {data : Bytes}
    (hsum : offset + data.length < sumLimit) :
    (file.writeAt volume offset data).YieldsBoth left right fun answer left' right' =>
      answer.2.AlikeOn left' right' ∧ answer.2.directory = volume.directory := by
  obtain ⟨lost, hleft⟩ := h.exists_intact_left
  obtain ⟨lost', hright⟩ := h.exists_intact_right
  obtain ⟨bytes, hbytes⟩ := hleft.exists_contents? hlists.1
  have hbytes' := (h.contents?_eq i).trans hbytes
  refine ((h.yieldsBoth_writeAt_get hlists hsum).and (hleft.yields_writeAt hlists hbytes hsum)
    (hright.yields_writeAt hlists hbytes' hsum)).mono ?_
  rintro ⟨written, volume'⟩ left' right' ⟨hget, hwritten, hwritten'⟩
  refine ⟨⟨⟨lost, hwritten.intact⟩, ⟨lost', hwritten'.intact⟩, ?_, fun j => ?_⟩,
    hwritten.directory_eq⟩
  · intro o s hs
    exact hget o s (hwritten.metaSectors_eq o ▸ hs)
  · by_cases hj : j = i
    · rw [hj, hwritten.contents?_eq, hwritten'.contents?_eq]
    · rw [hwritten.contents?_of_ne j hj, hwritten'.contents?_of_ne j hj, h.contents?_eq]

/-! ## Listing the volume -/

/-- Listings are made without changing either disk. -/
theorem yieldsBoth_fileListings (h : volume.AlikeOn left right) (names : List String) :
    (volume.fileListings names).YieldsBoth left right fun _ left' right' =>
      left' = left ∧ right' = right := by
  obtain ⟨lost, hleft⟩ := h.exists_intact_left
  obtain ⟨lost', hright⟩ := h.exists_intact_right
  induction names with
  | nil => exact Transfer.yieldsBoth_pure.2 ⟨rfl, rfl⟩
  | cons name others ih =>
    have hrest : ∀ entry : String, (do return entry ++ (← volume.fileListings others)).YieldsBoth
        left right fun _ left' right' => left' = left ∧ right' = right :=
      fun _ => ih.bind_of_unchanged fun _ => Transfer.yieldsBoth_pure.2 ⟨rfl, rfl⟩
    rw [fileListings, Directory.find?_eq]
    rcases hindex : volume.directory.indexOf? name with _ | i
    · exact hrest ""
    obtain ⟨header, hheader, -⟩ := hleft.exists_header i (Directory.isUnused_of_indexOf? hindex)
    have hheader' := (h.header?_eq i).trans hheader
    -- the header as it is stored has the same sectors and the same bytes
    have hlayout := header.sameLayout_forget
    have hdata := h.dataSectors_eq hheader
    have hcontents : header.contents right = header.contents left := by
      have hsame := h.contents?_eq i
      rw [contents?, contents?, hheader, hheader'] at hsame
      exact Option.some.inj hsame
    rw [← hlayout.dataSectors_eq, ← hlayout.dataSectors_eq] at hdata
    rw [← hlayout.contents_eq, ← hlayout.contents_eq] at hcontents
    simp only [Option.map_some]
    refine .bind_of_looks ((FileHeader.yields_load (hleft.header_lt_count hheader)
      (header?_eq_some_iff.1 hheader).2).2 ⟨rfl, rfl⟩)
      ((FileHeader.yields_load (hright.header_lt_count hheader')
        (header?_eq_some_iff.1 hheader').2).2 ⟨rfl, rfl⟩) ?_
    refine ((hlayout.placed (hleft.placed hheader)).yieldsBoth_listing
      (hlayout.placed (hright.placed hheader')) hdata hcontents).bind_of_unchanged fun listing => ?_
    rw [pure_bind]
    exact hrest _

/-- The listing shows no byte that is not part of a file. -/
theorem yieldsBoth_listing (h : volume.AlikeOn left right) (hleft : volume.Flushed left)
    (hright : volume.Flushed right) :
    volume.listing.YieldsBoth left right fun _ left' right' => left' = left ∧ right' = right := by
  obtain ⟨lost, hintact⟩ := h.exists_intact_left
  obtain ⟨lost', hintact'⟩ := h.exists_intact_right
  rw [listing]
  refine (hintact.placed_freeMapFile.yieldsBoth_listing hintact'.placed_freeMapFile
    (FileHeader.dataSectors_congr (h.get_eq .freeMapFile))
    (hright.freeMap_eq.trans hleft.freeMap_eq.symm)).bind_of_unchanged fun freeMap => ?_
  refine (hintact.placed_directoryFile.yieldsBoth_listing hintact'.placed_directoryFile
    (FileHeader.dataSectors_congr (h.get_eq .directoryFile))
    (hright.directory_eq.trans hleft.directory_eq.symm)).bind_of_unchanged fun directory => ?_
  exact (h.yieldsBoth_fileListings volume.names).bind_of_unchanged fun _ =>
    Transfer.yieldsBoth_pure.2 ⟨rfl, rfl⟩

/-! ## Laying out the disk -/

variable {numSectors : Nat}

/-- The headers of the tables are the same on both disks once they are written. -/
theorem of_laidOut {map : FreeMap} {freeMapFile directoryFile : FileHeader}
    (hleft : (laidOut freeMapFile directoryFile map).Intact
      ((left.put freeMapSector (freeMapFile.setHome freeMapSector).encode).put directorySector
        (directoryFile.setHome directorySector).encode) [])
    (hright : (laidOut freeMapFile directoryFile map).Intact
      ((right.put freeMapSector (freeMapFile.setHome freeMapSector).encode).put directorySector
        (directoryFile.setHome directorySector).encode) [])
    (hindex : ∀ s ∈ freeMapFile.indexSectors ++ directoryFile.indexSectors,
      right.get s = left.get s) :
    (laidOut freeMapFile directoryFile map).AlikeOn
      ((left.put freeMapSector (freeMapFile.setHome freeMapSector).encode).put directorySector
        (directoryFile.setHome directorySector).encode)
      ((right.put freeMapSector (freeMapFile.setHome freeMapSector).encode).put directorySector
        (directoryFile.setHome directorySector).encode) := by
  -- there are no files yet
  have hnone : ∀ disk i, (laidOut freeMapFile directoryFile map).header? disk i = none := by
    intro disk i
    refine if_pos ?_
    show (Directory.empty.entry i).isUnused = true
    rw [Directory.entry_empty]
    rfl
  refine ⟨⟨[], hleft⟩, ⟨[], hright⟩, ?_, ?_⟩
  · intro o s hs
    simp only [Disk.get_put]
    split
    · rfl
    split
    · rfl
    -- what is left are the index sectors of the two tables
    next hdirectory hfreeMap =>
    refine hindex s ?_
    cases o with
    | headers => simp_all [metaSectors]
    | freeMapFile => exact List.mem_append_left _ hs
    | directoryFile => exact List.mem_append_right _ hs
    | lost => exact absurd hs List.not_mem_nil
    | entry i =>
      rw [metaSectors, hnone] at hs
      exact absurd hs List.not_mem_nil
  · intro i
    rw [contents?, contents?, hnone, hnone]
    rfl

/-- Nothing of what was on the disks before they were laid out is seen. -/
theorem yieldsBoth_format (hleft : numSectors ≤ left.count) (hright : numSectors ≤ right.count)
    (h : 2 ≤ numSectors) :
    (format numSectors).run.YieldsBoth left right fun answer left' right' =>
      match formatRefusal? numSectors with
      | some cause => answer = .error cause
      | none => ∃ volume, answer = .ok volume ∧ volume.AlikeOn left' right' := by
  rcases hrefusal : formatRefusal? numSectors with _ | cause
  swap
  · exact ((yields_format_refused hleft h hrefusal).both (yields_format_refused hright h hrefusal)
      fun _ _ _ _ hl hr => hl.trans hr.symm).mono fun _ _ _ hpost => hpost.1
  obtain ⟨map, hmap, hformat⟩ := exists_format_eq h
  have hsize : map.size = numSectors := hmap.size_eq
  have hpow : numSectors ≤ 2 ^ 32 := size_le_pow (le_maxSectors_of_formatRefusal? hrefusal)
  rw [hformat]
  refine ((FileHeader.yieldsBoth_allocate (hsize ▸ hpow) (hsize ▸ hleft) (hsize ▸ hright) _).and
    (yields_allocate_freeMap hmap hleft hrefusal)
    (yields_allocate_freeMap hmap hright hrefusal)).run_bind ?_ ?_
  swap
  · rintro cause left₁ right₁ ⟨-, ⟨_, _, ⟨⟩, -⟩, -⟩
  rintro _ left₁ right₁ ⟨hsame₁, ⟨freeMapFile, map₁, ⟨⟩, hleft₁⟩, _, _, ⟨⟩, hright₁⟩
  have hsize₁ : map₁.size = numSectors := hleft₁.size_eq.trans hsize
  have hcount₁ : numSectors ≤ left₁.count := hleft₁.sameOff.1 ▸ hleft
  have hcount₁' : numSectors ≤ right₁.count := hright₁.sameOff.1 ▸ hright
  refine ((FileHeader.yieldsBoth_allocate (hsize₁ ▸ hpow) (hsize₁ ▸ hcount₁) (hsize₁ ▸ hcount₁')
    _).and (yields_allocate_directory hmap hleft hrefusal hleft₁)
    (yields_allocate_directory hmap hright hrefusal hright₁)).run_bind ?_ ?_
  swap
  · rintro cause left₂ right₂ ⟨-, ⟨_, _, ⟨⟩, -⟩, -⟩
  rintro _ left₂ right₂ ⟨hsame₂, ⟨directoryFile, map₂, ⟨⟩, hleft₂⟩, _, _, ⟨⟩, hright₂⟩
  -- from here on the same blocks are written on both disks
  have halike := of_laidOut (intact_of_allocated hmap hleft hpow hleft₁ hleft₂)
    (intact_of_allocated hmap hright hpow hright₁ hright₂) fun s hs =>
      (List.mem_append.1 hs).elim
        (fun hs => (hsame₂ _ _ rfl).1 s ((hsame₁ _ _ rfl).2 s hs)) ((hsame₂ _ _ rfl).2 s)
  have hcount₂ : numSectors ≤ left₂.count := hleft₂.sameOff.1 ▸ hcount₁
  have hcount₂' : numSectors ≤ right₂.count := hright₂.sameOff.1 ▸ hcount₁'
  have hzero : freeMapSector.toNat < numSectors := Nat.lt_of_lt_of_le (by decide) h
  have hone : directorySector.toNat < numSectors := Nat.lt_of_lt_of_le (by decide) h
  refine (Transfer.yieldsBoth_store (hzero.trans_le hcount₂) (hzero.trans_le hcount₂')
    (p := fun _ left' right' => left' = _ ∧ right' = _) ⟨rfl, rfl⟩).run_lift_bind ?_
  rintro - _ _ ⟨rfl, rfl⟩
  refine (Transfer.yieldsBoth_store (by exact hone.trans_le hcount₂)
    (by exact hone.trans_le hcount₂') (p := fun _ left' right' => left' = _ ∧ right' = _)
    ⟨rfl, rfl⟩).run_lift_bind ?_
  rintro - _ _ ⟨rfl, rfl⟩
  refine halike.yieldsBoth_flush.run_lift_bind ?_
  rintro - left₅ right₅ halike₅
  exact Transfer.yieldsBoth_pure.2 ⟨_, rfl, halike₅⟩

end AlikeOn

end SectorStore.Volume
