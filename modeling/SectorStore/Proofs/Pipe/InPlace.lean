import SectorStore.Proofs.Pipe.Straying

/-!
# Pipes stay in their sectors

The file of a new pipe has all places of the ring, and a pipe writes at places of its ring only. So
its file never grows, whatever is read from the pipe and written to it: the file keeps its sectors,
and no sector is handed out (`invariant_inPlace`).
-/

namespace SectorStore

variable {volume volume' : Volume} {disk disk' : Disk} {lost : List SectorId}
  {i : Fin numEntries} {header header' : FileHeader} {offset written : Nat} {data : Bytes}

/-- A file that stays as long as it is keeps its sectors, and the free map stays as it is. -/
theorem Volume.Rewritten.sectorsOf_eq
    (h : volume.Rewritten disk i header offset data written header' volume' disk')
    (hheader : volume.header? disk i = some header) (hlength : header'.length = header.length)
    (lost : List SectorId) : volume'.freeMap = volume.freeMap ∧
      volume'.sectorsOf disk' lost (.entry i) = volume.sectorsOf disk lost (.entry i) := by
  obtain ⟨-, hmap⟩ := h.eq_of_length_eq hlength
  obtain ⟨fresh, htakes, hdata⟩ := h.exists_takes
  have hnone : fresh = [] := by
    rw [hmap] at htakes
    have hcount := htakes.numFree_add_length
    exact List.length_eq_zero_iff.1 (by omega)
  have hentry : volume'.directory = volume.directory := by rw [h.fields_eq]
  refine ⟨hmap, ?_⟩
  rw [sectorsOf, sectorsOf, metaSectors_entry h.header?_eq, metaSectors_entry hheader,
    dataSectors_entry h.header?_eq, dataSectors_entry hheader, hdata, hnone, List.append_nil,
    h.indexSectors_eq, hentry]

namespace Pipe

variable {pipe pipe' : Pipe}

/-- The pipe has moved on, and its file has the places of the ring in the sectors in which it had
them. -/
structure InPlace (pipe : Pipe) (volume : Volume) (disk : Disk) (lost : List SectorId)
    (i : Fin numEntries) (pipe' : Pipe) (volume' : Volume) (disk' : Disk) : Prop where
  /-- The pipe has moved on. -/
  continues : pipe.Continues pipe'
  /-- The file is where it was. -/
  onFile : pipe'.OnFile volume' disk' lost i
  /-- The file has all places of the ring. -/
  exists_contents? : ∃ bytes, volume'.contents? disk' i = some bytes ∧
    pipe.ringSize ≤ bytes.length
  /-- The directory does not change. -/
  directory_eq : volume'.directory = volume.directory
  /-- No sector is handed out or given back. -/
  freeMap_eq : volume'.freeMap = volume.freeMap
  /-- The file keeps its sectors. -/
  sectorsOf_eq : volume'.sectorsOf disk' lost (.entry i) = volume.sectorsOf disk lost (.entry i)

namespace InPlace

theorem refl (h : pipe.OnFile volume disk lost i) {bytes : Bytes}
    (hbytes : volume.contents? disk i = some bytes) (hlength : pipe.ringSize ≤ bytes.length) :
    pipe.InPlace volume disk lost i pipe volume disk :=
  ⟨.refl _, h, ⟨bytes, hbytes, hlength⟩, rfl, rfl, rfl⟩

/-- A write at places of the ring stays in the sectors of the file. -/
theorem yields_writeAt (h : pipe.InPlace volume disk lost i pipe' volume' disk')
    (hsum : offset + data.length < sumLimit) (hinside : offset + data.length ≤ pipe.ringSize) :
    (pipe'.file.writeAt volume' offset data).Yields disk' fun answer disk'' =>
      pipe.InPlace volume disk lost i pipe' answer.2 disk'' := by
  obtain ⟨bytes, hbytes, hlength⟩ := h.exists_contents?
  obtain ⟨header, hheader, rfl⟩ := Volume.Intact.header?_of_contents? hbytes
  refine (h.onFile.intact.yields_rewrite h.onFile.lists hheader hsum).mono ?_
  rintro ⟨written, volume''⟩ disk'' ⟨hwritten, header', hrewritten⟩
  rw [FileHeader.length_contents] at hlength
  have hreach : header'.length = header.length :=
    hrewritten.length_eq.trans (if_neg (by omega))
  obtain ⟨hmap, hsectors⟩ := hrewritten.sectorsOf_eq hheader hreach lost
  refine ⟨h.continues,
    ⟨hwritten.intact, hwritten.changesOnly.lists h.onFile.lists, h.onFile.inRing⟩,
    ⟨_, hwritten.contents?_eq, ?_⟩, hwritten.directory_eq.trans h.directory_eq,
    hmap.trans h.freeMap_eq, hsectors.trans h.sectorsOf_eq⟩
  rw [Bytes.length_overlay (FileHeader.le_reach _ _ _)]
  exact Nat.le_trans (FileHeader.length_contents header disk' ▸ hlength) (FileHeader.le_reach _ _ _)

/-- The file is as it was when the head or the tail moves on. -/
theorem move {pipe'' : Pipe} (h : pipe.InPlace volume disk lost i pipe' volume' disk')
    (hcontinues : pipe'.Continues pipe'') (hin : pipe''.InRing) :
    pipe.InPlace volume disk lost i pipe'' volume' disk' where
  continues := h.continues.trans hcontinues
  onFile := h.onFile.move hcontinues hin
  exists_contents? := h.exists_contents?
  directory_eq := h.directory_eq
  freeMap_eq := h.freeMap_eq
  sectorsOf_eq := h.sectorsOf_eq

end InPlace

/-- A pipe whose file has all places of the ring stays in the sectors of that file. -/
theorem invariant_inPlace (pipe : Pipe) (volume : Volume) (disk : Disk) (lost : List SectorId)
    (i : Fin numEntries) : Invariant (pipe.InPlace volume disk lost i) := by
  refine .of_file (fun h => h.onFile.inRing) ?_ ?_ ?_
  · intro pipe' pipe'' volume' disk' h hcontinues hin
    exact h.move hcontinues hin
  · intro pipe' volume' disk' offset count h hsum
    exact h.onFile.yields_readBytes hsum
  · intro pipe' volume' disk' offset data h hsum hinside
    exact h.yields_writeAt hsum (h.continues.ringSize_eq ▸ hinside)

end Pipe

end SectorStore
