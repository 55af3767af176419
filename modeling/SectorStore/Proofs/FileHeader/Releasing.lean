import SectorStore.Proofs.FileHeader.Allocation
import SectorStore.Proofs.FreeMap.Releasing
import SectorStore.Proofs.Transfer.Always

/-!
# What giving back the sectors of a file finds out

Giving back the sectors of a header walks through three lists: the sectors in the header itself,
those in the index sector as many as the length asks for, and the index sector. It comes to the same
as giving back all of them from one list (`IsConsistent.run_release`), so that
`IsConsistent.release_detects` can tell the outcome for every header that is consistent, whatever
numbers are in it and in its index sector.
-/

namespace SectorStore

namespace Transfer

/-- A step that needs no disk leaves any device as it was. -/
theorem run_liftM {α δ : Type} [BlockDevice δ] (x : Except Fault α) (device : δ) :
    (liftM x : Transfer α).run device = (x, device) := by
  cases x <;> rfl

end Transfer

namespace FileHeader

variable {δ : Type} [BlockDevice δ] {device : δ} {count : Nat} {header : FileHeader}

/-- The header without bytes and sectors. -/
def vacated (header : FileHeader) : FileHeader :=
  { header with numBytes := 0, map := .direct [] }

/-- A header of no bytes that lists no sectors is consistent. -/
theorem isConsistent_of_nil (hlength : header.numBytes = 0) (hmap : header.map = .direct []) :
    header.IsConsistent := by
  rw [IsConsistent, sectorCount, length, hlength, hmap]
  decide

/-- A header that lists no sectors has none. -/
theorem allSectors_eq_nil (h : header.map = .direct []) (disk : Disk) :
    header.allSectors disk = [] := by
  rw [allSectors, dataSectors, indexSectors, h]
  rfl

/-- A header that gave back its sectors is without bytes and sectors. -/
theorem always_release (header : FileHeader) (map : FreeMap) :
    (header.release map).Always fun answer => answer.1 = header.vacated := by
  rw [release]
  refine Transfer.always_bind fun map₁ => ?_
  cases header.map with
  | direct sectors => exact Transfer.always_pure rfl
  | indirect sectors index =>
    refine Transfer.always_bind fun table => Transfer.always_bind fun count => ?_
    refine Transfer.always_bind fun others => Transfer.always_bind fun map₂ => ?_
    exact Transfer.always_bind fun map₃ => Transfer.always_pure rfl

/-- Giving back the sectors of a consistent header is giving back a list of sectors. -/
theorem IsConsistent.run_release (h : header.IsConsistent) (hblocks : HasBlocks device count)
    (hindex : ∀ s ∈ header.indexSectors, s.toNat < count) (map : FreeMap) :
    (header.release map).run device =
      ((map.releaseAll (header.allSectors (Disk.image device count))).map (header.vacated, ·),
        device) := by
  rw [release, allSectors, dataSectors, indexSectors]
  cases hmap : header.map with
  | direct sectors =>
    simp only [SectorMap.listed, List.append_nil, Transfer.run_bind, Transfer.run_liftM]
    rcases map.releaseAll sectors with cause | map₁
    · rfl
    · rfl
  | indirect sectors index =>
    have hread := read_image hblocks (hindex index (by simp [indexSectors, hmap]))
    have hload : (Transfer.load index).run device =
        (.ok ((Disk.image device count).get index), device) := by
      rw [Transfer.load, Transfer.run, hread]
      rfl
    simp only [SectorMap.listed, Transfer.run_bind, Transfer.run_liftM,
      FreeMap.releaseAll_append, FreeMap.releaseAll_singleton]
    -- each of the three lists may be the one that holds the first wrong sector
    rcases map.releaseAll sectors.toList with cause | map₁
    · rfl
    simp only [hload, h.indirectCount_eq hmap, h.front_ofSector]
    show _ = (Except.map _ (map₁.releaseAll _ >>= fun map₂ => map₂.release index), device)
    rcases map₁.releaseAll ((SectorTable.ofSector ((Disk.image device count).get index)).take
      (header.sectorCount - numDirect)) with cause | map₂
    · rfl
    dsimp only [bind, Except.bind]
    rcases map₂.release index with cause | map₃
    · rfl
    · rfl

/-- A header without bytes and sectors has nothing to give back. -/
theorem run_release_vacated (header : FileHeader) (map : FreeMap) (device : δ) :
    (header.vacated.release map).run device = (.ok (header.vacated, map), device) :=
  rfl

/-- Let the list of a consistent header be the sectors in the header, those in its index sector as
many as the length asks for, and the index sector. Giving back runs through exactly if the list is
of different taken sectors of the map. Then just these become free, nothing is written, and the
header is left without bytes and sectors, so that giving back once more changes nothing. Otherwise
the fault is that of the first sector in the list that is beyond the map, is free, or was there
before. -/
theorem IsConsistent.release_detects (h : header.IsConsistent) (hblocks : HasBlocks device count)
    (hindex : ∀ s ∈ header.indexSectors, s.toNat < count) (map : FreeMap) :
    ((∃ answer device', (header.release map).run device = (.ok answer, device')) ↔
      (∀ s ∈ header.allSectors (Disk.image device count), s.toNat < map.size ∧ s.toNat ∈ map) ∧
        (header.allSectors (Disk.image device count)).Nodup) ∧
    (∀ header' map' device', (header.release map).run device = (.ok (header', map'), device') →
      map.GivesBack (header.allSectors (Disk.image device count)) map' ∧ device' = device ∧
        header' = { header with numBytes := 0, map := .direct [] } ∧
        (header'.release map').run device' = (.ok (header', map'), device')) ∧
    ∀ cause device', (header.release map).run device = (.error cause, device') ↔
      device' = device ∧ ∃ earlier s later,
        header.allSectors (Disk.image device count) = earlier ++ s :: later ∧
        map.CanRelease earlier ∧ map.Rejects earlier s cause ∧
        cause.message? = some (if s.toNat < map.size then
          s!"sector {s.toNat} is not marked as allocated"
          else s!"sector {s.toNat} out of bitmap range") := by
  have hrun := h.run_release hblocks hindex map
  generalize header.allSectors (Disk.image device count) = sectors at hrun ⊢
  -- from here on only the list matters, in the order in which its sectors are given back
  have hcan : map.CanRelease sectors ↔
      (∀ s ∈ sectors, s.toNat < map.size ∧ s.toNat ∈ map) ∧ sectors.Nodup :=
    ⟨fun hall => ⟨fun s hs => ⟨FreeMap.lt_size_of_mem (hall.mem s hs), hall.mem s hs⟩, hall.nodup⟩,
      fun hall => ⟨hall.2, fun s hs => (hall.1 s hs).2⟩⟩
  have hstops : ∀ cause, map.StopsAt sectors cause ↔ ∃ earlier s later,
      sectors = earlier ++ s :: later ∧ map.CanRelease earlier ∧ map.Rejects earlier s cause ∧
        cause.message? = some (if s.toNat < map.size then
          s!"sector {s.toNat} is not marked as allocated"
          else s!"sector {s.toNat} out of bitmap range") := by
    intro cause
    constructor
    · rintro ⟨earlier, s, later, hsplit, hearlier, hrejects⟩
      exact ⟨earlier, s, later, hsplit, hearlier, hrejects, hrejects.message?_eq⟩
    · rintro ⟨earlier, s, later, hsplit, hearlier, hrejects, -⟩
      exact ⟨earlier, s, later, hsplit, hearlier, hrejects⟩
  rw [← hcan, hrun]
  rcases hall : map.releaseAll sectors with cause₁ | map₁
  · -- some sector cannot be given back
    have hstops₁ := FreeMap.releaseAll_eq_error_iff.1 hall
    refine ⟨⟨?_, fun hcan₁ => ?_⟩, ?_, fun cause device' => ?_⟩
    · rintro ⟨answer, device', ⟨⟩⟩
    · obtain ⟨map₁, hok, -⟩ := hcan₁.exists_releaseAll
      rw [hall] at hok
      cases hok
    · rintro header' map' device' ⟨⟩
    · rw [← hstops, ← FreeMap.releaseAll_eq_error_iff, hall]
      simp [Except.map, eq_comm, and_comm]
  · -- all are given back, so there is none to stop at
    obtain ⟨hcan₁, hback⟩ := FreeMap.releaseAll_eq_ok_iff.1 hall
    refine ⟨⟨fun _ => hcan₁, fun _ => ⟨_, _, rfl⟩⟩, ?_, fun cause device' => ?_⟩
    · rintro header' map' device' ⟨⟩
      exact ⟨hback, rfl, rfl, header.run_release_vacated map₁ device⟩
    · rw [← hstops, ← FreeMap.releaseAll_eq_error_iff, hall]
      simp [Except.map]

/-- A file of nine sectors on a fresh memory disk, whose index sector lists sector 0. All its ten
sectors can be given back if they are taken, and if the last but one is free, that one is named. -/
theorem IsConsistent.release_detects_of_indirect :
    ∃ header : FileHeader, header.map = .indirect #v[10, 9, 8, 7, 6, 5, 4, 3] 11 ∧
      header.length = 1100 ∧ header.IsConsistent ∧
      HasBlocks (RamDisk.zeroed 12 sectorSize) 12 ∧
      (∀ s ∈ header.indexSectors, s.toNat < 12) ∧
      (∃ answer device', (header.release (.ofBytes 12 [0xff, 0x0f])).run
        (RamDisk.zeroed 12 sectorSize) = (.ok answer, device')) ∧
      (header.release (.ofBytes 12 [0xfe, 0x0f])).run (RamDisk.zeroed 12 sectorSize) =
        (.error (.notAllocated 0), RamDisk.zeroed 12 sectorSize) := by
  let header : FileHeader :=
    { empty with numBytes := 1100, map := .indirect #v[10, 9, 8, 7, 6, 5, 4, 3] 11 }
  have hcons : header.IsConsistent := by decide
  have hblocks : HasBlocks (RamDisk.zeroed 12 sectorSize) 12 := RamDisk.hasBlocks _
  have hindex : ∀ s ∈ header.indexSectors, s.toNat < 12 := by simp [indexSectors, header]
  have hsectors : header.allSectors (Disk.image (RamDisk.zeroed 12 sectorSize) 12) =
      [10, 9, 8, 7, 6, 5, 4, 3] ++ 0 :: [11] := by decide +kernel
  have hfull : ([10, 9, 8, 7, 6, 5, 4, 3] ++ 0 :: [11] : List SectorId).all fun s =>
      s.toNat < 12 ∧ s.toNat ∈ FreeMap.ofBytes 12 [0xff, 0x0f] := by decide +kernel
  have hfront : ([10, 9, 8, 7, 6, 5, 4, 3] : List SectorId).all fun s =>
      s.toNat ∈ FreeMap.ofBytes 12 [0xfe, 0x0f] := by decide +kernel
  refine ⟨header, rfl, rfl, hcons, hblocks, hindex, ?_, ?_⟩
  · refine (hcons.release_detects hblocks hindex _).1.2 ?_
    rw [hsectors]
    exact ⟨fun s hs => of_decide_eq_true (List.all_eq_true.1 hfull s hs), by decide⟩
  · refine ((hcons.release_detects hblocks hindex _).2.2 _ _).2 ⟨rfl, _, _, _, hsectors, ?_, ?_, ?_⟩
    · exact ⟨by decide, fun s hs => of_decide_eq_true (List.all_eq_true.1 hfront s hs)⟩
    · exact .free (by decide) (by decide +kernel)
    · decide +kernel

end FileHeader

end SectorStore
