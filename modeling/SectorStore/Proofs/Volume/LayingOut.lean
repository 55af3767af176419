import SectorStore.Proofs.Device.Blocks
import SectorStore.Proofs.Volume.Alike
import SectorStore.Proofs.Volume.Reading

/-!
# Laying out any disk

What comes of laying out a disk is settled by the number of sectors alone. `run_format_by_size`
tells it for every number and every device that has so many blocks, whatever is in them: there is
room for the tables from seven sectors on, as long as the free map is not larger than a file can be,
and then the volume and what is found when the device is taken up again are one and the same empty
volume. In any other case the device stays as it was.

The headers of the tables are marked before anything is allotted, so a disk of no sector or of one
is not refused: marking faults (`not_exists_run_format_one`).
-/

namespace SectorStore

namespace FileHeader

/-- Sectors that the header can list are taken from the map, and nothing is written for them. -/
theorem exists_allocate_eq_pure {header : FileHeader} {map : FreeMap} {size : Nat}
    (hsize : map.size ≤ 2 ^ 32) (hdirect : sectorsFor size ≤ numDirect)
    (hfree : sectorsFor size ≤ map.numFree) :
    ∃ header' map', header.allocate map size = pure (header', map') ∧ map'.size = map.size ∧
      map'.numFree + sectorsFor size = map.numFree := by
  obtain ⟨sectors, map', htake, htakes⟩ := FreeMap.exists_takeMany? hsize hfree
  have hmax : ¬ maxSectors < sectorsFor size :=
    Nat.not_lt.2 (hdirect.trans (Nat.le_add_right _ _))
  have hcount := htakes.numFree_add_length
  rw [Vector.length_toList] at hcount
  refine ⟨{ header with numBytes := .ofNat size, map := .direct sectors.toList }, map', ?_,
    htakes.size_eq, hcount⟩
  simp only [allocate, if_neg hmax, if_pos hdirect, htake]

end FileHeader

namespace Volume

variable {numSectors : Nat} {cause : Refusal}

/-- The tables have room from seven sectors on, up to the largest free map that a file can keep. -/
theorem formatRefusal?_eq (numSectors : Nat) :
    formatRefusal? numSectors =
      if maxFileSize < FreeMap.bytesFor numSectors then some .fileTooLarge
      else if numSectors < 7 then some .noSpace
      else none := by
  have hdirectory : totalSectorsFor Directory.byteSize = 4 := by decide
  have hsmall : numSectors < 2 + (totalSectorsFor (FreeMap.bytesFor numSectors) + 4) ↔
      numSectors < 7 := by
    rw [totalSectorsFor, sectorsFor, sectorSize_eq, FreeMap.bytesFor]
    have hnumDirect : numDirect = 8 := rfl
    split <;> omega
  simp only [formatRefusal?, hdirectory, maxSectors_lt_sectorsFor_iff, hsmall]

/-! ## Refused -/

/-- Where there is no room for the tables, nothing is written before that shows. -/
theorem format_eq_throw (h : 2 ≤ numSectors) (hrefusal : formatRefusal? numSectors = some cause) :
    format numSectors = throw cause := by
  obtain ⟨map, hmap, hformat⟩ := exists_format_eq h
  have hfree := numFree_of_takes_headers hmap
  rw [hformat]
  rw [formatRefusal?_eq] at hrefusal
  split_ifs at hrefusal with hlarge hsmall
  · cases hrefusal
    rw [FileHeader.allocate_eq_fileTooLarge (maxSectors_lt_sectorsFor_iff.2 hlarge)]
    rfl
  cases hrefusal
  -- a disk so small has a free map of one byte, and then too little is left for the directory
  have hbytes : FreeMap.bytesFor numSectors = 1 := by
    rw [FreeMap.bytesFor]
    omega
  have hpow : map.size ≤ 2 ^ 32 := by
    rw [hmap.size_eq, FreeMap.size_free]
    omega
  rw [hbytes]
  -- with two sectors there is not even the one that the free map needs
  by_cases hnone : map.numFree = 0
  · rw [FileHeader.allocate_eq_noSpace hpow (by decide) (by rw [hnone]; decide)]
    rfl
  · obtain ⟨freeMapFile, map₁, hallocate, hsize₁, hfree₁⟩ :=
      @FileHeader.exists_allocate_eq_pure .empty map 1 hpow (by decide) (Nat.pos_of_ne_zero hnone)
    have hone : sectorsFor 1 = 1 := rfl
    have hdirectory : totalSectorsFor Directory.byteSize = 4 := by decide
    rw [hallocate, pure_bind]
    dsimp only
    rw [FileHeader.allocate_eq_noSpace (hsize₁ ▸ hpow) (by decide) (by omega)]
    rfl

theorem run_format_of_refused {δ : Type} [BlockDevice δ] (h : 2 ≤ numSectors)
    (hrefusal : formatRefusal? numSectors = some cause) (device : δ) :
    (format numSectors).run.run device = (.ok (.error cause), device) := by
  rw [format_eq_throw h hrefusal]
  rfl

/-! ## Laid out -/

theorem grants_format_clock (h : 2 ≤ numSectors) :
    Transfer.Grants (fun volume => volume.clock = .silent) (format numSectors) := by
  obtain ⟨map, -, hformat⟩ := exists_format_eq h
  rw [hformat]
  refine Transfer.grants_bind fun _ => Transfer.grants_bind fun _ => ?_
  refine Transfer.grants_bind fun _ => Transfer.grants_bind fun _ => ?_
  exact Transfer.grants_bind fun _ => Transfer.grants_pure rfl

/-- A disk that was just laid out is taken up as the volume that was laid out. -/
theorem Formatted.run_mount {δ : Type} [BlockDevice δ] [LawfulBlockDevice δ] {device : δ}
    {volume : Volume} (h : Formatted numSectors volume (Disk.image device numSectors))
    (hblocks : HasBlocks device numSectors) :
    (mount numSectors).run device = (.ok (volume.withClock .silent), device) := by
  have hmount : (mount volume.freeMap.size).Yields (Disk.image device numSectors)
      fun mounted _ => mounted = volume.withClock .silent :=
    (h.intact.yields_mount h.flushed (by rw [h.freeMapFile_length, h.size_eq])).2 rfl
  rw [h.size_eq] at hmount
  exact (onlyReads_mount numSectors).run_eq hblocks hmount

/-- With room for the tables there is one volume that every device of so many blocks is laid out as,
and as which it is taken up again. -/
theorem exists_run_format (h : 2 ≤ numSectors) (hrefusal : formatRefusal? numSectors = none) :
    ∃ volume, volume.directory = .empty ∧
      volume.numFree + (2 + (totalSectorsFor (FreeMap.bytesFor numSectors) +
        totalSectorsFor Directory.byteSize)) = numSectors ∧
      ∀ (δ : Type) [BlockDevice δ] [LawfulBlockDevice δ] (device : δ),
        HasBlocks device numSectors →
          ∃ device', (format numSectors).run.run device = (.ok (.ok volume), device') ∧
            (mount numSectors).run device' = (.ok volume, device') := by
  -- the volume is the one that a blank disk is laid out as
  let blank : Disk := ⟨numSectors, fun _ => Sector.zero⟩
  have hblank := @yields_format blank numSectors (Nat.le_refl _) h
  rw [hrefusal] at hblank
  obtain ⟨_, blank', hrunBlank, volume, rfl, hformatted⟩ := hblank
  have hclock : volume.clock = .silent :=
    (grants_format_clock h).of_run hrunBlank volume rfl
  refine ⟨volume, hformatted.directory_eq, hformatted.numFree_eq, ?_⟩
  intro δ _ _ device hblocks
  -- laying out two disks gives one answer
  have hsame : (format numSectors).run.Yields (Disk.image device numSectors)
      fun answer _ => answer = .ok volume := by
    obtain ⟨answer, left', right', hleft, hright, -⟩ :=
      @AlikeOn.yieldsBoth_format blank (Disk.image device numSectors) numSectors (Nat.le_refl _)
        (Nat.le_refl _) h
    rw [hrunBlank, Prod.mk.injEq, Except.ok.injEq] at hleft
    exact ⟨answer, right', hright, hleft.1.symm⟩
  have hlaid := @yields_format (Disk.image device numSectors) numSectors (Nat.le_refl _) h
  rw [hrefusal] at hlaid
  obtain ⟨_, device', hrun, hblocks', rfl, volume', hvolume, hformatted'⟩ :=
    (hsame.and hlaid).exists_run hblocks
  obtain rfl := Except.ok.inj hvolume
  refine ⟨device', hrun, ?_⟩
  rw [hformatted'.run_mount hblocks', withClock, ← hclock]

/-- Laying out a disk has one of four outcomes, by the number of sectors. With none or one, the mark
of the header that is missing faults. With fewer than seven there is no space, and with so many that
their marks do not fit in a file, the free map is too large; in all three cases nothing is written.
Otherwise there is one empty volume that every device comes out as, whatever was on it, and that is
found there when the device is taken up. -/
theorem run_format_by_size (numSectors : Nat) :
    (numSectors < 2 → ∀ (δ : Type) [BlockDevice δ] (device : δ),
      (format numSectors).run.run device = (.error (.outOfBitmapRange numSectors), device)) ∧
    (2 ≤ numSectors → numSectors < 7 → ∀ (δ : Type) [BlockDevice δ] (device : δ),
      (format numSectors).run.run device = (.ok (.error .noSpace), device)) ∧
    (maxFileSize < FreeMap.bytesFor numSectors → ∀ (δ : Type) [BlockDevice δ] (device : δ),
      (format numSectors).run.run device = (.ok (.error .fileTooLarge), device)) ∧
    (7 ≤ numSectors → FreeMap.bytesFor numSectors ≤ maxFileSize →
      ∃ volume, volume.directory = .empty ∧ volume.names = [] ∧
        6 + totalSectorsFor (FreeMap.bytesFor numSectors) ≤ numSectors ∧
        volume.numFree = numSectors - 6 - totalSectorsFor (FreeMap.bytesFor numSectors) ∧
        ∀ (δ : Type) [BlockDevice δ] [LawfulBlockDevice δ] (device : δ),
          HasBlocks device numSectors →
            ∃ device', (format numSectors).run.run device = (.ok (.ok volume), device') ∧
              (mount numSectors).run device' = (.ok volume, device')) := by
  refine ⟨?none_or_one, ?small, ?large, ?room⟩
  case none_or_one =>
    intro hlt δ _ device
    exact run_format_of_lt device hlt
  case small =>
    intro hle hlt δ _ device
    have hfits : ¬ maxFileSize < FreeMap.bytesFor numSectors := by
      rw [FreeMap.bytesFor, maxFileSize_eq]
      omega
    have hrefusal : formatRefusal? numSectors = some .noSpace := by
      rw [formatRefusal?_eq, if_neg hfits, if_pos hlt]
    exact run_format_of_refused hle hrefusal device
  case large =>
    intro hlt δ _ device
    have hle : 2 ≤ numSectors := by
      rw [FreeMap.bytesFor, maxFileSize_eq] at hlt
      omega
    have hrefusal : formatRefusal? numSectors = some .fileTooLarge := by
      rw [formatRefusal?_eq, if_pos hlt]
    exact run_format_of_refused hle hrefusal device
  case room =>
    intro hle hfits
    have hrefusal : formatRefusal? numSectors = none := by
      rw [formatRefusal?_eq, if_neg (Nat.not_lt.2 hfits), if_neg (Nat.not_lt.2 hle)]
    obtain ⟨volume, hempty, hfree, hrun⟩ :=
      exists_run_format (Nat.le_trans (by decide) hle) hrefusal
    -- besides the free map, the two headers and the four sectors of the directory are taken
    have hdirectory : totalSectorsFor Directory.byteSize = 4 := by decide
    rw [hdirectory] at hfree
    refine ⟨volume, hempty, ?_, by omega, by omega, hrun⟩
    rw [names, hempty]
    decide +kernel

/-- A memory disk of nine blocks is laid out with two free sectors, and refused for six sectors. -/
theorem run_format_nine :
    (∃ volume device', volume.numFree = 2 ∧
      (format 9).run.run (RamDisk.zeroed 9 sectorSize) = (.ok (.ok volume), device') ∧
      (mount 9).run device' = (.ok volume, device')) ∧
    (format 6).run.run (RamDisk.zeroed 9 sectorSize) =
      (.ok (.error .noSpace), RamDisk.zeroed 9 sectorSize) := by
  have hblocks : HasBlocks (RamDisk.zeroed 9 sectorSize) 9 := RamDisk.hasBlocks _
  have htotal : totalSectorsFor (FreeMap.bytesFor 9) = 1 := by decide
  obtain ⟨-, -, -, hroom⟩ := run_format_by_size 9
  obtain ⟨volume, -, -, -, hfree, hrun⟩ := hroom (by decide) (by decide)
  obtain ⟨device', hformat, hmount⟩ := hrun _ _ hblocks
  refine ⟨⟨volume, device', ?_, hformat, hmount⟩, ?_⟩
  · rw [hfree, htotal]
  · exact (run_format_by_size 6).2.1 (by decide) (by decide) _ _

/-- A disk of one sector is neither laid out nor refused. -/
theorem not_exists_run_format_one :
    HasBlocks (RamDisk.zeroed 20 sectorSize) 1 ∧
      ¬ ∃ answer device', (format 1).run.run (RamDisk.zeroed 20 sectorSize) =
        (.ok answer, device') := by
  have hblocks : HasBlocks (RamDisk.zeroed 20 sectorSize) 20 := RamDisk.hasBlocks _
  refine ⟨fun block hblock => hblocks block (by omega), ?_⟩
  rintro ⟨answer, device', hrun⟩
  rw [run_format_of_lt _ (by decide)] at hrun
  cases hrun

end Volume

end SectorStore
