import SectorStore.FileHeader.Listing
import SectorStore.Proofs.FileHeader.Releasing
import SectorStore.Proofs.FileHeader.RoundTrip
import SectorStore.Proofs.Transfer.InBounds

/-!
# What may be done with a header that was read

A header can be read from every sector that does not claim too many data sectors. The length in the
sector is not looked at, so the header may have less sectors than its length asks for, and then some
operations on it leave a table or count below zero. A header is `IsUsable` if none does, which holds
exactly if its map `Covers` its length (`isUsable_iff_covers`). All consistent headers are usable.

`load_usable_iff` tells for the contents of every sector whether a header is read, and whether it is
consistent or at least usable.
-/

namespace SectorStore

/-- What keeps sectors from being given back is no stray fault. -/
theorem FreeMap.not_isStray_of_releaseAll {map : FreeMap} {sectors : List SectorId} {cause : Fault}
    (h : map.releaseAll sectors = .error cause) : ¬ cause.IsStray := by
  obtain ⟨earlier, s, later, -, -, hrejects⟩ := releaseAll_eq_error_iff.1 h
  cases hrejects with
  | beyond hsize => simp [Fault.IsStray]
  | free hsize hfree => simp [Fault.IsStray]
  | repeated hsize hearlier => simp [Fault.IsStray]

namespace SectorTable

/-- A look-up within the table does not leave it. -/
theorem not_isStray_entry {table : SectorTable} {slot : Nat} (h : slot < table.length) :
    ∀ cause, table.entry slot = .error cause → ¬ cause.IsStray := by
  intro cause hfault
  rw [FileHeader.entry_eq_ok h] at hfault
  cases hfault

/-- As many numbers as a table has can be taken of it. -/
theorem not_isStray_front {table : SectorTable} {count : Nat} (h : count ≤ table.length) :
    ∀ cause, table.front count = .error cause → ¬ cause.IsStray := by
  intro cause hfault
  rw [front, if_pos h] at hfault
  cases hfault

end SectorTable

namespace FileHeader

variable {header : FileHeader} {old : Sector}

/-! ## Usable headers -/

/-- Whatever is on the disk, the operations on the header neither leave a table nor count below
zero. -/
structure IsUsable (header : FileHeader) : Prop where
  /-- Each byte of the file can be looked up. -/
  sectorAt : ∀ offset < header.length, (header.sectorAt offset).StaysInBounds
  /-- The sectors can be named. -/
  sectors : header.sectors.StaysInBounds
  /-- The file can be listed. -/
  listing : header.listing.StaysInBounds
  /-- The header can be written back. -/
  store : ∀ sector, (header.store sector).StaysInBounds
  /-- The sectors can be given back, unless the map keeps them from it. -/
  release : ∀ map, (header.release map).StaysInBounds

/-- The header has a sector for each block of the file. In a header with an index sector the blocks
are at least those that it lists itself. -/
def Covers (header : FileHeader) : Prop :=
  match header.map with
  | .direct sectors => header.sectorCount ≤ sectors.length
  | .indirect _ _ => numDirect ≤ header.sectorCount ∧ header.sectorCount ≤ maxSectors

/-- A consistent header has slots for all its bytes. -/
theorem IsConsistent.covers (h : header.IsConsistent) : header.Covers := by
  rw [IsConsistent] at h
  rw [Covers]
  cases hmap : header.map with
  | direct sectors =>
    simp only [hmap] at h ⊢
    exact Nat.le_of_eq h.1.symm
  | indirect sectors index =>
    simp only [hmap] at h ⊢
    exact ⟨Nat.le_of_lt h.1, h.2⟩

/-- The look-up of an offset below the length stays within the tables. -/
theorem Covers.staysInBounds_sectorAt (h : header.Covers) {offset : Nat}
    (hoffset : offset < header.length) : (header.sectorAt offset).StaysInBounds := by
  have hblock := div_lt_sectorCount hoffset
  rw [Covers] at h
  rw [sectorAt, if_neg (Nat.not_le.2 hoffset)]
  cases hmap : header.map with
  | direct sectors =>
    simp only [hmap] at h ⊢
    exact Transfer.staysInBounds_liftM
      (SectorTable.not_isStray_entry (Nat.lt_of_lt_of_le hblock h))
  | indirect sectors index =>
    simp only [hmap] at h ⊢
    split
    · exact Transfer.staysInBounds_pure _
    · refine (Transfer.staysInBounds_load index).bind fun sector => ?_
      apply Transfer.staysInBounds_liftM
      apply SectorTable.not_isStray_entry
      rw [SectorTable.length_ofSector, indexCapacity_eq]
      rw [numDirect_eq, maxSectors_eq] at *
      omega

/-- The index sector lists as many numbers as the length asks for. -/
theorem Covers.staysInBounds_front (h : header.Covers) {sectors : Vector SectorId numDirect}
    {index : SectorId} (hmap : header.map = .indirect sectors index) (sector : Sector) :
    ∀ cause, (SectorTable.ofSector sector).front (header.sectorCount - numDirect) = .error cause →
      ¬ cause.IsStray := by
  apply SectorTable.not_isStray_front
  simp only [Covers, hmap] at h
  rw [SectorTable.length_ofSector, indexCapacity_eq]
  rw [numDirect_eq, maxSectors_eq] at *
  omega

/-- The sectors in the index can be counted. -/
theorem Covers.indirectCount_eq (h : header.Covers) {sectors : Vector SectorId numDirect}
    {index : SectorId} (hmap : header.map = .indirect sectors index) :
    header.indirectCount = .ok (header.sectorCount - numDirect) := by
  simp only [Covers, hmap] at h
  exact if_neg (Nat.not_lt.2 h.1)

/-- The list of sectors stays within the tables. -/
theorem Covers.staysInBounds_sectors (h : header.Covers) : header.sectors.StaysInBounds := by
  rw [sectors]
  cases hmap : header.map with
  | direct sectors => exact Transfer.staysInBounds_pure _
  | indirect sectors index =>
    simp only [h.indirectCount_eq hmap, Transfer.liftM_ok, pure_bind]
    refine (Transfer.staysInBounds_load index).bind fun sector => ?_
    refine (Transfer.staysInBounds_liftM (h.staysInBounds_front hmap sector)).bind fun others => ?_
    exact Transfer.staysInBounds_pure _

theorem staysInBounds_contentLines (sectors : List SectorId) (remaining : Nat) :
    (contentLines sectors remaining).StaysInBounds := by
  induction sectors generalizing remaining with
  | nil => exact Transfer.staysInBounds_pure _
  | cons id others ih =>
    refine (Transfer.staysInBounds_load id).bind fun sector => ?_
    exact (ih _).bind fun rest => Transfer.staysInBounds_pure _

/-- Giving back the sectors stays within the tables. -/
theorem Covers.staysInBounds_release (h : header.Covers) (map : FreeMap) :
    (header.release map).StaysInBounds := by
  have hback : ∀ (map : FreeMap) sectors,
      (liftM (map.releaseAll sectors) : Transfer FreeMap).StaysInBounds := fun map sectors =>
    Transfer.staysInBounds_liftM fun _ => FreeMap.not_isStray_of_releaseAll
  rw [release]
  refine (hback map _).bind fun map₁ => ?_
  cases hmap : header.map with
  | direct sectors => exact Transfer.staysInBounds_pure _
  | indirect sectors index =>
    refine (Transfer.staysInBounds_load index).bind fun sector => ?_
    simp only [h.indirectCount_eq hmap, Transfer.liftM_ok, pure_bind]
    refine (Transfer.staysInBounds_liftM (h.staysInBounds_front hmap sector)).bind fun others => ?_
    refine (hback map₁ others).bind fun map₂ => ?_
    rw [← FreeMap.releaseAll_singleton]
    exact (hback map₂ [index]).bind fun map₃ => Transfer.staysInBounds_pure _

/-- A header that has slots for all its bytes can be used for anything. -/
theorem Covers.isUsable (h : header.Covers) : header.IsUsable where
  sectorAt _ hoffset := h.staysInBounds_sectorAt hoffset
  sectors := h.staysInBounds_sectors
  listing := h.staysInBounds_sectors.bind fun sectors =>
    (staysInBounds_contentLines sectors _).bind fun _ => Transfer.staysInBounds_pure _
  store _ := Transfer.staysInBounds_store _ _
  release map := h.staysInBounds_release map

/-- A header is usable exactly if it has sectors enough. -/
theorem isUsable_iff_covers : header.IsUsable ↔ header.Covers := by
  refine ⟨fun h => ?_, Covers.isUsable⟩
  rw [Covers]
  cases hmap : header.map with
  | direct sectors =>
    -- the first byte that has no sector would be looked up behind the end of the list
    by_contra hfew
    have hfew : sectors.length < header.sectorCount := Nat.lt_of_not_le hfew
    have hoffset : sectors.length * sectorSize < header.length := lt_sectorsFor_iff.1 hfew
    have hblock : sectors.length * sectorSize / sectorSize = sectors.length :=
      Nat.mul_div_cancel _ sectorSize_pos
    have hbounds := h.sectorAt _ hoffset
    simp only [sectorAt, if_neg (Nat.not_le.2 hoffset), hmap, hblock, SectorTable.entry,
      List.getElem?_eq_none (Nat.le_refl sectors.length)] at hbounds
    exact hbounds (.inl rfl)
  | indirect sectors index =>
    have hbounds := h.sectors
    simp only [FileHeader.sectors, hmap, indirectCount] at hbounds
    by_cases hbelow : header.sectorCount < numDirect
    · rw [if_pos hbelow] at hbounds
      exact absurd (.inr rfl) hbounds
    refine ⟨Nat.le_of_not_lt hbelow, ?_⟩
    by_contra hmany
    rw [if_neg hbelow] at hbounds
    have hfault : (SectorTable.ofSector Sector.zero).front (header.sectorCount - numDirect) =
        .error .indexOutOfBounds := by
      apply if_neg
      rw [SectorTable.length_ofSector, indexCapacity_eq]
      rw [numDirect_eq, maxSectors_eq] at *
      omega
    -- whatever the index sector holds, it has too few numbers
    have hzero := hbounds Sector.zero
    simp only [Transfer.bind, hfault] at hzero
    exact absurd (.inl rfl) hzero

/-! ## Headers that are read -/

theorem length_take_storedSlots (h : storedCount old ≤ numDirect) :
    ((storedSlots old).take (storedCount old)).length = storedCount old := by
  rw [List.length_take, length_storedSlots]
  exact Nat.min_eq_left (Nat.le_trans h (by decide))

/-- A header that is read is consistent if the number of data sectors that goes with it is the one
that its length asks for, or if both are too large for a header to list and the length is not too
large for a file. -/
theorem Decoded.isConsistent_iff (h : Decoded old header) :
    header.IsConsistent ↔
      if storedCount old ≤ numDirect then sectorsFor (storedLength old) = storedCount old
      else numDirect < sectorsFor (storedLength old) ∧
        sectorsFor (storedLength old) ≤ maxSectors := by
  rw [IsConsistent, sectorCount, h.length_eq]
  rcases Nat.lt_or_ge numDirect (storedCount old) with hcount | hcount
  · rw [if_neg (Nat.not_le.2 hcount), h.map_indirect hcount]
  · rw [if_pos hcount, h.map_direct hcount]
    simp only [length_take_storedSlots hcount]
    omega

/-- A header that is read is usable if the data sectors that it lists are as many as its length asks
for or more, or if it has an index sector and the blocks of the file are no less than it lists and
no more than a file can have. -/
theorem Decoded.isUsable_iff (h : Decoded old header) :
    header.IsUsable ↔
      if storedCount old ≤ numDirect then sectorsFor (storedLength old) ≤ storedCount old
      else numDirect ≤ sectorsFor (storedLength old) ∧
        sectorsFor (storedLength old) ≤ maxSectors := by
  rw [isUsable_iff_covers, Covers, sectorCount, h.length_eq]
  rcases Nat.lt_or_ge numDirect (storedCount old) with hcount | hcount
  · rw [if_neg (Nat.not_le.2 hcount), h.map_indirect hcount]
  · rw [if_pos hcount, h.map_direct hcount]
    simp only [length_take_storedSlots hcount]

section Device

variable {δ : Type} [BlockDevice δ] {device : δ} {s : SectorId}

/-- Reading a header from a sector faults exactly if the sector claims more data sectors than a file
can have. Otherwise there is a header, and the two numbers in the sector, that of the data sectors
and the length, tell whether it is consistent, and whether it is at least usable. A consistent one
is always usable. -/
theorem load_usable_iff (hread : BlockDevice.read device s.toNat = .ok old) :
    (maxSectors < storedCount old → ∃ cause, (load s).run device = (.error cause, device) ∧
      cause.message? = some s!"corrupted file header in sector {s.toNat}") ∧
    (storedCount old ≤ maxSectors → ∃ header, (load s).run device = (.ok header, device) ∧
      header.length = storedLength old ∧
      (header.IsConsistent ↔
        if storedCount old ≤ numDirect then sectorsFor (storedLength old) = storedCount old
        else numDirect < sectorsFor (storedLength old) ∧
          sectorsFor (storedLength old) ≤ maxSectors) ∧
      (header.IsUsable ↔
        if storedCount old ≤ numDirect then sectorsFor (storedLength old) ≤ storedCount old
        else numDirect ≤ sectorsFor (storedLength old) ∧
          sectorsFor (storedLength old) ≤ maxSectors) ∧
      (header.IsConsistent → header.IsUsable)) := by
  rw [run_load hread]
  rcases hdecode : decode? old with _ | header
  · have hmany := decode?_eq_none_iff.1 hdecode
    exact ⟨fun _ => ⟨_, rfl, rfl⟩, fun hmax => absurd hmany (Nat.not_lt.2 hmax)⟩
  · have hdecoded := decoded_of_decode? hdecode
    refine ⟨fun hmany => absurd hmany (Nat.not_lt.2 hdecoded.count_le), fun _ => ?_⟩
    exact ⟨header, rfl, hdecoded.length_eq, hdecoded.isConsistent_iff, hdecoded.isUsable_iff,
      fun hcons => hcons.covers.isUsable⟩

/-- A sector says that a file of 1200 bytes has nine sectors. The header that is read from it has an
index sector and is consistent, and no look-up of a byte on a memory disk leaves a table. -/
theorem load_usable_iff_of_nine :
    ∃ (device : RamDisk sectorSize) (old : Sector), BlockDevice.read device 2 = .ok old ∧
      storedLength old = 1200 ∧ storedCount old = 9 ∧
      ∃ header, (load 2).run device = (.ok header, device) ∧ header.IsConsistent ∧
        ∀ offset < 1200, ∀ (disk disk' : RamDisk sectorSize) cause,
          (header.sectorAt offset).run disk = (.error cause, disk') → ¬ cause.IsStray := by
  let old : Sector := Bytes.fit sectorSize [0xb0, 4, 0, 0, 9]
  obtain ⟨zero, hzero⟩ := RamDisk.hasBlocks (RamDisk.zeroed 4 sectorSize) 2 (by decide)
  obtain ⟨device, -, hread, -⟩ := LawfulBlockDevice.write_of_read old hzero
  have hlength : storedLength old = 1200 := by decide +kernel
  have hcount : storedCount old = 9 := by decide +kernel
  obtain ⟨header, hload, hsize, hcons, -, husable⟩ :=
    (load_usable_iff (s := 2) hread).2 (by rw [hcount]; decide)
  rw [hcount, hlength] at hcons
  have hconsistent : header.IsConsistent := hcons.2 (by decide)
  refine ⟨device, old, hread, hlength, hcount, header, hload, hconsistent, ?_⟩
  intro offset hoffset disk disk' cause hrun
  exact ((husable hconsistent).sectorAt offset (by rwa [hsize, hlength])).of_run hrun

/-- From a sector that says that a file of 5000 bytes has no data sectors, a header is read that is
neither consistent nor usable: the sector of the first byte is looked up behind the end of its
list. -/
theorem load_not_usable :
    ∃ (device : RamDisk sectorSize) (old : Sector) (header : FileHeader),
      BlockDevice.read device 2 = .ok old ∧ storedLength old = 5000 ∧ storedCount old = 0 ∧
      (load 2).run device = (.ok header, device) ∧ ¬ header.IsConsistent ∧ ¬ header.IsUsable ∧
      0 < header.length ∧
      (header.sectorAt 0).run device = (.error .indexOutOfBounds, device) := by
  let old : Sector := Bytes.fit sectorSize [0x88, 0x13]
  let header : FileHeader := { empty with numBytes := 5000 }
  obtain ⟨zero, hzero⟩ := RamDisk.hasBlocks (RamDisk.zeroed 20 sectorSize) 2 (by decide)
  obtain ⟨device, -, hread, -⟩ := LawfulBlockDevice.write_of_read old hzero
  have hdecode : decode? old = some header := by decide +kernel
  have hsectorAt : (header.sectorAt 0).run device = (.error .indexOutOfBounds, device) := rfl
  refine ⟨device, old, header, hread, by decide +kernel, by decide +kernel, ?_, by decide, ?_,
    by decide, hsectorAt⟩
  · rw [run_load (s := 2) hread, hdecode]
  · intro husable
    exact (husable.sectorAt 0 (by decide)).of_run hsectorAt (.inl rfl)

end Device

end FileHeader

end SectorStore
