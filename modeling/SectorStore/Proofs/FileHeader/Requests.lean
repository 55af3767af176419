import SectorStore.Proofs.FileHeader.Allocation
import SectorStore.Proofs.FileHeader.Flat

/-!
# What requests for sectors are answered

`allocate_takes_lowest` tells the answer to every request for the sectors of a new file: which of
the two refusals is given when, and that otherwise exactly the lowest free sectors are taken, in the
order in which the header and the index sector list them. `IsConsistent.grow_appends` does so for
the growth of a file: it appends the lowest free sectors to those that the file has, or is refused.
-/

namespace SectorStore.FileHeader

variable {header : FileHeader} {map : FreeMap}

/-! ## New files -/

section Device

variable {δ : Type} [BlockDevice δ] [LawfulBlockDevice δ] {device : δ}

/-- The header, the map and the device after the sectors `taken` were handed to a file of `size`
bytes. -/
structure AllottedOn (header : FileHeader) (map : FreeMap) (size : Nat) (taken : List SectorId)
    (device : δ) (header' : FileHeader) (map' : FreeMap) (device' : δ) : Prop where
  /-- The lowest free sectors are taken, in ascending order, and no others. -/
  takes : map.Takes taken map'
  /-- There is one for each begun sector of the size, and one more if a header cannot list them. -/
  length_taken : taken.length =
    sectorsFor size + if numDirect < sectorsFor size then 1 else 0
  /-- The file has the length that was asked for. -/
  length_eq : header'.length = size
  /-- The header lists the first sectors itself. -/
  listed_eq : header'.map.listed = taken.take numDirect
  /-- The next one, if there is one, is the index sector. -/
  indexSectors_eq : header'.indexSectors = (taken.drop numDirect).take 1
  /-- The index sector has the numbers of the remaining ones as words, and zeros behind them. -/
  read_index : ∀ s ∈ header'.indexSectors, ∃ sector : Sector,
    BlockDevice.read device' s.toNat = .ok sector ∧
      sector.toList = Bytes.ofWords (taken.drop (numDirect + 1)) ++
        List.replicate (sectorSize - 4 * (taken.drop (numDirect + 1)).length) 0
  /-- No other block changes. -/
  sameBlocksOff : SameBlocksOff header'.indexSectors device device'
  /-- All but the index sector are listed as sectors of the file, in the order of taking. -/
  run_sectors : header'.sectors.run device' =
    (.ok (taken.take numDirect ++ taken.drop (numDirect + 1)), device')
  /-- Only the length and the sectors change in the header. -/
  fields_eq : header' = { header with numBytes := header'.numBytes, map := header'.map }

/-- What was allotted on the image of a device was allotted on the device. -/
theorem Allotted.allottedOn {size : Nat} {taken : List SectorId} {header' : FileHeader}
    {map' : FreeMap} {device' : δ} (hblocks' : HasBlocks device' map.size)
    (hoff : SameBlocksOff header'.indexSectors device device')
    (hmax : sectorsFor size ≤ maxSectors)
    (h : header.Allotted map size taken (Disk.image device map.size) header' map'
      (Disk.image device' map.size)) :
    header.AllottedOn map size taken device header' map' device' := by
  have hplaced : header'.Placed (Disk.image device' map.size) :=
    h.allocated.placed (Nat.le_refl _)
  refine ⟨h.takes, h.length_taken, h.length_eq, h.listed_eq, h.indexSectors_eq, ?_, hoff, ?_,
    h.fields_eq⟩
  · intro s hs
    have hlt : s.toNat < map.size :=
      hplaced.lt_count s (header'.indexSectors_subset _ hs)
    refine ⟨_, read_image hblocks' hlt, ?_⟩
    have hroom : (Bytes.ofWords (taken.drop (numDirect + 1))).length ≤ sectorSize := by
      have hlength := h.length_taken
      rw [totalSectorsFor] at hlength
      rw [maxSectors_eq] at hmax
      rw [Bytes.length_ofWords, List.length_drop, sectorSize_eq, numDirect_eq]
      split at hlength <;> omega
    have hget : (Disk.image device' map.size).sector s.toNat = _ := h.get_index s hs
    rw [hget, SectorTable.toSector, Bytes.toList_fit hroom, Bytes.length_ofWords]
  · rw [hplaced.inside.run_sectors hblocks', h.dataSectors_eq]

/-- A request for the sectors of `size` bytes is refused as too large, or for want of space, exactly
if they are more than a file can have, or else more than are free; then nothing is written. In all
other cases exactly the lowest free sectors are taken. -/
theorem allocate_takes_lowest (hsize : map.size ≤ 2 ^ 32) (hblocks : HasBlocks device map.size)
    (header : FileHeader) (size : Nat) :
    ∃ answer device', (header.allocate map size).run.run device = (.ok answer, device') ∧
      (answer = .error .fileTooLarge ↔ maxSectors < sectorsFor size) ∧
      (answer = .error .noSpace ↔ sectorsFor size ≤ maxSectors ∧
        map.numFree < sectorsFor size + if numDirect < sectorsFor size then 1 else 0) ∧
      (∀ cause, answer = .error cause →
        (cause = .fileTooLarge ∨ cause = .noSpace) ∧ device' = device) ∧
      ∀ header' map', answer = .ok (header', map') →
        ∃ taken, header.AllottedOn map size taken device header' map' device' := by
  -- the size is looked at first, whatever is free
  rcases Nat.lt_or_ge maxSectors (sectorsFor size) with hlarge | hmax
  · refine ⟨.error .fileTooLarge, device, ?_, by simpa using hlarge, ?_, ?_, nofun⟩
    · rw [allocate_eq_fileTooLarge hlarge]
      rfl
    · exact ⟨nofun, fun h => absurd h.1 (Nat.not_le.2 hlarge)⟩
    · rintro cause ⟨⟩
      exact ⟨.inl rfl, rfl⟩
  rcases Nat.lt_or_ge map.numFree (totalSectorsFor size) with hfew | hfree
  · refine ⟨.error .noSpace, device, ?_, ?_, ?_, ?_, nofun⟩
    · rw [allocate_eq_noSpace hsize hmax hfew]
      rfl
    · exact ⟨nofun, fun h => absurd h (Nat.not_lt.2 hmax)⟩
    · exact ⟨fun _ => ⟨hmax, hfew⟩, fun _ => rfl⟩
    · rintro cause ⟨⟩
      exact ⟨.inr rfl, rfl⟩
  have hyields : (header.allocate map size).run.Yields (Disk.image device map.size)
      fun answer disk' => ∃ header' map' taken, answer = .ok (header', map') ∧
        header.Allotted map size taken (Disk.image device map.size) header' map' disk' :=
    yields_allot hsize (Nat.le_refl _) hmax hfree
  obtain ⟨answer, device', hrun, hblocks', header', map', taken, rfl, hallotted⟩ :=
    hyields.exists_run hblocks
  refine ⟨_, device', hrun, ?_, ?_, nofun, ?_⟩
  · exact ⟨nofun, fun h => absurd h (Nat.not_lt.2 hmax)⟩
  · exact ⟨nofun, fun h => absurd h.2 (Nat.not_lt.2 hfree)⟩
  · rintro _ _ ⟨⟩
    have hoff := hyields.sameBlocksOff hblocks hsize hrun hallotted.sameOff
    exact ⟨taken, hallotted.allottedOn hblocks' hoff hmax⟩

/-- On a memory disk of 20 blocks, of which the first, second and fourth are taken, sectors are
asked for by a file of ten sectors. -/
theorem allocate_takes_lowest_of_holes :
    (FreeMap.ofBytes 20 [0x0b]).size ≤ 2 ^ 32 ∧ HasBlocks (RamDisk.zeroed 20 sectorSize) 20 ∧
    ∃ header' map' device' taken,
      (empty.allocate (FreeMap.ofBytes 20 [0x0b]) 1200).run.run (RamDisk.zeroed 20 sectorSize) =
        (.ok (.ok (header', map')), device') ∧
      empty.AllottedOn (FreeMap.ofBytes 20 [0x0b]) 1200 taken (RamDisk.zeroed 20 sectorSize)
        header' map' device' := by
  have hsize : (FreeMap.ofBytes 20 [0x0b]).size ≤ 2 ^ 32 := by decide
  have hblocks : HasBlocks (RamDisk.zeroed 20 sectorSize) 20 := RamDisk.hasBlocks _
  have hfree : (FreeMap.ofBytes 20 [0x0b]).numFree = 17 := by decide +kernel
  refine ⟨hsize, hblocks, ?_⟩
  obtain ⟨answer, device', hrun, hlarge, hspace, hcauses, htaken⟩ :=
    allocate_takes_lowest hsize hblocks empty 1200
  rcases answer with cause | ⟨header', map'⟩
  · rcases (hcauses cause rfl).1 with rfl | rfl
    · exact absurd (hlarge.1 rfl) (by decide)
    · have hfew := (hspace.1 rfl).2
      rw [hfree] at hfew
      exact absurd hfew (by decide)
  · obtain ⟨taken, hallotted⟩ := htaken header' map' rfl
    exact ⟨header', map', device', taken, hrun, hallotted⟩

end Device

/-! ## Growing files -/

/-- The number of data sectors of the file if it were `extra` bytes longer. -/
def countWith (header : FileHeader) (extra : Nat) : Nat :=
  sectorsFor (header.length + extra)

/-- A consistent header lists all sectors exactly if they are no more than it has room for. -/
theorem IsConsistent.indexSectors_eq_nil_iff (h : header.IsConsistent) :
    header.indexSectors = [] ↔ header.sectorCount ≤ numDirect := by
  rw [← List.length_eq_zero_iff, h.length_indexSectors]
  split <;> omega

/-- Growth that goes through appends the sectors that are missing. -/
theorem IsConsistent.grown_of_growTo (h : header.IsConsistent) (hsize : map.size ≤ 2 ^ 32)
    {stop : Nat} (hstop : header.length ≤ stop) {header' : FileHeader} {map' : FreeMap}
    (hok : header.growTo map stop = .ok (header', map')) :
    ∃ fresh, header.Grown map stop fresh header' map' := by
  by_cases hgrow : Growable header.length map.numFree stop
  · obtain ⟨header₁, map₁, fresh, hok₁, hgrown⟩ := exists_growTo h hsize hstop hgrow
    rw [hok, Except.ok.injEq, Prod.mk.injEq] at hok₁
    obtain ⟨rfl, rfl⟩ := hok₁
    exact ⟨fresh, hgrown⟩
  · obtain ⟨cause, hrefused⟩ := exists_growTo_eq_error h hsize hgrow
    rw [hok] at hrefused
    cases hrefused

/-- Growth goes through, or is refused for one of two reasons, of which the first is checked before
the second. -/
theorem IsConsistent.growTo_cases (h : header.IsConsistent) (hsize : map.size ≤ 2 ^ 32)
    (extra : Nat) :
    ((header.countWith extra = header.sectorCount ∨ header.indexSectors = [] ∧
        header.countWith extra ≤ numDirect ∧
        header.countWith extra - header.sectorCount ≤ map.numFree) ∧
      ∃ header' map', header.growTo map (header.length + extra) = .ok (header', map')) ∨
    ((header.countWith extra ≠ header.sectorCount ∧
        (header.indexSectors ≠ [] ∨ numDirect < header.countWith extra)) ∧
      header.growTo map (header.length + extra) = .error .expandBeyondDirect) ∨
    ((header.countWith extra ≠ header.sectorCount ∧ header.indexSectors = [] ∧
        header.countWith extra ≤ numDirect ∧
        map.numFree < header.countWith extra - header.sectorCount) ∧
      header.growTo map (header.length + extra) = .error .noSpace) := by
  have hgrowable : Growable header.length map.numFree (header.length + extra) ↔
      header.countWith extra = header.sectorCount ∨ header.indexSectors = [] ∧
        header.countWith extra ≤ numDirect ∧
        header.countWith extra - header.sectorCount ≤ map.numFree := by
    rw [h.indexSectors_eq_nil_iff]
    rfl
  by_cases hgrow : Growable header.length map.numFree (header.length + extra)
  · obtain ⟨header', map', -, hok, -⟩ := exists_growTo h hsize (Nat.le_add_right _ _) hgrow
    exact .inl ⟨hgrowable.1 hgrow, header', map', hok⟩
  rw [hgrowable, not_or] at hgrow
  by_cases hbeyond : header.indexSectors ≠ [] ∨ numDirect < header.countWith extra
  · exact .inr (.inl ⟨⟨hgrow.1, hbeyond⟩, growTo_eq_expandBeyondDirect hgrow.1 hbeyond⟩)
  · rw [not_or, not_not, Nat.not_lt] at hbeyond
    have hfew : map.numFree < header.countWith extra - header.sectorCount := by
      by_contra hle
      exact hgrow.2 ⟨hbeyond.1, hbeyond.2, Nat.le_of_not_lt hle⟩
    exact .inr (.inr ⟨⟨hgrow.1, hbeyond.1, hbeyond.2, hfew⟩,
      growTo_eq_noSpace hsize hgrow.1 hbeyond.1 hbeyond.2 hfew⟩)

/-- Growth by `extra` bytes, where the new length can be told, goes through exactly if it needs no
more sectors, or if the header lists all sectors, can list the missing ones too, and there are
enough free ones. Otherwise it is refused, as going beyond what a header can list or else for want
of space. Where it goes through, the lowest free sectors are appended to those of the file. -/
theorem IsConsistent.grow_appends (h : header.IsConsistent) (hsize : map.size ≤ 2 ^ 32)
    {extra : Nat} (hsum : header.length + extra < sumLimit) :
    ((∃ header' map', header.grow map extra = .ok (.ok (header', map'))) ↔
      header.countWith extra = header.sectorCount ∨
        header.indexSectors = [] ∧ header.countWith extra ≤ numDirect ∧
          header.countWith extra - header.sectorCount ≤ map.numFree) ∧
    (header.grow map extra = .ok (.error .expandBeyondDirect) ↔
      header.countWith extra ≠ header.sectorCount ∧
        (header.indexSectors ≠ [] ∨ numDirect < header.countWith extra)) ∧
    (header.grow map extra = .ok (.error .noSpace) ↔
      header.countWith extra ≠ header.sectorCount ∧
        header.indexSectors = [] ∧ header.countWith extra ≤ numDirect ∧
          map.numFree < header.countWith extra - header.sectorCount) ∧
    ∀ header' map', header.grow map extra = .ok (.ok (header', map')) →
      ∃ fresh, header.Grown map (header.length + extra) fresh header' map' ∧
        fresh.length = header.countWith extra - header.sectorCount ∧
        ∀ offset < header.length, header'.sectorAt offset = header.sectorAt offset := by
  have hstop := Nat.le_add_right header.length extra
  have hgrown : ∀ header' map', header.growTo map (header.length + extra) = .ok (header', map') →
      ∃ fresh, header.Grown map (header.length + extra) fresh header' map' ∧
        fresh.length = header.countWith extra - header.sectorCount ∧
        ∀ offset < header.length, header'.sectorAt offset = header.sectorAt offset := by
    intro header' map' hok
    obtain ⟨fresh, hgrown⟩ := h.grown_of_growTo hsize hstop hok
    exact ⟨fresh, hgrown, hgrown.length_fresh h,
      fun _ hoffset => hgrown.sectorAt_eq h hstop hoffset⟩
  rw [grow_eq_growTo hsum]
  simp only [Except.ok.injEq]
  -- the three conditions exclude one another, so the answer decides which of them holds
  rcases h.growTo_cases hsize extra with ⟨hcond, header', map', hanswer⟩ | ⟨hcond, hanswer⟩ |
    ⟨hcond, hanswer⟩ <;>
    refine ⟨?_, ?_, ?_, hgrown⟩ <;> rw [hanswer] <;> grind

/-- With two of five sectors taken, a file of one sector grows to four, and is refused a fifth. -/
theorem IsConsistent.grow_appends_of_holes :
    ∃ header : FileHeader, header.map = .direct [0] ∧ header.length = 100 ∧ header.IsConsistent ∧
      (FreeMap.ofBytes 5 [0x05]).size ≤ 2 ^ 32 ∧ header.length + 500 < sumLimit ∧
      (∃ header' map' fresh, header.grow (FreeMap.ofBytes 5 [0x05]) 400 =
          .ok (.ok (header', map')) ∧
        header.Grown (FreeMap.ofBytes 5 [0x05]) 500 fresh header' map' ∧ fresh.length = 3) ∧
      header.grow (FreeMap.ofBytes 5 [0x05]) 500 = .ok (.error .noSpace) := by
  let header : FileHeader := { empty with numBytes := 100, map := .direct [0] }
  have hcons : header.IsConsistent := by decide
  have hsize : (FreeMap.ofBytes 5 [0x05]).size ≤ 2 ^ 32 := by decide
  have hsum : header.length + 500 < sumLimit := by decide
  refine ⟨header, rfl, rfl, hcons, hsize, hsum, ?_, ?_⟩
  · have hsum' : header.length + 400 < sumLimit := by decide
    obtain ⟨hok, -, -, hgrown⟩ := hcons.grow_appends hsize hsum'
    obtain ⟨header', map', hgrow⟩ := hok.2 (.inr (by decide +kernel))
    obtain ⟨fresh, hgrown, hfresh, -⟩ := hgrown header' map' hgrow
    exact ⟨header', map', fresh, hgrow, hgrown, hfresh.trans (by decide)⟩
  · exact (hcons.grow_appends hsize hsum).2.2.1.2 (by decide +kernel)

end SectorStore.FileHeader
