import SectorStore.Proofs.Device.Blocks
import SectorStore.Proofs.FileHeader.Stored

/-!
# Headers go to the disk and come back

A sector with a header says twice how large the file is: by its length, and by the number of its
data sectors. A header in memory keeps the length only, so a sector is written back as it was read
only if the two agree (`Decoded.get_encode`). Then nothing is lost but what is in no field: the
padding byte, and the slots behind those that are used.

`store_load_roundTrip` puts this together with the other direction, `decode?_encode`, for a device.
-/

namespace SectorStore

theorem metadataSize_eq : metadataSize = 91 :=
  rfl

namespace Sector

theorem get_eq_getD (sector : Sector) (i : Fin sectorSize) :
    sector.get i = sector.toList.getD i 0 := by
  rw [List.getD_eq_getElem?_getD, List.getElem?_eq_getElem (by simp), Option.getD_some]
  rfl

theorem length_slice (sector : Sector) {start count : Nat} (h : start + count ≤ sectorSize) :
    (sector.slice start count).length = count := by
  rw [slice, Bytes.slice, List.length_take, List.length_drop, Vector.length_toList]
  omega

theorem getElem?_slice {sector : Sector} {start count i : Nat} (h : i < count) :
    (sector.slice start count)[i]? = sector.toList[start + i]? := by
  rw [slice, Bytes.slice, List.getElem?_take_of_lt h, List.getElem?_drop]

/-- The front of a sector and the slice behind it are a longer front. -/
theorem slice_zero_append (sector : Sector) (m n : Nat) :
    sector.slice 0 m ++ sector.slice m n = sector.slice 0 (m + n) := by
  have happend := Bytes.slice_append sector.toList 0 m n
  rwa [Nat.zero_add] at happend

end Sector

namespace FileHeader

variable {header : FileHeader} {old : Sector}

/-! ## What a sector says -/

/-- The length in a stored header. -/
def storedLength (sector : Sector) : Nat :=
  (Bytes.toWord (sector.slice 0 4)).toNat

/-- The number of data sectors in a stored header. -/
def storedCount (sector : Sector) : Nat :=
  (Bytes.toWord (sector.slice 4 4)).toNat

/-- The sector numbers in the slots of a stored header. -/
def storedSlots (sector : Sector) : SectorTable :=
  Bytes.toWords (sector.slice (metadataSize + 1) (4 * numSlots))

/-- A sector with too large a number of data sectors holds no header. -/
theorem decode?_eq_none_iff : decode? old = none ↔ maxSectors < storedCount old := by
  rw [decode?, storedCount]
  split <;> simp_all

/-- The header in a sector has the fields of the sector. -/
structure Decoded (old : Sector) (header : FileHeader) : Prop where
  /-- The number of data sectors is not too large. -/
  count_le : storedCount old ≤ maxSectors
  /-- The length is the one in the sector. -/
  numBytes_eq : header.numBytes = Bytes.toWord (old.slice 0 4)
  /-- The map is read off the slots as the number of data sectors says. -/
  map_eq : header.map = mapOfSlots (storedCount old) (storedSlots old)
  /-- The bytes of the type are those of its field. -/
  kind_eq : header.kind = fieldAt kindWidth old 8
  /-- The bytes of the time of creation are those of its field. -/
  created_eq : header.created = fieldAt timeWidth old (8 + kindWidth)
  /-- The bytes of the time of the last change are those of its field. -/
  modified_eq : header.modified = fieldAt timeWidth old (8 + kindWidth + timeWidth)
  /-- The bytes of the time of the last visit are those of its field. -/
  visited_eq : header.visited = fieldAt timeWidth old (8 + kindWidth + 2 * timeWidth)

/-- A sector that is read as a header is decoded field by field. -/
theorem decoded_of_decode? (h : decode? old = some header) : Decoded old header := by
  rw [decode?] at h
  split at h
  · cases h
  · next hcount =>
    cases h
    exact ⟨Nat.le_of_not_lt hcount, rfl, rfl, rfl, rfl, rfl, rfl⟩

/-- Few sectors are listed in the slots. -/
theorem Decoded.map_direct (h : Decoded old header) (hcount : storedCount old ≤ numDirect) :
    header.map = .direct ((storedSlots old).take (storedCount old)) := by
  rw [h.map_eq, mapOfSlots, if_pos hcount]

/-- If there are more, all slots are used, the last one for the index sector. -/
theorem Decoded.map_indirect (h : Decoded old header) (hcount : numDirect < storedCount old) :
    header.map = .indirect (.ofFn fun i => (storedSlots old).getD i 0)
      ((storedSlots old).getD numDirect 0) := by
  rw [h.map_eq, mapOfSlots, if_neg (Nat.not_le.2 hcount)]

/-- The length of a decoded header is the stored one. -/
theorem Decoded.length_eq (h : Decoded old header) : header.length = storedLength old := by
  rw [length, h.numBytes_eq, storedLength]

/-! ## Written back -/

/-- A text field has the bytes at its place in the sector. -/
theorem toList_fieldAt {n start : Nat} (h : start + n ≤ sectorSize) (sector : Sector) :
    (fieldAt n sector start).bytes.toList = sector.slice start n :=
  Bytes.toList_fit_of_length_eq (Sector.length_slice sector h)

/-- The number of slots that a header of so many data sectors uses. -/
def usedSlots (count : Nat) : Nat :=
  if count ≤ numDirect then count else numSlots

/-- No more slots are used than there are. -/
theorem usedSlots_le (count : Nat) : usedSlots count ≤ numSlots := by
  rw [usedSlots]
  split
  · next h => exact Nat.le_trans h (by decide)
  · exact Nat.le_refl _

/-- The fields in front of the padding byte are one behind the other. -/
theorem slice_metadata (sector : Sector) :
    sector.slice 0 4 ++ sector.slice 4 4 ++ sector.slice 8 kindWidth ++
      sector.slice (8 + kindWidth) timeWidth ++
      sector.slice (8 + kindWidth + timeWidth) timeWidth ++
      sector.slice (8 + kindWidth + 2 * timeWidth) timeWidth = sector.slice 0 metadataSize := by
  rw [Sector.slice_zero_append sector 4 4, Sector.slice_zero_append sector 8 kindWidth,
    Sector.slice_zero_append sector (8 + kindWidth) timeWidth,
    Sector.slice_zero_append sector (8 + kindWidth + timeWidth) timeWidth]
  exact Sector.slice_zero_append sector (8 + kindWidth + 2 * timeWidth) timeWidth

theorem length_slice_metadata (sector : Sector) :
    (sector.slice 0 metadataSize).length = metadataSize :=
  Sector.length_slice sector (by decide)

theorem length_slice_usedSlots (sector : Sector) (count : Nat) :
    (sector.slice (metadataSize + 1) (4 * usedSlots count)).length = 4 * usedSlots count := by
  have hle := usedSlots_le count
  apply Sector.length_slice
  rw [numSlots_eq] at hle
  rw [metadataSize_eq, sectorSize_eq]
  omega

/-- A sector has all slots of the table. -/
theorem length_storedSlots (sector : Sector) : (storedSlots sector).length = numSlots := by
  rw [storedSlots, Bytes.length_toWords, Sector.length_slice sector (by decide)]
  exact Nat.mul_div_cancel_left _ (by decide)

/-- Numbers for all slots are those for the slots in front of the last one, and the last one. -/
theorem listed_append_index {table : SectorTable} (h : table.length = numSlots) :
    (Vector.ofFn fun i : Fin numDirect => table.getD i 0).toList ++ [table.getD numDirect 0] =
      table := by
  apply List.ext_getElem
  · rw [List.length_append, Vector.length_toList, h]
    rfl
  · -- the table has no slot behind the one of the index sector
    intro i hi hi'
    have hget : table.getD i 0 = table[i] := by
      rw [List.getD_eq_getElem?_getD, List.getElem?_eq_getElem hi', Option.getD_some]
    rcases Nat.lt_or_ge i numDirect with hlt | hge
    · rw [List.getElem_append_left (by simpa using hlt), Vector.getElem_toList,
        Vector.getElem_ofFn, hget]
    · obtain rfl : i = numDirect := by
        rw [h, numSlots_eq] at hi'
        rw [numDirect_eq] at hge ⊢
        omega
      rw [List.getElem_append_right (by simp), List.getElem_singleton, hget]

/-- The slots that are used are those that were read. -/
theorem Decoded.slots_eq (h : Decoded old header) :
    header.slots = (storedSlots old).take (usedSlots (storedCount old)) := by
  have hlength := length_storedSlots old
  rcases Nat.lt_or_ge numDirect (storedCount old) with hcount | hcount
  · rw [usedSlots, if_neg (Nat.not_le.2 hcount), List.take_of_length_le (Nat.le_of_eq hlength)]
    simp only [slots, h.map_indirect hcount]
    exact listed_append_index hlength
  · have hmin : min numSlots (storedCount old) = storedCount old :=
      Nat.min_eq_right (Nat.le_trans hcount (by decide))
    simp only [slots, h.map_direct hcount]
    rw [usedSlots, if_pos hcount, List.take_take, hmin]

/-- The numbers in the slots are written as they were read. -/
theorem Decoded.ofWords_slots (h : Decoded old header) :
    Bytes.ofWords header.slots =
      old.slice (metadataSize + 1) (4 * usedSlots (storedCount old)) := by
  have hle := usedSlots_le (storedCount old)
  rw [numSlots_eq] at hle
  rw [h.slots_eq, storedSlots, Bytes.ofWords_take_toWords]
  · rw [Sector.slice, Sector.slice, Bytes.slice, Bytes.slice, List.take_take, Nat.min_eq_left]
    rw [numSlots_eq]
    omega
  · rw [Sector.length_slice old (by decide), numSlots_eq]
    omega

/-- A header whose length asks for the sectors that the slots list is written back as it was read,
but for the padding byte and the slots that are not used. -/
theorem Decoded.toList_encode (h : Decoded old header)
    (hcount : storedCount old = sectorsFor (storedLength old)) :
    header.encode.toList = old.slice 0 metadataSize ++ [0] ++
      old.slice (metadataSize + 1) (4 * usedSlots (storedCount old)) ++
        List.replicate (4 * (numSlots - usedSlots (storedCount old))) 0 := by
  -- the number is not kept, but computed anew from the length
  have hnumber : UInt32.ofNat header.sectorCount = Bytes.toWord (old.slice 4 4) := by
    rw [sectorCount, h.length_eq, ← hcount, storedCount, UInt32.ofNat_toNat]
  have hslots : header.slots.length = usedSlots (storedCount old) := by
    rw [h.slots_eq, List.length_take, length_storedSlots, Nat.min_eq_left (usedSlots_le _)]
  rw [toList_encode_eq, storedFields, hslots, hnumber, h.numBytes_eq, h.kind_eq, h.created_eq,
    h.modified_eq, h.visited_eq, h.ofWords_slots,
    Bytes.ofWord_toWord (Sector.length_slice old (by decide)),
    Bytes.ofWord_toWord (Sector.length_slice old (by decide)), toList_fieldAt (by decide),
    toList_fieldAt (by decide), toList_fieldAt (by decide), toList_fieldAt (by decide),
    ← slice_metadata]
  simp only [List.flatten_cons, List.flatten_nil, List.append_assoc, List.append_nil]

/-- The bytes that are written back are the ones that were read, but for the padding byte and the
slots that are not used. -/
theorem Decoded.get_encode (h : Decoded old header)
    (hcount : storedCount old = sectorsFor (storedLength old)) (i : Fin sectorSize) :
    header.encode.get i =
      if i.val = metadataSize ∨
        storedCount old ≤ numDirect ∧ metadataSize + 1 + 4 * storedCount old ≤ i.val then 0
      else old.get i := by
  have hi : i.val < 128 := i.isLt
  have hfront := length_slice_metadata old
  have hslots := length_slice_usedSlots old (storedCount old)
  -- with an index sector all slots are used, and they end where the sector ends
  have hunused : (storedCount old ≤ numDirect ∧ metadataSize + 1 + 4 * storedCount old ≤ i.val) ↔
      metadataSize + 1 + 4 * usedSlots (storedCount old) ≤ i.val := by
    rw [usedSlots]
    split
    · next hle => exact and_iff_right hle
    · next hgt =>
      rw [numSlots_eq, metadataSize_eq]
      omega
  simp only [hunused, Sector.get_eq_getD, h.toList_encode hcount, List.append_assoc,
    List.getD_eq_getElem?_getD]
  -- the byte is in front of the padding byte, is that one, or is in the slots
  rcases Nat.lt_trichotomy i.val metadataSize with hlt | heq | hgt
  · rw [if_neg (by omega), List.getElem?_append_left (by omega), Sector.getElem?_slice hlt,
      Nat.zero_add]
  · rw [if_pos (.inl heq), List.getElem?_append_right (by omega), hfront, heq, Nat.sub_self]
    rfl
  · rw [List.getElem?_append_right (by omega), hfront, List.getElem?_append_right (by simp; omega),
      List.length_singleton]
    by_cases hused : metadataSize + 1 + 4 * usedSlots (storedCount old) ≤ i.val
    · rw [if_pos (.inr hused), List.getElem?_append_right (by omega), List.getElem?_replicate]
      split <;> rfl
    · rw [if_neg (by omega), List.getElem?_append_left (by omega), Sector.getElem?_slice (by omega)]
      congr 2
      omega

/-! ## On a device -/

section Device

variable {δ : Type} [BlockDevice δ] {device : δ} {s : SectorId}

/-- A header is read from its sector, which says what it is. -/
theorem run_load (hread : BlockDevice.read device s.toNat = .ok old) :
    (load s).run device =
      (match decode? old with
        | some header => .ok header
        | none => .error (.corruptedHeader s.toNat), device) := by
  have hload : (Transfer.load s).run device = (.ok old, device) := by
    rw [Transfer.load, Transfer.run, hread]
    rfl
  rw [load, Transfer.run_bind]
  simp only [hload]
  cases decode? old with
  | none => rfl
  | some header => rfl

variable [LawfulBlockDevice δ]

/-- A header is written to its sector and to no other block. -/
theorem exists_run_store (hread : BlockDevice.read device s.toNat = .ok old)
    (header : FileHeader) :
    ∃ device', (header.store s).run device = (.ok (), device') ∧
      BlockDevice.read device' s.toNat = .ok header.encode ∧ SameBlocksOff [s] device device' := by
  obtain ⟨device', hwrite, hself, hother⟩ := LawfulBlockDevice.write_of_read header.encode hread
  refine ⟨device', ?_, hself, fun block hblock => hother block ?_⟩
  · rw [store, Transfer.store, Transfer.run, hwrite]
    rfl
  · exact (hblock s (List.mem_singleton_self s)).symm

/-- A consistent header that is written to a sector is read back as it was, without its home.
Conversely, if the number of data sectors in a sector is possible and is the one that the length
there asks for, then a header is read from it, and writing that back changes nothing in the sector
but the padding byte and the slots that are not used, which are zero afterwards. No other block is
changed. -/
theorem store_load_roundTrip (hread : BlockDevice.read device s.toNat = .ok old) :
    (∀ header : FileHeader, header.IsConsistent →
      ∃ device', (header.store s).run device = (.ok (), device') ∧
        (load s).run device' = (.ok { header with home := none }, device') ∧
        SameBlocksOff [s] device device') ∧
    (storedCount old ≤ maxSectors → storedCount old = sectorsFor (storedLength old) →
      ∃ header device' new, (load s).run device = (.ok header, device) ∧
        (header.store s).run device = (.ok (), device') ∧
        BlockDevice.read device' s.toNat = .ok new ∧ SameBlocksOff [s] device device' ∧
        ∀ i : Fin sectorSize, new.get i =
          if i.val = metadataSize ∨
            storedCount old ≤ numDirect ∧ metadataSize + 1 + 4 * storedCount old ≤ i.val then 0
          else old.get i) := by
  constructor
  · intro header hcons
    obtain ⟨device', hstore, hread', hoff⟩ := exists_run_store hread header
    refine ⟨device', hstore, ?_, hoff⟩
    rw [run_load hread', decode?_encode hcons]
  · intro hmax hcount
    rcases hdecode : decode? old with _ | header
    · -- a number of data sectors that is possible is never refused
      rw [decode?_eq_none_iff] at hdecode
      omega
    obtain ⟨device', hstore, hread', hoff⟩ := exists_run_store hread header
    refine ⟨header, device', _, ?_, hstore, hread', hoff, ?_⟩
    · rw [run_load hread, hdecode]
    · exact (decoded_of_decode? hdecode).get_encode hcount

/-- A header of ten sectors goes to a memory disk and comes back. A sector that says that a file of
200 bytes has two sectors, and is filled with sevens otherwise, loses sevens at two places. -/
theorem store_load_roundTrip_of_sevens :
    ∃ (device : RamDisk sectorSize) (old : Sector), BlockDevice.read device 2 = .ok old ∧
      (∃ header : FileHeader, header.IsConsistent ∧ header.sectorCount = 10 ∧
        ∃ device', (header.store 2).run device = (.ok (), device') ∧
          (load 2).run device' = (.ok { header with home := none }, device')) ∧
      storedCount old ≤ maxSectors ∧ storedCount old = sectorsFor (storedLength old) ∧
      ∃ header device' new, (load 2).run device = (.ok header, device) ∧
        (header.store 2).run device = (.ok (), device') ∧
        BlockDevice.read device' 2 = .ok new ∧
        new = Bytes.fit sectorSize ([200, 0, 0, 0, 2, 0, 0, 0] ++ List.replicate 83 7 ++ [0] ++
          List.replicate 8 7) := by
  let old : Sector :=
    Bytes.fit sectorSize ([200, 0, 0, 0, 2, 0, 0, 0] ++ List.replicate 120 7)
  obtain ⟨zero, hzero⟩ := RamDisk.hasBlocks (RamDisk.zeroed 4 sectorSize) 2 (by decide)
  obtain ⟨device, -, hread, -⟩ := LawfulBlockDevice.write_of_read old hzero
  have hmax : storedCount old ≤ maxSectors := by decide +kernel
  have hcount : storedCount old = sectorsFor (storedLength old) := by decide +kernel
  obtain ⟨hforth, hback⟩ := store_load_roundTrip (s := 2) hread
  refine ⟨device, old, hread, ?_, hmax, hcount, ?_⟩
  · let header : FileHeader :=
      { empty with numBytes := 1200, map := .indirect #v[3, 1, 4, 5, 9, 2, 6, 8] 7 }
    have hcons : header.IsConsistent := by decide
    obtain ⟨device', hstore, hload, -⟩ := hforth header hcons
    exact ⟨header, hcons, by decide, device', hstore, hload⟩
  · obtain ⟨header, device', new, hload, hstore, hread', -, hnew⟩ := hback hmax hcount
    refine ⟨header, device', new, hload, hstore, hread', ?_⟩
    have hbytes : ∀ i : Fin sectorSize,
        (if i.val = metadataSize ∨
          storedCount old ≤ numDirect ∧ metadataSize + 1 + 4 * storedCount old ≤ i.val then 0
        else old.get i) = (Bytes.fit sectorSize ([200, 0, 0, 0, 2, 0, 0, 0] ++
          List.replicate 83 7 ++ [0] ++ List.replicate 8 7)).get i := by
      decide +kernel
    apply Vector.ext
    intro i hi
    exact (hnew ⟨i, hi⟩).trans (hbytes ⟨i, hi⟩)

end Device

end FileHeader

end SectorStore
