import SectorStore.FileHeader.Layout
import SectorStore.Proofs.Bytes.Fields

/-!
# Headers and index sectors are read back as written

* `decode?_encode_eq`: of any header that is not too long, all fields are read back, and the map is
  read off the slots. A longer one is refused.
* `decode?_encode`: a consistent header is read back as it was, without its home.
* `SectorTable.take_ofSector_toSector`: so are the numbers in an index sector.
-/

namespace SectorStore

theorem sectorSize_eq : sectorSize = 128 :=
  rfl

theorem sectorSize_pos : 0 < sectorSize :=
  Nat.succ_pos _

theorem numSlots_eq : numSlots = 9 :=
  rfl

theorem numDirect_eq : numDirect = 8 :=
  rfl

theorem indexCapacity_eq : indexCapacity = 32 :=
  rfl

theorem maxSectors_eq : maxSectors = 40 :=
  rfl

theorem maxFileSize_eq : maxFileSize = 5120 :=
  rfl

/-- The bytes that are too many for a file are those that take too many sectors. -/
theorem maxSectors_lt_sectorsFor_iff {size : Nat} :
    maxSectors < sectorsFor size ↔ maxFileSize < size := by
  rw [sectorsFor, maxFileSize_eq, maxSectors_eq, sectorSize_eq]
  omega

/-- An index sector has room for exactly `indexCapacity` numbers. -/
@[simp]
theorem SectorTable.length_ofSector (sector : Sector) :
    (SectorTable.ofSector sector).length = indexCapacity := by
  rw [ofSector, Bytes.length_toWords, Vector.length_toList]

/-- The numbers in an index sector are those that were put there, with zeros behind them. -/
theorem SectorTable.ofSector_toSector {table : SectorTable} (h : table.length ≤ indexCapacity) :
    ofSector (toSector table) = table ++ List.replicate (indexCapacity - table.length) 0 := by
  have hroom : (Bytes.ofWords table).length ≤ sectorSize := by
    rw [Bytes.length_ofWords]
    rw [indexCapacity_eq] at h
    rw [sectorSize_eq]
    omega
  have hzeros : sectorSize - (Bytes.ofWords table).length = 4 * (indexCapacity - table.length) := by
    rw [Bytes.length_ofWords]
    rw [indexCapacity_eq, sectorSize_eq]
    omega
  rw [ofSector, toSector, Bytes.toList_fit hroom, Bytes.toWords_ofWords_append, hzeros,
    Bytes.toWords_replicate_zero]

/-- The table in an index sector is read back. -/
theorem SectorTable.take_ofSector_toSector {table : SectorTable}
    (h : table.length ≤ indexCapacity) :
    (ofSector (toSector table)).take table.length = table := by
  rw [ofSector_toSector h, List.take_left]

namespace FileHeader

variable {header : FileHeader}

/-- A consistent header has no more sectors than a file may have. -/
theorem IsConsistent.sectorCount_le (h : header.IsConsistent) :
    header.sectorCount ≤ maxSectors := by
  rw [IsConsistent] at h
  split at h
  · exact Nat.le_trans h.2 (by decide)
  · exact h.2

theorem length_slots_le (header : FileHeader) : header.slots.length ≤ numSlots := by
  rw [slots]
  split
  · exact List.length_take_le _ _
  · simp [numSlots_eq, numDirect_eq]

/-- The map is found again in the slots of the header and zeros behind them. -/
theorem IsConsistent.mapOfSlots_slots (h : header.IsConsistent) :
    mapOfSlots header.sectorCount
      (header.slots ++ List.replicate (numSlots - header.slots.length) 0) = header.map := by
  rw [IsConsistent] at h
  cases hmap : header.map with
  | direct sectors =>
    simp only [hmap] at h
    have hslots : header.slots = sectors := by
      simp only [slots, hmap]
      exact List.take_of_length_le (Nat.le_trans (Nat.le_of_eq h.1) (Nat.le_trans h.2 (by decide)))
    rw [mapOfSlots, if_pos h.2, hslots, ← h.1, List.take_left]
  | indirect sectors index =>
    simp only [hmap] at h
    have hslots : header.slots = sectors.toList ++ [index] := by simp only [slots, hmap]
    rw [mapOfSlots, if_neg (Nat.not_le.2 h.1), hslots]
    congr 1
    · apply Vector.ext
      intro i hi
      rw [Vector.getElem_ofFn, List.getD_eq_getElem?_getD, List.append_assoc,
        List.getElem?_append_left (by simpa using hi)]
      simp [hi]
    · rw [List.getD_eq_getElem?_getD, List.append_assoc, List.getElem?_append_right (by simp)]
      simp

/-! ## The fields of a stored header -/

/-- The fields of a header as they are stored: its length, the number of its data sectors, its
texts, the padding byte, and its slots, with zeros for those that it does not need. -/
def storedFields (header : FileHeader) : List Bytes :=
  [Bytes.ofWord header.numBytes, Bytes.ofWord (.ofNat header.sectorCount),
    header.kind.bytes.toList, header.created.bytes.toList, header.modified.bytes.toList,
    header.visited.bytes.toList, [0],
    Bytes.ofWords header.slots ++ List.replicate (4 * (numSlots - header.slots.length)) 0]

/-- The fields stand one behind the other, and fill the sector. -/
theorem toList_encode_eq (header : FileHeader) :
    header.encode.toList = header.storedFields.flatten := by
  have hslots := header.length_slots_le
  rw [numSlots_eq] at hslots
  rw [encode, Bytes.toList_fit]
  · simp only [storedFields, List.append_assoc, List.length_append, Bytes.length_ofWord,
      Vector.length_toList, List.length_singleton, Bytes.length_ofWords, List.flatten_cons,
      List.flatten_nil, List.append_nil]
    congr 9
    simp only [numSlots_eq, sectorSize, kindWidth, timeWidth]
    omega
  · simp only [List.length_append, Bytes.length_ofWord, Vector.length_toList,
      List.length_singleton, Bytes.length_ofWords, sectorSize, kindWidth, timeWidth]
    omega

/-- A field is read back from behind the fields in front of it. -/
theorem slice_encode {start count : Nat} (i : Nat) (hi : i < header.storedFields.length)
    (hstart : ((header.storedFields.take i).map List.length).sum = start)
    (hcount : header.storedFields[i].length = count) :
    header.encode.slice start count = header.storedFields[i] := by
  rw [Sector.slice, toList_encode_eq, Bytes.slice_flatten i hi hstart hcount]

/-- So is a text. -/
theorem fieldAt_encode {n start : Nat} {value : FixedText n} (i : Nat)
    (hi : i < header.storedFields.length)
    (hstart : ((header.storedFields.take i).map List.length).sum = start)
    (hvalue : header.storedFields[i] = value.bytes.toList) :
    fieldAt n header.encode start = value := by
  have hcount : header.storedFields[i].length = n := by rw [hvalue, Vector.length_toList]
  rw [fieldAt, slice_encode i hi hstart hcount, hvalue, Bytes.fit_toList]

/-- So are the numbers in the slots, and zeros for the slots that are not needed. -/
theorem toWords_slice_encode (header : FileHeader) :
    Bytes.toWords (header.encode.slice (metadataSize + 1) (4 * numSlots)) =
      header.slots ++ List.replicate (numSlots - header.slots.length) 0 := by
  have hslots := header.length_slots_le
  have hcount : (Bytes.ofWords header.slots ++
      List.replicate (4 * (numSlots - header.slots.length)) 0).length = 4 * numSlots := by
    rw [List.length_append, Bytes.length_ofWords, List.length_replicate]
    omega
  rw [slice_encode 7 (by simp [storedFields])
    (by simp [storedFields, metadataSize, kindWidth, timeWidth]) hcount]
  show Bytes.toWords (Bytes.ofWords header.slots ++ _) = _
  rw [Bytes.toWords_ofWords_append, Bytes.toWords_replicate_zero]

/-- The number of data sectors fits into a word, whatever the length is. -/
theorem sectorCount_lt (header : FileHeader) : header.sectorCount < UInt32.size := by
  have hlt : header.length < UInt32.size := header.numBytes.toNat_lt
  rw [UInt32.size] at hlt ⊢
  rw [sectorCount, sectorsFor, sectorSize_eq]
  omega

/-- A header of no more sectors than a file can have is read back, with the map that its slots and
the zeros behind them make up. A longer one is refused. -/
theorem decode?_encode_eq (header : FileHeader) : decode? header.encode =
    if header.sectorCount ≤ maxSectors then
      some { header with
        map := mapOfSlots header.sectorCount
          (header.slots ++ List.replicate (numSlots - header.slots.length) 0)
        home := none }
    else none := by
  have hcount : (UInt32.ofNat header.sectorCount).toNat = header.sectorCount :=
    UInt32.toNat_ofNat_of_lt header.sectorCount_lt
  have hlength : header.encode.slice 0 4 = Bytes.ofWord header.numBytes :=
    slice_encode 0 (by simp [storedFields]) (by simp [storedFields]) (by simp [storedFields])
  have hword : header.encode.slice 4 4 = Bytes.ofWord (.ofNat header.sectorCount) :=
    slice_encode 1 (by simp [storedFields]) (by simp [storedFields]) (by simp [storedFields])
  have hkind : fieldAt kindWidth header.encode 8 = header.kind :=
    fieldAt_encode 2 (by simp [storedFields]) (by simp [storedFields]) rfl
  have hcreated : fieldAt timeWidth header.encode (8 + kindWidth) = header.created :=
    fieldAt_encode 3 (by simp [storedFields]) (by simp [storedFields, kindWidth]) rfl
  have hmodified :
      fieldAt timeWidth header.encode (8 + kindWidth + timeWidth) = header.modified :=
    fieldAt_encode 4 (by simp [storedFields]) (by simp [storedFields, kindWidth, timeWidth]) rfl
  have hvisited :
      fieldAt timeWidth header.encode (8 + kindWidth + 2 * timeWidth) = header.visited :=
    fieldAt_encode 5 (by simp [storedFields]) (by simp [storedFields, kindWidth, timeWidth]) rfl
  simp only [decode?, hword, hlength, hkind, hcreated, hmodified, hvisited, Bytes.toWord_ofWord,
    hcount, toWords_slice_encode, ← Nat.not_le, ite_not]

/-- A consistent header is read back from the sector that it was written to. -/
theorem decode?_encode (h : header.IsConsistent) :
    decode? header.encode = some { header with home := none } := by
  rw [decode?_encode_eq, if_pos h.sectorCount_le, h.mapOfSlots_slots]

end FileHeader

end SectorStore
