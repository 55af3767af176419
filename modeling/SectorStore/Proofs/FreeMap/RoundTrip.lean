import SectorStore.Proofs.FreeMap.Sets

/-!
# Free maps as bytes, both ways

A free map is kept on a disk as bytes, eight sectors to a byte, and the bytes of any disk are taken
for a free map when it is mounted. Packing loses nothing (`ofBytes_toBytes`). Unpacking loses what
is no mark of a sector: bytes behind the last one that the map needs, and the bits of this last one
that belong to no sector. Bytes that are missing count as zero.

`bytes_roundTrip` says both for maps and byte strings of all sizes, so also where the last byte is
only partly used and where the bytes end in front of it. The bytes that come back are described by
`keepBits`, which clears single bits; `testBit_keepBits` is what is used of it.
-/

namespace SectorStore.FreeMap

variable {map : FreeMap} {bytes : Bytes} {bits i j : Nat}

/-- Bit number `i` of a byte string, the lowest bit of the first byte being number 0; behind the
string all bits are zero. -/
def bitAt (bytes : Bytes) (i : Nat) : Bool :=
  (bytes.getD (i / 8) 0).toNat.testBit (i % 8)

/-- The byte string with all bits cleared but the first `bits` ones. -/
def keepBits (bits : Nat) (bytes : Bytes) : Bytes :=
  bytes.mapIdx fun j byte => byte &&& UInt8.ofNat (2 ^ min 8 (bits - 8 * j) - 1)

theorem length_keepBits (bits : Nat) (bytes : Bytes) :
    (keepBits bits bytes).length = bytes.length := by
  rw [keepBits, List.length_mapIdx]

/-- A byte that is missing is as one that is zero: there is no bit to keep. -/
theorem getD_keepBits (bits : Nat) (bytes : Bytes) (j : Nat) :
    (keepBits bits bytes).getD j 0 =
      bytes.getD j 0 &&& UInt8.ofNat (2 ^ min 8 (bits - 8 * j) - 1) := by
  rw [keepBits, List.getD_eq_getElem?_getD, List.getElem?_mapIdx, List.getD_eq_getElem?_getD]
  cases bytes[j]? with
  | none => simp
  | some byte => rfl

/-- A bit is kept if its number is below the limit. -/
theorem testBit_keepBits (bits : Nat) (bytes : Bytes) (i : Nat) :
    bitAt (keepBits bits bytes) i = (decide (i < bits) && bitAt bytes i) := by
  have hmask : 2 ^ min 8 (bits - 8 * (i / 8)) - 1 < 2 ^ 8 := by
    have hle : 2 ^ min 8 (bits - 8 * (i / 8)) ≤ 2 ^ 8 :=
      Nat.pow_le_pow_right (by decide) (Nat.min_le_left 8 _)
    omega
  -- the bit is below the limit in its byte if it is in the whole string
  have hlt : i % 8 < min 8 (bits - 8 * (i / 8)) ↔ i < bits := by omega
  rw [bitAt, getD_keepBits, UInt8.toNat_and, UInt8.toNat_ofNat_of_lt' hmask, Nat.testBit_and,
    Nat.testBit_two_pow_sub_one, decide_eq_decide.2 hlt, Bool.and_comm, bitAt]

/-- Byte strings of one length are equal if their bits are. -/
theorem ext_bitAt {bytes bytes' : Bytes} (hlength : bytes.length = bytes'.length)
    (h : ∀ i, bitAt bytes i = bitAt bytes' i) : bytes = bytes' := by
  apply List.ext_getElem hlength
  intro j hj hj'
  apply UInt8.toNat_inj.1
  apply Nat.eq_of_testBit_eq
  intro k
  rcases Nat.lt_or_ge k 8 with hk | hk
  · have hbit := h (8 * j + k)
    have hdiv : (8 * j + k) / 8 = j := by omega
    have hmod : (8 * j + k) % 8 = k := by omega
    rw [bitAt, bitAt, hdiv, hmod, List.getD_eq_getElem?_getD, List.getD_eq_getElem?_getD,
      List.getElem?_eq_getElem hj, List.getElem?_eq_getElem hj'] at hbit
    exact hbit
  · -- a byte has no further bits
    have hbyte : ∀ byte : UInt8, byte.toNat.testBit k = false := by
      intro byte
      apply Nat.testBit_lt_two_pow
      exact Nat.lt_of_lt_of_le byte.toNat_lt (Nat.pow_le_pow_right (by decide) hk)
    rw [hbyte, hbyte]

/-- The bit of a sector is set in the packed marks if the sector is taken. -/
theorem bitAt_toBytes (map : FreeMap) (i : Nat) : bitAt map.toBytes i = map.isTaken i := by
  rcases Nat.lt_or_ge (i / 8) (bytesFor map.size) with hlt | hge
  · rw [bitAt, toBytes, map.testBit_bytes hlt]
  · -- behind the bytes there is no sector, so no bit is missing
    have hnot : map.isTaken i = false := by
      apply Bool.eq_false_iff.2
      intro htaken
      have hbytes := lt_bytesFor (mem_iff.2 htaken)
      omega
    rw [bitAt, List.getD_eq_getElem?_getD, List.getElem?_eq_none (by rwa [length_toBytes]), hnot]
    simp

theorem isTaken_eq_false (h : map.size ≤ i) : map.isTaken i = false := by
  apply Bool.eq_false_iff.2
  intro htaken
  exact Nat.not_lt.2 h (lt_size_of_isTaken htaken)

theorem getD_toList_fit (n : Nat) (bytes : Bytes) (j : Nat) :
    (Bytes.fit n bytes).toList.getD j 0 = if j < n then bytes.getD j 0 else 0 := by
  rw [List.getD_eq_getElem?_getD]
  split
  · next h =>
    rw [List.getElem?_eq_getElem (by simpa using h), Vector.getElem_toList, Bytes.getElem_fit]
    rfl
  · next h => rw [List.getElem?_eq_none (by simpa using h), Option.getD_none]

/-- What is packed of a map that was read from bytes are these bytes, made as long as the map needs
and without the bits that belong to no sector. -/
theorem toBytes_ofBytes (bits : Nat) (bytes : Bytes) :
    (ofBytes bits bytes).toBytes = keepBits bits (Bytes.fit (bytesFor bits) bytes).toList := by
  apply ext_bitAt
  · rw [length_toBytes, size_ofBytes, length_keepBits, Vector.length_toList]
  · intro i
    rw [bitAt_toBytes, isTaken_ofBytes, testBit_keepBits, bitAt, getD_toList_fit]
    -- a bit that is kept is in a byte that is kept
    by_cases hi : i < bits
    · have hbyte : i / 8 < bytesFor bits := by
        rw [bytesFor]
        omega
      rw [if_pos hbyte]
    · rw [decide_eq_false hi, Bool.false_and, Bool.false_and]

/-- The bytes of a map are as many as its sectors need, sector `i` is bit `i % 8` of byte `i / 8`,
the bits behind the last sector are zero, and the map is read back from its bytes. Of a map that was
read from any bytes, these come back, cut off or filled up with zeros to as many as the sectors
need, and with all bits cleared that belong to no sector. -/
theorem bytes_roundTrip :
    (∀ map : FreeMap,
      map.toBytes.length = (map.size + 7) / 8 ∧
      (∀ i < 8 * map.toBytes.length, ∃ byte, map.toBytes[i / 8]? = some byte ∧
        byte.toNat.testBit (i % 8) = (decide (i < map.size) && map.isTaken i)) ∧
      ofBytes map.size map.toBytes = map) ∧
    ∀ bits bytes, (ofBytes bits bytes).toBytes =
      keepBits bits (Bytes.fit ((bits + 7) / 8) bytes).toList := by
  refine ⟨?forth, toBytes_ofBytes⟩
  intro map
  refine ⟨map.length_toBytes, ?bits, map.ofBytes_toBytes⟩
  intro i hi
  have hlt : i / 8 < map.toBytes.length := by omega
  have hbit := map.bitAt_toBytes i
  rw [bitAt, List.getD_eq_getElem?_getD, List.getElem?_eq_getElem hlt, Option.getD_some] at hbit
  refine ⟨_, List.getElem?_eq_getElem hlt, hbit.trans ?_⟩
  rcases Nat.lt_or_ge i map.size with hsize | hsize
  · rw [decide_eq_true hsize, Bool.true_and]
  · rw [isTaken_eq_false hsize, Bool.and_false]

/-- Eleven sectors in two bytes: the third byte and the five upper bits of the second are lost. -/
example : (ofBytes 11 [0xa5, 0xff, 0x3c]).toBytes = [0xa5, 0x07] := by
  decide +kernel

end SectorStore.FreeMap
