import Mathlib.Algebra.GroupWithZero.Nat
import SectorStore.FreeMap.Basic

/-!
# Free maps are read back as written

* `mem_ofBytes_bytes`: what is read back from the first bytes of the packed marks are the marks in
  these bytes.
* `ofBytes_toBytes`: a free map is recovered from all its packed marks, of any number of sectors,
  also where they do not fill the last byte.
-/

namespace SectorStore.FreeMap

theorem packBits_lt (bits : List Bool) : packBits bits < 2 ^ bits.length := by
  induction bits with
  | nil => simp [packBits]
  | cons bit rest ih =>
    have hbit := Bool.toNat_le bit
    rw [packBits, List.length_cons, Nat.pow_succ]
    omega

/-- A bit of the packed marks is the mark at that place. -/
theorem testBit_bytes (map : FreeMap) {count i : Nat} (h : i / 8 < count) :
    ((map.bytes count).getD (i / 8) 0).toNat.testBit (i % 8) = map.isTaken i := by
  let bits := (List.range 8).map fun k => map.isTaken (8 * (i / 8) + k)
  have hbyte : (map.bytes count).getD (i / 8) 0 = UInt8.ofNat (packBits bits) := by
    simp [bytes, bits, List.getD_eq_getElem?_getD, h]
  have hlt : packBits bits < 2 ^ 8 := by
    have hlength : bits.length = 8 := by simp [bits]
    exact hlength ▸ packBits_lt bits
  have hbit : bits.getD (i % 8) false = map.isTaken (8 * (i / 8) + i % 8) := by
    have hmod : i % 8 < 8 := Nat.mod_lt _ (by omega)
    simp [bits, List.getD_eq_getElem?_getD, hmod]
  rw [hbyte, UInt8.toNat_ofNat_of_lt' hlt, testBit_packBits, hbit, Nat.div_add_mod]

/-- Of the first bytes of the packed marks, the marks in these bytes are read back. -/
theorem mem_ofBytes_bytes {map : FreeMap} {size count i : Nat} :
    i ∈ ofBytes size (map.bytes count) ↔ i ∈ map ∧ i < size ∧ i < 8 * count := by
  rw [mem_iff, isTaken_ofBytes, Bool.and_eq_true, decide_eq_true_eq]
  by_cases h : i / 8 < count
  · rw [map.testBit_bytes h, ← mem_iff]
    exact ⟨fun hi => ⟨hi.2, hi.1, by omega⟩, fun hi => ⟨hi.2.1, hi.1⟩⟩
  · have hnone : (map.bytes count).getD (i / 8) 0 = 0 := by
      rw [List.getD_eq_getElem?_getD, List.getElem?_eq_none (by rwa [length_bytes, ← Nat.not_lt]),
        Option.getD_none]
    rw [hnone]
    exact ⟨fun hi => by simp at hi, fun hi => absurd hi.2.2 (by omega)⟩

/-- The marks of a sector are in one of the bytes for all of them. -/
theorem lt_bytesFor {map : FreeMap} {i : Nat} (h : i ∈ map) : i < 8 * bytesFor map.size := by
  have hlt := lt_size_of_isTaken h
  rw [bytesFor]
  omega

/-- Maps of the same size with the same taken sectors are the same. -/
theorem ext_mem {a b : FreeMap} (hsize : a.size = b.size) (h : ∀ i, i ∈ a ↔ i ∈ b) : a = b :=
  ext_isTaken hsize fun i => Bool.eq_iff_iff.2 (h i)

@[simp]
theorem ofBytes_toBytes (map : FreeMap) : ofBytes map.size map.toBytes = map := by
  refine ext_mem (size_ofBytes _ _) fun i => ?_
  rw [toBytes, mem_ofBytes_bytes]
  exact ⟨And.left, fun h => ⟨h, lt_size_of_isTaken h, lt_bytesFor h⟩⟩

/-- The packed marks tell which sectors are taken, and nothing else. -/
theorem bytes_congr {map map' : FreeMap} (h : ∀ i, i ∈ map' ↔ i ∈ map) (count : Nat) :
    map'.bytes count = map.bytes count := by
  have htaken : map'.isTaken = map.isTaken := funext fun i => Bool.eq_iff_iff.2 (h i)
  rw [bytes, htaken, bytes]

end SectorStore.FreeMap
