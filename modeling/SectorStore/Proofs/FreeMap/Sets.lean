import Mathlib.Order.Bounds.Defs
import SectorStore.Proofs.FreeMap.Codec
import SectorStore.Proofs.FreeMap.Taking

/-!
# A free map is the set of its taken sectors

`Tracks bits map numbers` follows a map of `bits` sectors from where it came from, a fresh map or
bytes read from a disk, through any sectors that are taken, marked and cleared, and says which set
of numbers these make up: every operation adds or removes the one number it is about. An operation
that is refused leaves no map, and a search that finds no sector leaves the one it searched. Going
on with a copy of a map is going on from the map itself, so the runs branch wherever one was copied.

`Tracks.operations_on_set` says that such a map is the set and nothing more. It tells of each sector
whether it is in the set, hands out the least number outside of it, counts what is left, and is
equal to another map exactly if sizes and sets are. This rests on `Tracks.taken_eq`: marks beyond
the size, which bytes from elsewhere may well have, are never part of a map.
-/

namespace SectorStore.FreeMap

variable {bits bits' : Nat} {map map' : FreeMap} {numbers numbers' : Finset Nat} {sector : SectorId}

/-- The numbers below `bits` whose bits are set in the bytes, lowest bit of a byte first. -/
def bitNumbers (bits : Nat) (bytes : Bytes) : Finset Nat :=
  (Finset.range bits).filter fun i => (bytes.getD (i / 8) 0).toNat.testBit (i % 8) = true

/-- A map of `bits` sectors that came about by operations on a fresh map or on one read from bytes,
and the set of numbers that the operations lead to. -/
inductive Tracks (bits : Nat) : FreeMap → Finset Nat → Prop
  /-- A fresh map stands for the empty set. -/
  | free : Tracks bits (free bits) ∅
  /-- Any bytes will do, of any number and whatever they say beyond the map. -/
  | ofBytes (bytes : Bytes) : Tracks bits (ofBytes bits bytes) (bitNumbers bits bytes)
  /-- The sector that is handed out is added. -/
  | take {map map' : FreeMap} {numbers : Finset Nat} {sector : SectorId}
      (h : Tracks bits map numbers) (htake : map.take? = some (sector, map')) :
      Tracks bits map' (insert sector.toNat numbers)
  /-- The sector that is marked is added. -/
  | mark {map map' : FreeMap} {numbers : Finset Nat} {sector : SectorId}
      (h : Tracks bits map numbers) (hmark : map.mark sector = .ok map') :
      Tracks bits map' (insert sector.toNat numbers)
  /-- The sector that is cleared is removed. -/
  | clear {map map' : FreeMap} {numbers : Finset Nat} {sector : SectorId}
      (h : Tracks bits map numbers) (hclear : map.clear sector = .ok map') :
      Tracks bits map' (numbers.erase sector.toNat)

/-- What a map of `bits` sectors tells about them is whether they are in the set. -/
structure Holds (map : FreeMap) (bits : Nat) (numbers : Finset Nat) : Prop where
  /-- The map covers the sectors below `bits`. -/
  size_eq : map.size = bits
  /-- The set has only such sectors. -/
  subset : numbers ⊆ Finset.range bits
  /-- A sector of the map is taken if it is in the set. -/
  lookup_eq_ok : ∀ sector : SectorId, sector.toNat < bits →
    map.lookup sector = .ok (decide (sector.toNat ∈ numbers))
  /-- Other sectors cannot be asked for. -/
  lookup_eq_error : ∀ sector : SectorId, bits ≤ sector.toNat →
    map.lookup sector = .error (.outOfBitmapRange sector.toNat)

/-! ## What the operations do to the taken sectors -/

theorem taken_subset_range (map : FreeMap) : map.taken ⊆ Finset.range map.size :=
  Finset.filter_subset _ _

/-- A map holds the set of its taken sectors. -/
theorem holds_taken (map : FreeMap) : map.Holds map.size map.taken where
  size_eq := rfl
  subset := map.taken_subset_range
  lookup_eq_ok := by
    intro sector hlt
    rw [FreeMap.lookup_eq_ok hlt]
    simp only [mem_taken, mem_iff, Bool.decide_eq_true]
  lookup_eq_error := by
    intro sector hle
    exact if_neg (Nat.not_lt.2 hle)

theorem taken_free (bits : Nat) : (free bits).taken = ∅ := by
  ext i
  simp [mem_iff]

/-- Of the bits in the bytes, those beyond the map do not count. -/
theorem taken_ofBytes (bits : Nat) (bytes : Bytes) :
    (ofBytes bits bytes).taken = bitNumbers bits bytes := by
  ext i
  rw [mem_taken, mem_iff, isTaken_ofBytes, bitNumbers, Finset.mem_filter, Finset.mem_range,
    Bool.and_eq_true, decide_eq_true_eq]

/-- A sector that is marked is added to the taken ones. -/
theorem taken_mark (h : map.mark sector = .ok map') :
    map'.taken = insert sector.toNat map.taken := by
  ext i
  rw [mem_taken, mem_iff, isTaken_put h, Finset.mem_insert, mem_taken, mem_iff]
  split <;> simp_all

/-- A sector that is cleared is removed from the taken ones. -/
theorem taken_clear (h : map.clear sector = .ok map') :
    map'.taken = map.taken.erase sector.toNat := by
  ext i
  rw [mem_taken, mem_iff, isTaken_put h, Finset.mem_erase, mem_taken, mem_iff]
  split <;> simp_all

/-- A sector that is taken is added to the taken ones. -/
theorem Takes.taken_eq (h : map.Takes [sector] map') :
    map'.taken = insert sector.toNat map.taken := by
  ext i
  rw [mem_taken, h.mem_iff, Finset.mem_insert, mem_taken, or_comm, @eq_comm _ i]
  simp only [List.mem_singleton, exists_eq_left]

/-- The one sector that is taken is the least that was not. -/
theorem Takes.isLeast (h : map.Takes [sector] map') :
    IsLeast {i | i < map.size ∧ i ∉ map.taken} sector.toNat := by
  have hself : sector ∈ [sector] := List.mem_singleton_self sector
  constructor
  · exact ⟨h.lt_size _ hself, by simpa using h.free _ hself⟩
  · rintro i ⟨-, hnot⟩
    by_contra hlt
    -- a lower sector that is free would have been taken as well
    rcases h.lowest _ hself i (Nat.lt_of_not_le hlt) with hmem | ⟨t, ht, rfl⟩
    · exact hnot (mem_taken.2 hmem)
    · exact hlt (Nat.le_of_eq (congrArg _ (List.mem_singleton.1 ht).symm))

/-- No sector can be taken exactly if all are. -/
theorem take?_eq_none_iff_taken : map.take? = none ↔ map.taken = Finset.range map.size := by
  have hcard := map.numFree_add_card_taken
  rw [take?_eq_none_iff]
  constructor
  · intro hzero
    refine Finset.eq_of_subset_of_card_le map.taken_subset_range ?_
    rw [Finset.card_range]
    omega
  · intro hall
    rw [hall, Finset.card_range] at hcard
    omega

/-- The marks that are set are never more than the sectors. -/
theorem count_marks_eq_card (map : FreeMap) : map.marks.count true = map.taken.card := by
  have hle : map.marks.count true ≤ map.size := Array.count_le_size.trans map.size_marks_le
  have hcard := map.numFree_add_card_taken
  rw [numFree] at hcard
  omega

/-! ## A map and its set -/

namespace Tracks

/-- No operation changes the size of a map. -/
theorem size_eq (h : Tracks bits map numbers) : map.size = bits := by
  induction h with
  | free => exact size_free bits
  | ofBytes bytes => exact size_ofBytes bits bytes
  | take h htake ih =>
    rw [take?] at htake
    split at htake
    · cases htake
      exact ih
    · cases htake
  | mark h hmark ih => exact (size_put hmark).trans ih
  | clear h hclear ih => exact (size_put hclear).trans ih

/-- The taken sectors are the numbers in the set, whatever led to the map. -/
theorem taken_eq (hbits : bits ≤ 2 ^ 32) (h : Tracks bits map numbers) : map.taken = numbers := by
  induction h with
  | free => exact taken_free bits
  | ofBytes bytes => exact taken_ofBytes bits bytes
  | take h htake ih =>
    -- with more sectors than there are sector numbers, the one handed out could be another
    have hsize := h.size_eq ▸ hbits
    rw [(takes_of_take? hsize htake).taken_eq, ih]
  | mark h hmark ih => rw [taken_mark hmark, ih]
  | clear h hclear ih => rw [taken_clear hclear, ih]

/-- A map tells of its sectors whether they are in the set. -/
theorem holds (hbits : bits ≤ 2 ^ 32) (h : Tracks bits map numbers) : map.Holds bits numbers := by
  rw [← h.size_eq, ← h.taken_eq hbits]
  exact map.holds_taken

/-- The sector handed out is the least number outside the set, and it is what comes in. -/
theorem take?_eq_some (hbits : bits ≤ 2 ^ 32) (h : Tracks bits map numbers)
    (htake : map.take? = some (sector, map')) :
    IsLeast {i | i < bits ∧ i ∉ numbers} sector.toNat ∧
      map'.Holds bits (insert sector.toNat numbers) := by
  have hleast := (takes_of_take? (h.size_eq ▸ hbits) htake).isLeast
  rw [h.size_eq, h.taken_eq hbits] at hleast
  exact ⟨hleast, (h.take htake).holds hbits⟩

/-- A sector of the map is marked, and added to the set. -/
theorem mark_eq (hbits : bits ≤ 2 ^ 32) (h : Tracks bits map numbers) (hlt : sector.toNat < bits) :
    ∃ map', map.mark sector = .ok map' ∧ map'.Holds bits (insert sector.toNat numbers) := by
  have hok : map.mark sector = .ok (map.set sector.toNat true (h.size_eq ▸ hlt)) :=
    dif_pos (h.size_eq ▸ hlt)
  exact ⟨_, hok, (h.mark hok).holds hbits⟩

/-- A sector of the map is cleared, and removed from the set. -/
theorem clear_eq (hbits : bits ≤ 2 ^ 32) (h : Tracks bits map numbers) (hlt : sector.toNat < bits) :
    ∃ map', map.clear sector = .ok map' ∧ map'.Holds bits (numbers.erase sector.toNat) := by
  obtain ⟨map', hok, -⟩ := exists_clear (h.size_eq ▸ hlt)
  exact ⟨map', hok, (h.clear hok).holds hbits⟩

/-- A sector beyond the map is neither marked nor cleared. -/
theorem put_eq_error (h : Tracks bits map numbers) (hle : bits ≤ sector.toNat) (taken : Bool) :
    map.put sector taken = .error (.outOfBitmapRange sector.toNat) :=
  put_eq_error_iff.2 ⟨h.size_eq ▸ hle, rfl⟩

/-- The free sectors are those outside the set, and subtracting does not go below zero. -/
theorem numFree_eq (hbits : bits ≤ 2 ^ 32) (h : Tracks bits map numbers) :
    map.marks.count true ≤ map.size ∧ numbers.card ≤ bits ∧ map.numFree = bits - numbers.card := by
  have hcard := map.numFree_add_card_taken
  rw [h.taken_eq hbits, h.size_eq] at hcard
  rw [count_marks_eq_card, h.taken_eq hbits, h.size_eq]
  omega

/-- Two maps are the same exactly if they are of one size and stand for the same set. -/
theorem eq_iff (hbits : bits ≤ 2 ^ 32) (hbits' : bits' ≤ 2 ^ 32) (h : Tracks bits map numbers)
    (h' : Tracks bits' map' numbers') : map = map' ↔ bits = bits' ∧ numbers = numbers' := by
  rw [← h.size_eq, ← h'.size_eq, ← h.taken_eq hbits, ← h'.taken_eq hbits']
  constructor
  · rintro rfl
    exact ⟨rfl, rfl⟩
  · rintro ⟨hsize, htaken⟩
    refine ext_mem hsize fun i => ?_
    rw [← mem_taken, htaken, mem_taken]

/-- A map that came about by any operations behaves as the set of numbers these lead to. Looking up
a sector asks the set, taking one adds the least number that is missing and fails only if none is,
marking and clearing add and remove the sector and are refused exactly beyond the map, what is free
is what is left, and maps are equal exactly if their sizes and sets are. -/
theorem operations_on_set (hbits : bits ≤ 2 ^ 32) (h : Tracks bits map numbers) :
    map.Holds bits numbers ∧
    (map.take? = none ↔ numbers = Finset.range bits) ∧
    (∀ sector map', map.take? = some (sector, map') →
      IsLeast {i | i < bits ∧ i ∉ numbers} sector.toNat ∧
        map'.Holds bits (insert sector.toNat numbers)) ∧
    (∀ sector : SectorId, sector.toNat < bits →
      (∃ map', map.mark sector = .ok map' ∧ map'.Holds bits (insert sector.toNat numbers)) ∧
      ∃ map', map.clear sector = .ok map' ∧ map'.Holds bits (numbers.erase sector.toNat)) ∧
    (∀ sector : SectorId, bits ≤ sector.toNat →
      map.mark sector = .error (.outOfBitmapRange sector.toNat) ∧
        map.clear sector = .error (.outOfBitmapRange sector.toNat)) ∧
    (map.marks.count true ≤ map.size ∧ numbers.card ≤ bits ∧ map.numFree = bits - numbers.card) ∧
    ∀ bits' map' numbers', bits' ≤ 2 ^ 32 → Tracks bits' map' numbers' →
      (map = map' ↔ bits = bits' ∧ numbers = numbers') := by
  have hnone : map.take? = none ↔ numbers = Finset.range bits := by
    rw [take?_eq_none_iff_taken, h.taken_eq hbits, h.size_eq]
  refine ⟨h.holds hbits, hnone, ?take, ?inside, ?beyond, h.numFree_eq hbits, ?same⟩
  case take =>
    intro sector map' htake
    exact h.take?_eq_some hbits htake
  case inside =>
    intro sector hlt
    exact ⟨h.mark_eq hbits hlt, h.clear_eq hbits hlt⟩
  case beyond =>
    intro sector hle
    exact ⟨h.put_eq_error hle true, h.put_eq_error hle false⟩
  case same =>
    intro bits' map' numbers' hbits' h'
    exact h.eq_iff hbits hbits' h'

/-- Bytes that are all ones fill a map of 70 sectors, the two ones beyond it do not count: a sector
that is cleared is the next to be taken, and then the map is full and what it was. -/
theorem take?_of_stray_bits :
    ∃ map map', (FreeMap.ofBytes 70 (List.replicate 9 255)).clear 65 = .ok map ∧
      map.take? = some (65, map') ∧ map' = FreeMap.ofBytes 70 (List.replicate 9 255) ∧
      map'.take? = none ∧ map'.numFree = 0 := by
  have hbits : 70 ≤ 2 ^ 32 := by decide
  have hfull : Tracks 70 (FreeMap.ofBytes 70 (List.replicate 9 255)) (Finset.range 70) := by
    have hall : bitNumbers 70 (List.replicate 9 255) = Finset.range 70 := by decide +kernel
    exact hall ▸ Tracks.ofBytes _
  obtain ⟨-, -, -, hinside, -, -, -⟩ := operations_on_set hbits hfull
  obtain ⟨map, hclear, -⟩ := (hinside 65 (by decide)).2
  have hcleared := hfull.clear hclear
  obtain ⟨-, hnone, hsome, -, -, -, -⟩ := operations_on_set hbits hcleared
  have hmissing : (Finset.range 70).erase (65 : SectorId).toNat ≠ Finset.range 70 := by decide
  obtain ⟨⟨sector, map'⟩, htake⟩ := Option.ne_none_iff_exists'.1 (mt hnone.1 hmissing)
  -- 65 is the only number that is missing
  have hsector : sector = 65 := by
    obtain ⟨hlt, hnot⟩ := (hsome sector map' htake).1.1
    rw [Finset.mem_erase, not_and'] at hnot
    exact UInt32.toNat_inj.1 (not_not.1 (hnot (Finset.mem_range.2 hlt)))
  subst hsector
  have hback := hcleared.take htake
  rw [Finset.insert_erase (by decide)] at hback
  obtain ⟨-, hfullAgain, -, -, -, ⟨-, -, hcount⟩, hsame⟩ := operations_on_set hbits hback
  refine ⟨map, map', hclear, htake, ?_, hfullAgain.2 rfl, by rw [hcount, Finset.card_range]⟩
  exact (hsame 70 _ _ hbits hfull).2 ⟨rfl, rfl⟩

end Tracks

end SectorStore.FreeMap
