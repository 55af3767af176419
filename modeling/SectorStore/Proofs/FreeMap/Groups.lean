import Mathlib.Data.BitVec
import Mathlib.Data.List.GetD
import Mathlib.Data.Nat.Count
import SectorStore.FreeMap.Groups
import SectorStore.Proofs.FreeMap.RoundTrip
import SectorStore.Proofs.FreeMap.Taking

/-!
# Groups of marks and free maps

The operations on groups of 64 marks are those of the free map. `Groups.ofMap` packs the marks of a
map into groups, and `operations_ofMap` says that packing goes along with every operation: new
groups and groups read from bytes are those of the map that comes about in the same way, what the
groups answer is what the map answers, and the groups after it are those of the map after it. So the
operations meet no group that is missing and no count below zero, and groups that came about by
operations are equal exactly if the maps are (`ofMap_inj`).

Groups and maps are compared bit by bit. `wordBit` numbers the bits of the groups one after another
as `bitAt` does those of bytes, and `eq_ofMap` says that groups of the right number with the bits of
a map are its groups, so that for each operation it is left to say what it makes of single bits:

* `exists_firstZero?` for the search by whole groups, of which the lowest free sector comes;
* `setBit_ofMap` for the marks that are set and cleared;
* `countOnes_eq` for the number of ones, group by group;
* `wordBit_fill` and `bitAt_flatMap` for reading bytes and for writing them.
-/

namespace SectorStore.Groups

open FreeMap (bitAt bytesFor ext_bitAt)

variable {map map' : FreeMap} {groups : Groups} {word : BitVec 64} {words words' : List (BitVec 64)}
  {byte : UInt8} {bytes : Bytes} {bits i j k : Nat} {taken : Bool}

/-! ## The bits of the groups -/

/-- Bit number `i` of the words, the lowest bit of the first word being number 0; behind the words
all bits are zero. -/
def wordBit (words : List (BitVec 64)) (i : Nat) : Bool :=
  (words.getD (i / 64) 0).getLsbD (i % 64)

theorem wordBit_eq_of_lt (h : i / 64 < words.length) :
    wordBit words i = words[i / 64].getLsbD (i % 64) := by
  rw [wordBit, List.getD_eq_getElem?_getD, List.getElem?_eq_getElem h, Option.getD_some]

theorem wordBit_eq_false (h : words.length ≤ i / 64) : wordBit words i = false := by
  rw [wordBit, List.getD_eq_getElem?_getD, List.getElem?_eq_none h]
  simp

/-- The bits of a list of words are those of the first word and then those of the others. -/
theorem wordBit_cons (word : BitVec 64) (words : List (BitVec 64)) (i : Nat) :
    wordBit (word :: words) i = if i < 64 then word.getLsbD i else wordBit words (i - 64) := by
  split
  · next h =>
    rw [wordBit, Nat.div_eq_of_lt h, Nat.mod_eq_of_lt h]
    rfl
  · next h =>
    obtain ⟨i, rfl⟩ := Nat.exists_eq_add_of_le (Nat.le_of_not_lt h)
    have hdiv : (64 + i) / 64 = i / 64 + 1 := by omega
    rw [wordBit, hdiv, Nat.add_mod_left, Nat.add_sub_cancel_left]
    rfl

/-- Lists of words of one length are equal if their bits are. -/
theorem ext_wordBit (hlength : words.length = words'.length)
    (h : ∀ i, wordBit words i = wordBit words' i) : words = words' := by
  apply List.ext_getElem hlength
  intro j hj hj'
  apply BitVec.eq_of_getLsbD_eq
  intro k hk
  have hdiv : (64 * j + k) / 64 = j := by omega
  have hmod : (64 * j + k) % 64 = k := by omega
  have hbit := h (64 * j + k)
  rw [wordBit_eq_of_lt (by omega), wordBit_eq_of_lt (by omega)] at hbit
  simpa only [hdiv, hmod] using hbit

/-- A word that is changed has new bits, and the other words have theirs. -/
theorem wordBit_modify (h : j < words.length) (change : BitVec 64 → BitVec 64) (i : Nat) :
    wordBit (words.modify j change) i =
      if i / 64 = j then (change words[j]).getLsbD (i % 64) else wordBit words i := by
  rw [wordBit, List.getD_eq_getElem?_getD, List.getElem?_modify]
  split
  · next heq =>
    subst heq
    simp [h]
  · next hne => simp [wordBit, List.getD_eq_getElem?_getD, Ne.symm hne]

/-! ## The groups of a map -/

/-- The marks of a map in groups. -/
def ofMap (map : FreeMap) : Groups where
  bits := map.size
  words := (List.range (groupsFor map.size)).map fun j =>
    BitVec.ofNat 64 (FreeMap.packBits ((List.range 64).map fun k => map.isTaken (64 * j + k)))

theorem length_words_ofMap (map : FreeMap) : (ofMap map).words.length = groupsFor map.size := by
  simp [ofMap]

/-- A sector of the map has its bit in one of the groups. -/
theorem div_lt_length_ofMap (h : i < map.size) : i / 64 < (ofMap map).words.length := by
  rw [length_words_ofMap, groupsFor]
  omega

/-- The bit of a sector is set in the groups if the sector is taken. -/
theorem wordBit_ofMap (map : FreeMap) (i : Nat) : wordBit (ofMap map).words i = map.isTaken i := by
  rcases Nat.lt_or_ge (i / 64) (groupsFor map.size) with hlt | hge
  · have hmod : i % 64 < 64 := Nat.mod_lt _ (by omega)
    rw [wordBit_eq_of_lt (by rwa [length_words_ofMap])]
    simp only [ofMap, List.getElem_map, List.getElem_range, BitVec.getLsbD_ofNat,
      FreeMap.testBit_packBits, decide_eq_true hmod, Bool.true_and]
    simp [List.getD_eq_getElem?_getD, hmod, Nat.div_add_mod]
  · -- behind the groups there is no sector, so no bit is missing
    rw [wordBit_eq_false (by rwa [length_words_ofMap]), FreeMap.isTaken_eq_false]
    rw [groupsFor] at hge
    omega

/-- Groups of the right number are those of a map if their bits are. -/
theorem eq_ofMap (hbits : groups.bits = map.size)
    (hlength : groups.words.length = groupsFor map.size)
    (h : ∀ i, wordBit groups.words i = map.isTaken i) : groups = ofMap map := by
  have hwords : groups.words = (ofMap map).words := by
    apply ext_wordBit (hlength.trans (length_words_ofMap map).symm)
    intro i
    rw [h, wordBit_ofMap]
  cases groups
  exact congr (congrArg Groups.mk hbits) hwords

/-- The groups tell the size of a map and all of its marks. -/
theorem ofMap_inj : ofMap map = ofMap map' ↔ map = map' := by
  refine ⟨fun heq => ?_, congrArg ofMap⟩
  apply FreeMap.ext_isTaken (congrArg Groups.bits heq)
  intro i
  rw [← wordBit_ofMap, heq, wordBit_ofMap]

theorem wordBit_replicate (n i : Nat) : wordBit (List.replicate n 0) i = false := by
  rw [wordBit, List.getD_eq_getElem?_getD, List.getElem?_replicate]
  split <;> simp

/-- New groups are those of a map of free sectors. -/
theorem new_eq (bits : Nat) : new bits = ofMap (FreeMap.free bits) := by
  refine eq_ofMap rfl (by simp [new]) fun i => ?_
  rw [new, wordBit_replicate, FreeMap.isTaken_free]

/-! ## Marks -/

/-- Setting a bit of a word changes this bit only. -/
theorem getLsbD_withBit {k l : Nat} {bit : Bool} (word : BitVec 64) (hl : l < 64) :
    (withBit k bit word).getLsbD l = if l = k then bit else word.getLsbD l := by
  rw [withBit]
  cases bit with
  | true =>
    rw [if_pos rfl, BitVec.getLsbD_or, BitVec.getLsbD_twoPow]
    split
    · next heq => simp [heq ▸ hl, heq]
    · next hne => simp [Ne.symm hne]
  | false =>
    rw [if_neg (by decide), BitVec.getLsbD_and, BitVec.getLsbD_not, BitVec.getLsbD_twoPow]
    split
    · next heq => simp [heq ▸ hl, heq]
    · next hne => simp [hl, Ne.symm hne]

/-- Setting the bit of a sector gives the groups of the map with its mark set. -/
theorem setBit_ofMap (h : i < map.size) :
    (ofMap map).setBit (i / 64) (i % 64) taken = .ok (ofMap (map.set i taken h)) := by
  have hlt := div_lt_length_ofMap h
  rw [setBit, if_pos hlt]
  refine congrArg _ (eq_ofMap rfl ?_ fun l => ?_)
  · rw [List.length_modify, length_words_ofMap, FreeMap.size_set]
  · rw [wordBit_modify hlt, FreeMap.isTaken_set, ← wordBit_ofMap]
    split
    · next heq =>
      have hplace : l % 64 = i % 64 ↔ l = i := by omega
      have hword := wordBit_eq_of_lt (heq ▸ hlt)
      simp only [heq] at hword
      rw [getLsbD_withBit _ (Nat.mod_lt _ (by omega)), hword]
      simp only [hplace]
    · next hne =>
      rw [if_neg]
      rintro rfl
      exact hne rfl

/-- A sector of the map is located in its group, and others are not found. -/
theorem locate_ofMap (map : FreeMap) (sector : SectorId) :
    (ofMap map).locate sector =
      if sector.toNat < map.size then .ok (sector.toNat / 64, sector.toNat % 64)
      else .error (.outOfBitmapRange sector.toNat) :=
  rfl

/-- A mark is set in the groups as in the map, or refused in both. -/
theorem put_ofMap (map : FreeMap) (sector : SectorId) (taken : Bool) :
    (ofMap map).put sector taken = (map.put sector taken).map ofMap := by
  rw [put, locate_ofMap, FreeMap.put]
  by_cases h : sector.toNat < map.size
  · rw [dif_pos h, if_pos h]
    exact setBit_ofMap h
  · rw [dif_neg h, if_neg h]
    rfl

/-- The groups tell of a sector what the map tells. -/
theorem test_ofMap (map : FreeMap) (sector : SectorId) :
    (ofMap map).test sector = map.lookup sector := by
  rw [test, locate_ofMap, FreeMap.lookup]
  by_cases h : sector.toNat < map.size
  · have hlt := div_lt_length_ofMap h
    rw [if_pos h, if_pos h, ← wordBit_ofMap, wordBit_eq_of_lt hlt]
    simp only [bind, Except.bind, List.getElem?_eq_getElem hlt, BitVec.and_twoPow]
    cases hbit : (ofMap map).words[sector.toNat / 64].getLsbD (sector.toNat % 64) with
    | true =>
      have hone : BitVec.twoPow 64 (sector.toNat % 64) ≠ 0 := by
        intro hzero
        have hbit := congrArg (·.getLsbD (sector.toNat % 64)) hzero
        have hmod : sector.toNat % 64 < 64 := Nat.mod_lt _ (by omega)
        simp [hmod] at hbit
      rw [if_pos rfl, bne_iff_ne.2 hone]
      rfl
    | false => rfl
  · rw [if_neg h, if_neg h]
    rfl

/-! ## The search -/

theorem ne_zero_of_ne_allOnes (h : word ≠ BitVec.allOnes 64) : ~~~word ≠ 0 := by
  intro hzero
  apply h
  rw [← BitVec.not_not (b := word), hzero]
  rfl

/-- The ones at the low end of a word that is not full are followed by a zero. -/
theorem getLsbD_trailingOnes (h : word ≠ BitVec.allOnes 64) :
    trailingOnes word < 64 ∧ word.getLsbD (trailingOnes word) = false := by
  have hbit := BitVec.getLsbD_true_ctz_of_ne_zero (ne_zero_of_ne_allOnes h)
  rw [BitVec.getLsbD_not, Bool.and_eq_true, decide_eq_true_eq, Bool.not_eq_true'] at hbit
  exact hbit

/-- The ones at the low end of a word are ones. -/
theorem getLsbD_of_lt_trailingOnes (hk : k < 64) (h : k < trailingOnes word) :
    word.getLsbD k = true := by
  have hbit := BitVec.getLsbD_false_of_lt_ctz h
  rw [BitVec.getLsbD_not, decide_eq_true hk, Bool.true_and, Bool.not_eq_false'] at hbit
  exact hbit

/-- The words are full, or the search finds the lowest zero in them. -/
theorem exists_firstZero? (words : List (BitVec 64)) :
    (firstZero? words = none ∧ ∀ i < 64 * words.length, wordBit words i = true) ∨
    ∃ j k, firstZero? words = some (j, k) ∧ j < words.length ∧ k < 64 ∧
      wordBit words (j * 64 + k) = false ∧ ∀ i < j * 64 + k, wordBit words i = true := by
  induction words with
  | nil => exact .inl ⟨rfl, fun i hi => absurd hi (Nat.not_lt_zero i)⟩
  | cons word words ih =>
    by_cases hfull : word = BitVec.allOnes 64
    · -- the bits of the first word are ones, and the others are searched
      have hones : ∀ i < 64, word.getLsbD i = true := by
        intro i hi
        rw [hfull, BitVec.getLsbD_allOnes, decide_eq_true hi]
      rcases ih with ⟨hnone, hall⟩ | ⟨j, k, hsome, hj, hk, hzero, hbelow⟩
      · refine .inl ⟨by rw [firstZero?, if_pos hfull, hnone, Option.map_none], fun i hi => ?_⟩
        rw [List.length_cons] at hi
        rw [wordBit_cons]
        split
        · next hlt => exact hones i hlt
        · next hge => exact hall _ (by omega)
      · refine .inr ⟨j + 1, k, by rw [firstZero?, if_pos hfull, hsome, Option.map_some],
          Nat.succ_lt_succ hj, hk, ?_, fun i hi => ?_⟩
        · have hplace : (j + 1) * 64 + k - 64 = j * 64 + k := by omega
          rw [wordBit_cons, if_neg (by omega), hplace, hzero]
        · rw [wordBit_cons]
          split
          · next hlt => exact hones i hlt
          · next hge => exact hbelow _ (by omega)
    · -- the first word has a zero, and its trailing ones are the bits below the lowest one
      obtain ⟨hlt, hzero⟩ := getLsbD_trailingOnes hfull
      refine .inr ⟨0, trailingOnes word, by rw [firstZero?, if_neg hfull], Nat.succ_pos _, hlt, ?_,
        fun i hi => ?_⟩
      · rw [wordBit_cons, if_pos (by omega), Nat.zero_mul, Nat.zero_add, hzero]
      · rw [wordBit_cons, if_pos (by omega)]
        exact getLsbD_of_lt_trailingOnes (by omega) (by omega)

/-- The lowest free number of a map is a free one with taken ones below. -/
theorem firstFree_eq (hfree : map.isTaken i = false) (hbelow : ∀ j < i, map.isTaken j = true) :
    map.firstFree = i := by
  rcases Nat.lt_trichotomy map.firstFree i with hlt | heq | hgt
  · have htaken := hbelow _ hlt
    rw [FreeMap.isTaken_firstFree] at htaken
    cases htaken
  · exact heq
  · rw [FreeMap.isTaken_of_lt_firstFree hgt] at hfree
    cases hfree

/-- The search in the groups finds the lowest free sector of the map, or none in both. -/
theorem find_ofMap (map : FreeMap) :
    (ofMap map).find = .ok (map.take?.map fun (sector, map') => (sector, ofMap map')) := by
  have hbits : (ofMap map).bits = map.size := rfl
  rw [find, FreeMap.take?]
  rcases exists_firstZero? (ofMap map).words with
    ⟨hnone, hall⟩ | ⟨j, k, hsome, -, hk, hzero, hbelow⟩
  · -- all bits are ones, so the map has no free sector
    have hle : map.size ≤ map.firstFree := by
      by_contra hlt
      have htaken := hall map.firstFree ?_
      · rw [wordBit_ofMap, FreeMap.isTaken_firstFree] at htaken
        cases htaken
      · rw [length_words_ofMap, groupsFor]
        omega
    rw [hnone, dif_neg (Nat.not_lt.2 hle)]
    rfl
  · simp only [wordBit_ofMap] at hzero hbelow
    have hfirst := firstFree_eq hzero hbelow
    have hdiv : map.firstFree / 64 = j := by omega
    have hmod : map.firstFree % 64 = k := by omega
    rw [hsome, hbits]
    dsimp only
    rw [← hfirst]
    -- the zero that is found may be one of the unused bits in the last group
    by_cases hlt : map.firstFree < map.size
    · rw [dif_pos hlt, if_neg (Nat.not_le.2 hlt), ← hdiv, ← hmod, setBit_ofMap hlt]
      rfl
    · rw [dif_neg hlt, if_pos (Nat.not_lt.1 hlt)]
      rfl

/-! ## Counting -/

/-- The ones in a word are the places at which its bit is set. -/
theorem toNat_cpop (word : BitVec 64) :
    word.cpop.toNat = Nat.count (word.getLsbD · = true) 64 := by
  have hcount : ∀ n, word.cpopNatRec n 0 = Nat.count (word.getLsbD · = true) n := by
    intro n
    induction n with
    | zero => rfl
    | succ n ih =>
      rw [BitVec.cpopNatRec_succ, Nat.zero_add, BitVec.cpopNatRec_eq, ih, Nat.count_succ]
      cases word.getLsbD n <;> rfl
  have hle : word.cpopNatRec 64 0 ≤ 0 + 64 := BitVec.cpopNatRec_le 64
  rw [← hcount, BitVec.cpop, BitVec.toNat_ofNat, Nat.mod_eq_of_lt (by omega)]

/-- The ones in the words are the places at which the bit is set. -/
theorem countOnes_eq (words : List (BitVec 64)) :
    countOnes words = Nat.count (wordBit words · = true) (64 * words.length) := by
  induction words with
  | nil => rfl
  | cons word words ih =>
    have hfirst : Nat.count (wordBit (word :: words) · = true) 64 = word.cpop.toNat := by
      rw [toNat_cpop, Nat.count_eq_card_filter_range, Nat.count_eq_card_filter_range]
      refine congrArg Finset.card (Finset.filter_congr fun i hi => ?_)
      rw [wordBit_cons, if_pos (Finset.mem_range.1 hi)]
    have hrest : (fun i => wordBit (word :: words) (64 + i) = true) = (wordBit words · = true) := by
      funext i
      rw [wordBit_cons, if_neg (by omega), Nat.add_sub_cancel_left]
    have hsum : 64 * (word :: words).length = 64 + 64 * words.length := by
      rw [List.length_cons]
      omega
    rw [hsum, Nat.count_add, hfirst]
    simp only [hrest, ← ih]
    rfl

/-- There are as many ones in the groups of a map as sectors that are taken. -/
theorem countOnes_ofMap (map : FreeMap) : countOnes (ofMap map).words = map.taken.card := by
  rw [countOnes_eq, Nat.count_eq_card_filter_range]
  congr 1
  ext i
  rw [Finset.mem_filter, Finset.mem_range, wordBit_ofMap, FreeMap.mem_taken, FreeMap.mem_iff,
    and_iff_right_iff_imp, length_words_ofMap, groupsFor]
  intro htaken
  have hlt := FreeMap.lt_size_of_isTaken htaken
  omega

/-- The groups have as many free sectors as the map, and counting them does not go below zero. -/
theorem numClear_ofMap (map : FreeMap) : (ofMap map).numClear = .ok map.numFree := by
  have hcard := map.numFree_add_card_taken
  have hbits : (ofMap map).bits = map.size := rfl
  rw [numClear, countOnes_ofMap, hbits, if_neg (by omega), ← hcard, Nat.add_sub_cancel]

/-! ## Bytes -/

/-- The bits of a byte string are those of the first byte and then those of the others. -/
theorem bitAt_cons (byte : UInt8) (bytes : Bytes) (i : Nat) :
    bitAt (byte :: bytes) i = if i < 8 then byte.toNat.testBit i else bitAt bytes (i - 8) := by
  split
  · next h =>
    rw [bitAt, Nat.div_eq_of_lt h, Nat.mod_eq_of_lt h]
    rfl
  · next h =>
    obtain ⟨i, rfl⟩ := Nat.exists_eq_add_of_le (Nat.le_of_not_lt h)
    have hdiv : (8 + i) / 8 = i / 8 + 1 := by omega
    rw [bitAt, hdiv, Nat.add_mod_left, Nat.add_sub_cancel_left]
    rfl

theorem bitAt_nil (i : Nat) : bitAt [] i = false :=
  Nat.zero_testBit _

/-- Bytes that are cut off leave zeros. -/
theorem bitAt_take (bytes : Bytes) (n i : Nat) :
    bitAt (bytes.take n) i = (decide (i < 8 * n) && bitAt bytes i) := by
  rw [bitAt, bitAt, List.getD_eq_getElem?_getD, List.getElem?_take, List.getD_eq_getElem?_getD]
  have hiff : i / 8 < n ↔ i < 8 * n := by omega
  by_cases h : i < 8 * n
  · rw [if_pos (hiff.2 h), decide_eq_true h, Bool.true_and]
  · rw [if_neg (mt hiff.1 h), decide_eq_false h]
    exact Nat.zero_testBit _

/-- Bytes that are dropped in front move the others up. -/
theorem bitAt_drop (bytes : Bytes) (n i : Nat) :
    bitAt (bytes.drop n) i = bitAt bytes (8 * n + i) := by
  have hdiv : (8 * n + i) / 8 = n + i / 8 := by omega
  rw [bitAt, bitAt, List.getD_eq_getElem?_getD, List.getElem?_drop, hdiv, Nat.mul_add_mod,
    List.getD_eq_getElem?_getD]

/-- The bits of a number are those of its bytes. -/
theorem testBit_value (bytes : Bytes) (i : Nat) :
    (Bytes.value bytes).testBit i = bitAt bytes i := by
  induction bytes generalizing i with
  | nil => rw [Bytes.value, Nat.zero_testBit, bitAt_nil]
  | cons byte bytes ih =>
    have hbyte : byte.toNat < 2 ^ 8 := byte.toNat_lt
    rw [Bytes.value, Nat.add_comm, Nat.testBit_two_pow_mul_add _ hbyte, bitAt_cons, ih]

/-- The bits of the bytes of a number are those of the number, as far as there are bytes. -/
theorem bitAt_littleEndian (width n i : Nat) :
    bitAt (Bytes.littleEndian width n) i = (decide (i < 8 * width) && n.testBit i) := by
  rw [← testBit_value, Bytes.value_littleEndian]
  have hpow : Nat.pow 256 width = 2 ^ (8 * width) := (Nat.pow_mul 2 8 width).symm
  rw [hpow, Nat.testBit_mod_two_pow]

/-- The bits of the bytes of a list of words are those of the words. -/
theorem bitAt_flatMap (words : List (BitVec 64)) (i : Nat) :
    bitAt (words.flatMap fun word => Bytes.littleEndian 8 word.toNat) i = wordBit words i := by
  induction words generalizing i with
  | nil => rw [List.flatMap_nil, bitAt_nil, wordBit_eq_false (Nat.zero_le _)]
  | cons word words ih =>
    rw [List.flatMap_cons, wordBit_cons, ← ih]
    have hlength := Bytes.length_littleEndian 8 word.toNat
    split
    · next h =>
      have hword := bitAt_littleEndian 8 word.toNat i
      rw [decide_eq_true h, Bool.true_and, BitVec.testBit_toNat] at hword
      rw [← hword, bitAt, bitAt, List.getD_append _ _ _ _ (by omega)]
    · next h =>
      have hdiv : i / 8 - 8 = (i - 64) / 8 := by omega
      have hmod : i % 8 = (i - 64) % 8 := by omega
      rw [bitAt, bitAt, List.getD_append_right _ _ _ _ (by omega), hlength, hdiv, hmod]

/-- The bytes of the groups are those of the map. -/
theorem toBytes_ofMap (map : FreeMap) : (ofMap map).toBytes = map.toBytes := by
  have hbits : (ofMap map).bits = map.size := rfl
  have hlength : ∀ words : List (BitVec 64),
      (words.flatMap fun word => Bytes.littleEndian 8 word.toNat).length = 8 * words.length := by
    intro words
    simp [List.length_flatMap, Nat.mul_comm]
  apply ext_bitAt
  · rw [toBytes, List.length_take, hlength, length_words_ofMap, FreeMap.length_toBytes, groupsFor,
      hbits, bytesFor]
    omega
  · intro i
    rw [toBytes, bitAt_take, bitAt_flatMap, wordBit_ofMap, FreeMap.bitAt_toBytes, hbits]
    by_cases h : i < 8 * bytesFor map.size
    · rw [decide_eq_true h, Bool.true_and]
    · -- behind the bytes there is no sector
      rw [decide_eq_false h, Bool.false_and, FreeMap.isTaken_eq_false]
      rw [bytesFor] at h
      omega

theorem length_fill (words : List (BitVec 64)) (bytes : Bytes) :
    (fill words bytes).length = words.length := by
  fun_induction fill words bytes with
  | case1 => rfl
  | case2 => rfl
  | case3 word words byte bytes ih => rw [List.length_cons, ih, List.length_cons]

/-- Filling zero words with bytes gives them the bits of the bytes. -/
theorem wordBit_fill (n : Nat) (bytes : Bytes) (i : Nat) :
    wordBit (fill (List.replicate n 0) bytes) i = (decide (i < 64 * n) && bitAt bytes i) := by
  induction n generalizing bytes i with
  | zero => rw [List.replicate_zero, fill, wordBit_eq_false (Nat.zero_le _)]; rfl
  | succ n ih =>
    cases bytes with
    | nil =>
      rw [List.replicate_succ, fill, ← List.replicate_succ, wordBit_replicate, bitAt_nil,
        Bool.and_false]
      exact List.cons_ne_nil _ _
    | cons byte bytes =>
      rw [List.replicate_succ, fill, wordBit_cons, ih, bitAt_drop, BitVec.getLsbD_ofNat,
        testBit_value, bitAt_take]
      split
      · next h => simp [h, Nat.lt_of_lt_of_le h (Nat.le_mul_of_pos_right 64 (Nat.succ_pos n))]
      · next h =>
        have hplace : 8 * 8 + (i - 64) = i := by omega
        have hiff : i - 64 < 64 * n ↔ i < 64 * (n + 1) := by omega
        rw [hplace, decide_eq_decide.2 hiff]

/-- The word of `k` ones at the low end. -/
theorem getLsbD_twoPow_sub_one {k : Nat} (hk : k < 64) (l : Nat) :
    (BitVec.twoPow 64 k - 1).getLsbD l = decide (l < k) := by
  have hlt : 2 ^ k < 2 ^ 64 := Nat.pow_lt_pow_right (by decide) hk
  have hpow : (BitVec.twoPow 64 k).toNat = 2 ^ k := by
    rw [BitVec.toNat_twoPow, Nat.mod_eq_of_lt hlt]
  have hone : (1 : BitVec 64) ≤ BitVec.twoPow 64 k := by
    rw [BitVec.le_def, hpow]
    exact Nat.one_le_two_pow
  rw [← BitVec.testBit_toNat, BitVec.toNat_sub_of_le hone, hpow]
  exact Nat.testBit_two_pow_sub_one k l

/-- Groups that are read from bytes are those of the map that is. -/
theorem ofBytes_eq (bits : Nat) (bytes : Bytes) :
    ofBytes bits bytes = ofMap (FreeMap.ofBytes bits bytes) := by
  have hlength : (fill (new bits).words bytes).length = groupsFor bits := by
    rw [length_fill, new, List.length_replicate]
  refine eq_ofMap rfl ?_ fun i => ?_
  · rw [ofBytes]
    split <;> simp [hlength]
  · rw [FreeMap.isTaken_ofBytes, ← bitAt, ofBytes]
    dsimp only
    split
    · next h =>
      rw [new, wordBit_fill, groupsFor]
      have hiff : i < 64 * ((bits + 63) / 64) ↔ i < bits := by omega
      rw [decide_eq_decide.2 hiff]
    · next h =>
      -- of the last word only the bits of sectors are left
      have hlast : (fill (new bits).words bytes).length - 1 = bits / 64 := by
        rw [hlength, groupsFor]
        omega
      have hlt : bits / 64 < (fill (new bits).words bytes).length := by
        rw [hlength, groupsFor]
        omega
      have hword : wordBit (fill (new bits).words bytes) i =
          (decide (i < 64 * groupsFor bits) && bitAt bytes i) := wordBit_fill _ bytes i
      rw [hlast, wordBit_modify hlt, BitVec.getLsbD_and,
        getLsbD_twoPow_sub_one (Nat.mod_lt _ (by omega))]
      split
      · next heq =>
        have hbit := wordBit_eq_of_lt (heq ▸ hlt)
        simp only [heq] at hbit
        have hkept : i % 64 < bits % 64 ↔ i < bits := by omega
        have hinside : i < 64 * groupsFor bits := by
          rw [groupsFor]
          omega
        rw [← hbit, hword, decide_eq_true hinside, Bool.true_and, decide_eq_decide.2 hkept,
          Bool.and_comm]
      · next hne =>
        have hiff : i < 64 * groupsFor bits ↔ i < bits := by
          rw [groupsFor]
          omega
        rw [hword, decide_eq_decide.2 hiff]

/-! ## The operations -/

/-- Packing the marks of a map into groups goes along with all operations: they are made anew and
read from bytes alike, they answer alike, and what they leave is alike. Different maps have
different groups. -/
theorem operations_ofMap :
    (∀ bits, new bits = ofMap (.free bits)) ∧
    (∀ bits bytes, ofBytes bits bytes = ofMap (.ofBytes bits bytes)) ∧
    ∀ map : FreeMap,
      (ofMap map).find = .ok (map.take?.map fun (sector, map') => (sector, ofMap map')) ∧
      (∀ sector, (ofMap map).mark sector = (map.mark sector).map ofMap ∧
        (ofMap map).clear sector = (map.clear sector).map ofMap ∧
        (ofMap map).test sector = map.lookup sector) ∧
      (ofMap map).numClear = .ok map.numFree ∧
      (ofMap map).toBytes = map.toBytes ∧
      ∀ map', ofMap map = ofMap map' ↔ map = map' := by
  refine ⟨new_eq, ofBytes_eq, fun map => ⟨find_ofMap map, fun sector => ?_, numClear_ofMap map,
    toBytes_ofMap map, fun _ => ofMap_inj⟩⟩
  exact ⟨put_ofMap map sector true, put_ofMap map sector false, test_ofMap map sector⟩

end SectorStore.Groups
