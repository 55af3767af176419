import Mathlib.Algebra.GroupWithZero.Nat
import SectorStore.Bytes.LittleEndian

/-!
# Fields of records

A record on the disk is a concatenation of fields, filled up with zeros. `slice_flatten` reads one
field back, and `toWords_ofWords_append` the words of a table in front of other bytes. Bytes that
are read as words are written back as they were (`ofWord_toWord`, `ofWords_take_toWords`).
-/

namespace SectorStore.Bytes

/-- A string that fits is followed by zeros. -/
theorem toList_fit {n : Nat} {bytes : Bytes} (h : bytes.length ≤ n) :
    (fit n bytes).toList = bytes ++ List.replicate (n - bytes.length) 0 := by
  simp [fit, Vector.toList, List.take_of_length_le h]

/-- Zeros that fill up a field are no part of what stands in front of the first zero. -/
theorem untilZero_fit {n : Nat} {bytes : Bytes} (h : bytes.length ≤ n) :
    untilZero (fit n bytes).toList = untilZero bytes := by
  have hzeros : (List.replicate (n - bytes.length) (0 : UInt8)).takeWhile (· != 0) = [] := by
    rw [List.takeWhile_replicate, if_neg (by decide)]
  rw [toList_fit h, untilZero, List.takeWhile_append, hzeros, List.append_nil]
  split
  · next heq => exact ((List.takeWhile_prefix _).eq_of_length heq).symm
  · rfl

/-- A vector is the fitted string of its bytes. -/
@[simp]
theorem fit_toList {n : Nat} (bytes : Vector UInt8 n) : fit n bytes.toList = bytes := by
  apply Vector.toList_inj.1
  exact toList_fit_of_length_eq (by simp)

/-- A field of a record is read at the place behind the fields in front of it. -/
theorem slice_flatten {fields : List Bytes} {start count : Nat} (i : Nat) (h : i < fields.length)
    (hstart : ((fields.take i).map List.length).sum = start) (hcount : fields[i].length = count) :
    slice fields.flatten start count = fields[i] := by
  have hfront : (fields.take i).flatten.length = start := by rw [List.length_flatten, hstart]
  have hsplit : fields.flatten =
      (fields.take i).flatten ++ (fields[i] ++ (fields.drop (i + 1)).flatten) := by
    rw [← List.flatten_cons, ← List.drop_eq_getElem_cons h, ← List.flatten_append,
      List.take_append_drop]
  rw [slice, hsplit, ← hfront, List.drop_left, ← hcount, List.take_left]

/-- Two slices one behind the other are one slice. -/
theorem slice_append (bytes : Bytes) (start m n : Nat) :
    bytes.slice start m ++ bytes.slice (start + m) n = bytes.slice start (m + n) := by
  rw [slice, slice, slice, ← List.drop_drop, ← List.take_add]

/-- A record of a table of records of the same length is read at a multiple of that length. -/
theorem slice_flatMap {α : Type} {f : α → Bytes} {n : Nat} (hlength : ∀ a, (f a).length = n)
    {records : List α} {i : Nat} (hi : i < records.length) :
    slice (records.flatMap f) (i * n) n = f records[i] := by
  rw [List.flatMap_def, slice_flatten i (by simpa using hi) ?_ (by simp [hlength]),
    List.getElem_map]
  rw [List.map_take, List.map_map]
  simp [Function.comp_def, hlength, List.map_const', Nat.min_eq_left (Nat.le_of_lt hi)]

@[simp]
theorem length_ofWords (words : List UInt32) : (ofWords words).length = 4 * words.length := by
  induction words with
  | nil => rfl
  | cons w words ih =>
    have h : ofWords (w :: words) = ofWord w ++ ofWords words := rfl
    rw [h, List.length_append, length_ofWord, ih, List.length_cons]
    omega

/-- A table in front of other bytes is read word for word. -/
theorem toWords_ofWords_append (words : List UInt32) (rest : Bytes) :
    toWords (ofWords words ++ rest) = words ++ toWords rest := by
  induction words with
  | nil => rfl
  | cons w words ih =>
    have h : ofWords (w :: words) = ofWord w ++ ofWords words := rfl
    obtain ⟨a, b, c, d, hw⟩ : ∃ a b c d, ofWord w = [a, b, c, d] := ⟨_, _, _, _, rfl⟩
    rw [h, List.append_assoc, hw]
    show toWord [a, b, c, d] :: toWords (ofWords words ++ rest) = w :: (words ++ toWords rest)
    rw [ih, ← hw, toWord_ofWord]

/-- Zero bytes are zero words. -/
theorem toWords_replicate_zero (count : Nat) :
    toWords (List.replicate (4 * count) 0) = List.replicate count 0 := by
  induction count with
  | zero => rfl
  | succ count ih =>
    have h : List.replicate (4 * (count + 1)) (0 : UInt8) =
        0 :: 0 :: 0 :: 0 :: List.replicate (4 * count) 0 := by
      rw [show 4 * (count + 1) = 4 * count + 1 + 1 + 1 + 1 by omega]
      simp only [List.replicate_succ]
    rw [h, toWords, ih, List.replicate_succ]
    rfl

/-- A string holds as many words as it has groups of four bytes. -/
theorem length_toWords (bytes : Bytes) : (toWords bytes).length = bytes.length / 4 := by
  fun_induction toWords bytes with
  | case1 a b c d rest ih =>
    simp only [List.length_cons, ih]
    omega
  | case2 bytes hshort =>
    have hlt : bytes.length < 4 := by
      apply Nat.lt_of_not_le
      intro hle
      match bytes, hshort with
      | a :: b :: c :: d :: rest, hshort => exact hshort a b c d rest rfl
    rw [List.length_nil, Nat.div_eq_of_lt hlt]

/-! ## Written back -/

/-- Bytes are written back as they were read. -/
theorem littleEndian_value (bytes : Bytes) : littleEndian bytes.length (value bytes) = bytes := by
  induction bytes with
  | nil => rfl
  | cons b rest ih =>
    have hlt : b.toNat < 256 := b.toNat_lt
    have hfirst : UInt8.ofNat (b.toNat + 256 * value rest) = b := by
      apply UInt8.toNat_inj.1
      rw [UInt8.toNat_ofNat']
      omega
    have hrest : (b.toNat + 256 * value rest) / 256 = value rest := by omega
    rw [List.length_cons, value, littleEndian, hfirst, hrest, ih]

theorem value_lt (bytes : Bytes) : value bytes < Nat.pow 256 bytes.length := by
  induction bytes with
  | nil => exact Nat.one_pos
  | cons b rest ih =>
    have hlt : b.toNat < 256 := b.toNat_lt
    have hpow : Nat.pow 256 (rest.length + 1) = 256 * Nat.pow 256 rest.length := Nat.mul_comm _ _
    rw [List.length_cons, value, hpow]
    omega

/-- Four bytes are those of the word that they are read as. -/
theorem ofWord_toWord {bytes : Bytes} (h : bytes.length = 4) : ofWord (toWord bytes) = bytes := by
  have hlt := value_lt bytes
  have hback := littleEndian_value bytes
  rw [h] at hlt hback
  have hnumber : (UInt32.ofNat (value bytes)).toNat = value bytes := UInt32.toNat_ofNat_of_lt hlt
  rw [toWord, List.take_of_length_le (Nat.le_of_eq h), ofWord, hnumber, hback]

/-- The words at the front of a table are written back as they were read. -/
theorem ofWords_take_toWords {bytes : Bytes} {n : Nat} (h : 4 * n ≤ bytes.length) :
    ofWords ((toWords bytes).take n) = bytes.take (4 * n) := by
  induction n generalizing bytes with
  | zero => rfl
  | succ n ih =>
    match bytes, h with
    | a :: b :: c :: d :: rest, h =>
      have hrest : 4 * n ≤ rest.length := by
        simp only [List.length_cons] at h
        omega
      have hword : ofWord (toWord [a, b, c, d]) = [a, b, c, d] := ofWord_toWord rfl
      rw [toWords, List.take_succ_cons, Nat.mul_succ]
      show ofWord (toWord [a, b, c, d]) ++ ofWords ((toWords rest).take n) = _
      rw [hword, ih hrest]
      rfl

end SectorStore.Bytes
