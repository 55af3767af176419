/-!
# Byte strings

Byte strings of any length, and the ways in which they meet fields of a fixed width:
`Bytes.fit` cuts or pads a string to a width, `Bytes.splice` lays one string over a part of
another, and a `Filling` records how far a transfer has filled a caller's buffer.
-/

namespace SectorStore

/-- A byte string. -/
abbrev Bytes := List UInt8

namespace Bytes

/-- The first `n` bytes of `bytes`, filled up with zeros where `bytes` is shorter. -/
def fit (n : Nat) (bytes : Bytes) : Vector UInt8 n :=
  ⟨(bytes.take n ++ List.replicate (n - bytes.length) 0).toArray, by simp; omega⟩

/-- The byte string `bytes` with `data` laid over it from position `start` on. -/
def splice (bytes : Bytes) (start : Nat) (data : Bytes) : Bytes :=
  bytes.take start ++ data ++ bytes.drop (start + data.length)

/-- The `count` bytes of `bytes` from position `start` on, or what there is of them. -/
def slice (bytes : Bytes) (start count : Nat) : Bytes :=
  (bytes.drop start).take count

/-- The part of `bytes` in front of the first zero byte, all of it if there is none. -/
def untilZero (bytes : Bytes) : Bytes :=
  bytes.takeWhile (· != 0)

/-- Byte `i` of a fitted string is byte `i` of the string, and zero past its end. -/
@[simp]
theorem getElem_fit (n : Nat) (bytes : Bytes) (i : Nat) (h : i < n) :
    (fit n bytes)[i] = bytes.getD i 0 := by
  simp only [fit, Vector.getElem_mk, List.getElem_toArray, List.getD_eq_getElem?_getD]
  by_cases hi : i < bytes.length
  · rw [List.getElem_append_left (by simp; omega)]
    simp [hi]
  · rw [List.getElem_append_right (by simp; omega)]
    simp [hi]

/-- Fitting a string of exactly the width changes nothing. -/
theorem toList_fit_of_length_eq {n : Nat} {bytes : Bytes} (h : bytes.length = n) :
    (fit n bytes).toList = bytes := by
  subst h
  simp [fit, Vector.toList]

/-- A splice that stays inside the string keeps its length. -/
theorem length_splice {bytes data : Bytes} {start : Nat}
    (h : start + data.length ≤ bytes.length) :
    (splice bytes start data).length = bytes.length := by
  simp only [splice, List.length_append, List.length_take, List.length_drop]
  omega

/-- A splice that starts inside the string shows its data where it lies, and the old bytes
elsewhere. -/
theorem getD_splice {bytes data : Bytes} {start : Nat} (h : start ≤ bytes.length) (i : Nat) :
    (splice bytes start data).getD i 0 =
      if i < start then bytes.getD i 0
      else if i - start < data.length then data.getD (i - start) 0 else bytes.getD i 0 := by
  have hstart : (bytes.take start).length = start := by simp [h]
  simp only [splice, List.getD_eq_getElem?_getD, List.append_assoc]
  by_cases h1 : i < start
  · rw [if_pos h1, List.getElem?_append_left (by omega), List.getElem?_take_of_lt h1]
  · rw [if_neg h1, List.getElem?_append_right (by omega), hstart]
    by_cases h2 : i - start < data.length
    · rw [if_pos h2, List.getElem?_append_left h2]
    · rw [if_neg h2, List.getElem?_append_right (by omega), List.getElem?_drop]
      congr 2
      omega

end Bytes

/-- What a transfer has done to the buffer that the caller handed in. -/
structure Filling where
  /-- The number of bytes transferred. -/
  count : Nat
  /-- The buffer after the transfer, as long as it was before. -/
  buffer : Bytes
deriving DecidableEq, Repr

/-- The transfer that puts `bytes` at the front of `buffer` and leaves the rest of it alone. -/
def Filling.front (buffer bytes : Bytes) : Filling where
  count := bytes.length
  buffer := buffer.splice 0 bytes

end SectorStore
