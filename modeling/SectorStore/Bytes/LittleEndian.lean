import SectorStore.Bytes.Basic

/-!
# Little-endian words

Numbers on the disk are 32-bit words of four bytes, least significant byte first. `Bytes.ofWord`
and `Bytes.toWord` write and read one word, `Bytes.ofWords` and `Bytes.toWords` a table of them.
What is written as a word is read back as that word (`toWord_ofWord`).
-/

namespace SectorStore.Bytes

/-- The `width` bytes of `n`, least significant first; higher bits are dropped. -/
def littleEndian : (width : Nat) → (n : Nat) → Bytes
  | 0, _ => []
  | width + 1, n => UInt8.ofNat n :: littleEndian width (n / 256)

/-- The number whose bytes, least significant first, are the given ones. -/
def value : Bytes → Nat
  | [] => 0
  | b :: rest => b.toNat + 256 * value rest

/-- The four bytes of a word. -/
def ofWord (w : UInt32) : Bytes :=
  littleEndian 4 w.toNat

/-- The word in the first four bytes; missing bytes count as zero. -/
def toWord (bytes : Bytes) : UInt32 :=
  UInt32.ofNat (value (bytes.take 4))

/-- A table of words, one after another. -/
def ofWords (words : List UInt32) : Bytes :=
  words.flatMap ofWord

/-- The words of a table; bytes after the last whole word are dropped. -/
def toWords : Bytes → List UInt32
  | a :: b :: c :: d :: rest => toWord [a, b, c, d] :: toWords rest
  | _ => []

@[simp]
theorem length_littleEndian (width n : Nat) : (littleEndian width n).length = width := by
  induction width generalizing n with
  | zero => rfl
  | succ width ih => simp [littleEndian, ih]

/-- Reading back gives the number modulo the size of the field. -/
theorem value_littleEndian (width n : Nat) :
    value (littleEndian width n) = n % Nat.pow 256 width := by
  induction width generalizing n with
  | zero => simp [littleEndian, value, Nat.mod_one]
  | succ width ih =>
    have hpow : Nat.pow 256 (width + 1) = 256 * Nat.pow 256 width := Nat.mul_comm _ _
    rw [littleEndian, value, ih, hpow, Nat.mod_mul]
    rfl

@[simp]
theorem length_ofWord (w : UInt32) : (ofWord w).length = 4 :=
  length_littleEndian 4 _

@[simp]
theorem toWord_ofWord (w : UInt32) : toWord (ofWord w) = w := by
  have hw : w.toNat % Nat.pow 256 4 = w.toNat := Nat.mod_eq_of_lt w.toNat_lt
  rw [toWord, List.take_of_length_le (by simp), ofWord, value_littleEndian, hw]
  exact UInt32.ofNat_toNat

end SectorStore.Bytes
