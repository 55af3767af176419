import SectorStore.Bytes.Basic

/-!
# Byte listings

A listing shows bytes on a line: a printable ASCII character stands for itself, any other byte is
written as a backslash and its hexadecimal digits, without leading zeros.
-/

namespace SectorStore.ByteListing

/-- Whether a byte is listed as the character it encodes. -/
def IsPlain (b : UInt8) : Prop :=
  0x20 ≤ b ∧ b ≤ 0x7e

instance (b : UInt8) : Decidable (IsPlain b) :=
  inferInstanceAs (Decidable (_ ∧ _))

/-- The listing of one byte. -/
def ofByte (b : UInt8) : List Char :=
  if IsPlain b then [Char.ofUInt8 b] else '\\' :: Nat.toDigits 16 b.toNat

/-- The listing of bytes, one behind the other. -/
def ofBytes (bytes : Bytes) : String :=
  .ofList (bytes.flatMap ofByte)

end SectorStore.ByteListing
