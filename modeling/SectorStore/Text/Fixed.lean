import SectorStore.Text.Utf8

/-!
# Text fields

A header stores its texts in fields of a fixed number of bytes. A text is cut to whole characters so
that at least one zero byte remains behind it, and line ends at its end are left out; it is read
back up to the first zero byte.
-/

namespace SectorStore

/-- A text field of `n` bytes. -/
structure FixedText (n : Nat) where
  /-- The bytes of the field. -/
  bytes : Vector UInt8 n
deriving DecidableEq

namespace FixedText

variable {n : Nat}

/-- The field of zeros, which reads as the empty text. -/
def blank : FixedText n :=
  ⟨.replicate n 0⟩

/-- The given characters without the line ends at their end. -/
def trimLineEnds (chars : List Char) : List Char :=
  (chars.reverse.dropWhile (· = '\n')).reverse

/-- The field that holds a text, cut where it does not fit. -/
def ofString (text : String) : FixedText n :=
  ⟨(Utf8.encodeChars (Utf8.fitting (n - 1) (trimLineEnds text.toList))).fit n⟩

/-- The text in a field, empty if the bytes are no text. -/
def text (field : FixedText n) : String :=
  Utf8.decode (Bytes.untilZero field.bytes.toList)

/-- The last byte of a field that holds a text is zero. -/
theorem ofString_getElem_last (text : String) (h : 0 < n) :
    (ofString text : FixedText n).bytes[n - 1] = 0 := by
  have := Utf8.length_encodeChars_fitting (n - 1) (trimLineEnds text.toList)
  simp [ofString, List.getElem?_eq_none this]

end FixedText

end SectorStore
