import SectorStore.Bytes.Basic

/-!
# Text as bytes

Texts are stored as UTF-8. `Utf8.encode` gives the bytes of a text, `Utf8.decode?` reads them back
and refuses bytes that are no text, and `Utf8.fitting` is the longest beginning of a text, in whole
characters, that fits into a given number of bytes.
-/

namespace SectorStore.Utf8

/-- The bytes of a list of characters. -/
def encodeChars (chars : List Char) : Bytes :=
  chars.flatMap String.utf8EncodeChar

/-- The bytes of a text. -/
def encode (text : String) : Bytes :=
  encodeChars text.toList

/-- The text with the given bytes, if they are one. -/
def decode? (bytes : Bytes) : Option String :=
  String.fromUTF8? bytes.toByteArray

/-- The text with the given bytes, the empty one if they are none. -/
def decode (bytes : Bytes) : String :=
  (decode? bytes).getD ""

/-- The longest beginning of the given characters that takes at most `room` bytes. -/
def fitting : (room : Nat) → List Char → List Char
  | _, [] => []
  | room, c :: rest => if c.utf8Size ≤ room then c :: fitting (room - c.utf8Size) rest else []

@[simp]
theorem encodeChars_nil : encodeChars [] = [] :=
  rfl

@[simp]
theorem encodeChars_cons (c : Char) (rest : List Char) :
    encodeChars (c :: rest) = String.utf8EncodeChar c ++ encodeChars rest :=
  rfl

/-- What fits takes no more than the room. -/
theorem length_encodeChars_fitting (room : Nat) (chars : List Char) :
    (encodeChars (fitting room chars)).length ≤ room := by
  induction chars generalizing room with
  | nil => simp [fitting]
  | cons c rest ih =>
    rw [fitting]
    split
    · next h =>
      have := ih (room - c.utf8Size)
      rw [encodeChars_cons, List.length_append, String.length_utf8EncodeChar]
      omega
    · simp

/-- What fits is a beginning of the text. -/
theorem fitting_isPrefix (room : Nat) (chars : List Char) : fitting room chars <+: chars := by
  induction chars generalizing room with
  | nil => simp [fitting]
  | cons c rest ih =>
    rw [fitting]
    split
    · exact (List.prefix_cons_inj c).2 (ih _)
    · exact List.nil_prefix

/-- No longer beginning of the text would fit. -/
theorem isPrefix_fitting {room : Nat} {chars front : List Char} (h : front <+: chars)
    (fits : (encodeChars front).length ≤ room) : front <+: fitting room chars := by
  induction front generalizing room chars with
  | nil => exact List.nil_prefix
  | cons c front ih =>
    cases chars with
    | nil => simp at h
    | cons d rest =>
      obtain ⟨rfl, hrest⟩ := List.cons_prefix_cons.1 h
      rw [encodeChars_cons, List.length_append, String.length_utf8EncodeChar] at fits
      rw [fitting, if_pos (by omega)]
      exact (List.prefix_cons_inj c).2 (ih hrest (by omega))

end SectorStore.Utf8
