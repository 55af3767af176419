import SectorStore.Proofs.Text.Utf8
import SectorStore.Text.Fixed

/-!
# Cutting a text by its bytes

`Utf8.fitting` cuts a text character by character, from its front. One can also cut its bytes where
the room ends, and step back from there until a character begins, or the text ends. `stepBack?` does
so, and gives no result if it would have to step below position zero. `FixedText.ofString?` fills a
field in this way.

* `isBoundary_encodeChars_iff`: the positions at which the way back may end are the lengths of the
  beginnings of the text, whatever the widths of its characters are;
* `stepBack?_encodeChars`: it always ends, and does so behind what fits;
* `FixedText.ofString?_eq`: so the field is always filled, and as `FixedText.ofString` does it.
-/

namespace SectorStore

namespace Utf8

variable {bytes front back : Bytes} {low pos : Nat}

/-- A character begins at a position of the bytes of a text, or the text ends there. -/
def IsBoundary (bytes : Bytes) (pos : Nat) : Prop :=
  pos = bytes.length ∨ ∃ h : pos < bytes.length, bytes[pos].IsUTF8FirstByte

instance : Decidable (IsBoundary bytes pos) :=
  inferInstanceAs (Decidable (_ ∨ _))

/-- Steps back from a position until a character begins there or the text ends there. There is no
result if that is not so at position zero either. -/
def stepBack? (bytes : Bytes) : (pos : Nat) → Option Nat
  | 0 => if IsBoundary bytes 0 then some 0 else none
  | pos + 1 => if IsBoundary bytes (pos + 1) then some (pos + 1) else stepBack? bytes pos

/-- The first boundary on the way back is the result. -/
theorem stepBack?_eq_some (hlow : IsBoundary bytes low) (hle : low ≤ pos)
    (hnone : ∀ mid, low < mid → mid ≤ pos → ¬ IsBoundary bytes mid) :
    stepBack? bytes pos = some low := by
  induction pos with
  | zero =>
    obtain rfl : low = 0 := Nat.le_zero.1 hle
    simp [stepBack?, hlow]
  | succ pos ih =>
    rcases Nat.eq_or_lt_of_le hle with rfl | hlt
    · simp [stepBack?, hlow]
    · have hstep := hnone (pos + 1) hlt (Nat.le_refl _)
      simp only [stepBack?, hstep, ↓reduceIte]
      exact ih (Nat.le_of_lt_succ hlt) fun mid hmid hpos => hnone mid hmid (Nat.le_succ_of_le hpos)

/-! ## Boundaries of a text -/

/-- Behind the front of a string, the boundaries are those of the rest. -/
theorem isBoundary_append_right : IsBoundary (front ++ back) (front.length + pos) ↔
    IsBoundary back pos := by
  simp [IsBoundary, List.getElem_append_right]

/-- Of the positions of a character, only the first one is a boundary. -/
theorem isBoundary_append_left {c : Char} (h : pos < (String.utf8EncodeChar c).length) :
    IsBoundary (String.utf8EncodeChar c ++ back) pos ↔ pos = 0 := by
  have hlength : pos < (String.utf8EncodeChar c ++ back).length := by
    rw [List.length_append]
    omega
  simp only [IsBoundary, Nat.ne_of_lt hlength, hlength, exists_true_left, false_or,
    List.getElem_append_left h, UInt8.isUTF8FirstByte_getElem_utf8EncodeChar]

/-- A beginning of a text is empty, or has the first character of the text and a beginning of the
rest. -/
theorem exists_length_eq_cons_iff {c : Char} {rest : List Char} :
    (∃ front, front <+: c :: rest ∧ (encodeChars front).length = pos) ↔
      pos = 0 ∨ ∃ front, front <+: rest ∧
        (String.utf8EncodeChar c).length + (encodeChars front).length = pos := by
  constructor
  · rintro ⟨front, hprefix, rfl⟩
    rcases List.prefix_cons_iff.1 hprefix with rfl | ⟨front, rfl, hrest⟩
    · exact .inl rfl
    · exact .inr ⟨front, hrest, List.length_append.symm⟩
  · rintro (rfl | ⟨front, hrest, rfl⟩)
    · exact ⟨[], List.nil_prefix, rfl⟩
    · exact ⟨c :: front, (List.prefix_cons_inj c).2 hrest, List.length_append⟩

/-- A position is a boundary of a text if it is the length of a beginning of the text. -/
theorem isBoundary_encodeChars_iff {chars : List Char} : IsBoundary (encodeChars chars) pos ↔
    ∃ front, front <+: chars ∧ (encodeChars front).length = pos := by
  induction chars generalizing pos with
  | nil => simp [IsBoundary, eq_comm]
  | cons c rest ih =>
    have hpos : 0 < (String.utf8EncodeChar c).length := by simp [c.utf8Size_pos]
    rw [encodeChars_cons, exists_length_eq_cons_iff]
    -- the position is within the first character, or it is one of the rest
    rcases Nat.lt_or_ge pos (String.utf8EncodeChar c).length with hlt | hge
    · rw [isBoundary_append_left hlt]
      constructor
      · exact .inl
      · rintro (hzero | ⟨front, -, hlength⟩)
        · exact hzero
        · omega
    · obtain ⟨pos, rfl⟩ := Nat.exists_eq_add_of_le hge
      rw [isBoundary_append_right, ih]
      constructor
      · rintro ⟨front, hprefix, rfl⟩
        exact .inr ⟨front, hprefix, rfl⟩
      · rintro (hzero | ⟨front, hprefix, hlength⟩)
        · omega
        · exact ⟨front, hprefix, Nat.add_left_cancel hlength⟩

/-- No step leads below zero, and the bytes in front of where the way back ends are those of the
longest beginning that fits. -/
theorem stepBack?_encodeChars (room : Nat) (chars : List Char) :
    stepBack? (encodeChars chars) (min (encodeChars chars).length room) =
      some (encodeChars (fitting room chars)).length := by
  have hfits := length_encodeChars_fitting room chars
  have hprefix := fitting_isPrefix room chars
  apply stepBack?_eq_some
  · exact isBoundary_encodeChars_iff.2 ⟨_, hprefix, rfl⟩
  · exact Nat.le_min.2 ⟨length_encodeChars_le hprefix, hfits⟩
  · intro mid hmid hle hboundary
    obtain ⟨front, hfront, rfl⟩ := isBoundary_encodeChars_iff.1 hboundary
    -- a boundary in the room ends a beginning that fits, so it is not behind the longest one
    have hlongest := isPrefix_fitting hfront (Nat.le_trans hle (Nat.min_le_right _ _))
    exact absurd (length_encodeChars_le hlongest) (Nat.not_le.2 hmid)

end Utf8

namespace FixedText

variable {n : Nat}

/-- The field that holds a text, cut by its bytes. -/
def ofString? (text : String) : Option (FixedText n) := do
  let line := Utf8.encodeChars (trimLineEnds text.toList)
  let length ← Utf8.stepBack? line (min line.length (n - 1))
  return ⟨Bytes.fit n (line.take length)⟩

/-- Both ways to cut a text leave the same field. -/
theorem ofString?_eq (text : String) : ofString? text = some (ofString text : FixedText n) := by
  have hprefix :=
    Utf8.encodeChars_isPrefix (Utf8.fitting_isPrefix (n - 1) (trimLineEnds text.toList))
  have htake := List.prefix_iff_eq_take.1 hprefix
  simp only [ofString?, Utf8.stepBack?_encodeChars, Option.bind_eq_bind, Option.bind_some, ← htake]
  rfl

end FixedText

end SectorStore
