import Mathlib.Data.List.DropRight
import SectorStore.Proofs.Bytes.Fields
import SectorStore.Proofs.Text.Utf8
import SectorStore.Text.Fixed

/-!
# Text fields are read back

What is read back from a field is the beginning of the text that fits, without the line ends at the
end of the text, up to the first zero character (`text_ofString_eq`). So a text that fits is read
back whole: `text_ofString` asks for one byte of room behind the text, for the zero that ends it,
and for a text without the zero character. Of any text without that character, a field `Holds` the
longest beginning that fits, with zeros behind it (`holds_ofString`).

`trimLineEnds_append` and `length_encodeChars` are for single lines of characters that are single
bytes.
-/

namespace SectorStore

namespace Utf8

variable {room : Nat} {chars : List Char}

/-- A text that fits is not cut. -/
theorem fitting_eq (h : (encodeChars chars).length ≤ room) : fitting room chars = chars :=
  (fitting_isPrefix room chars).eq_of_length_le
    (isPrefix_fitting (List.prefix_refl chars) h).length_le

/-- A text of characters that are single bytes has as many bytes as characters. -/
theorem length_encodeChars (h : ∀ c ∈ chars, c.utf8Size = 1) :
    (encodeChars chars).length = chars.length := by
  induction chars with
  | nil => rfl
  | cons c rest ih =>
    rw [encodeChars_cons, List.length_append, String.length_utf8EncodeChar,
      h c List.mem_cons_self, ih fun d hd => h d (List.mem_cons_of_mem c hd), List.length_cons,
      Nat.add_comm]

end Utf8

namespace FixedText

variable {n : Nat} {text : String} {chars : List Char}

/-- Of a single line, the line end is left out. -/
theorem trimLineEnds_append (h : '\n' ∉ chars) : trimLineEnds (chars ++ ['\n']) = chars := by
  have hkeep : chars.rdropWhile (· = '\n') = chars := by
    rw [List.rdropWhile_eq_self_iff]
    intro hne hlast
    exact h (of_decide_eq_true hlast ▸ List.getLast_mem hne)
  show List.rdropWhile _ _ = _
  rw [List.rdropWhile_concat_pos _ _ _ (by decide), hkeep]

theorem trimLineEnds_isPrefix (chars : List Char) : trimLineEnds chars <+: chars :=
  List.rdropWhile_prefix ..

/-- Nothing in front of a character that is no line end is left out. -/
theorem isPrefix_trimLineEnds {front : List Char} {c : Char} (hc : c ≠ '\n')
    (h : front ++ [c] <+: chars) : front ++ [c] <+: trimLineEnds chars := by
  obtain ⟨back, rfl⟩ := h
  show _ <+: List.rdropWhile _ _
  -- what stands behind is taken away from its end on
  induction back using List.reverseRecOn with
  | nil =>
    have hkeep : (front ++ [c]).rdropWhile (· = '\n') = front ++ [c] :=
      List.rdropWhile_concat_neg _ _ _ (by simpa using hc)
    simpa only [List.append_nil, hkeep] using List.prefix_refl (front ++ [c])
  | append_singleton back d ih =>
    rw [← List.append_assoc]
    by_cases hd : d = '\n'
    · rwa [List.rdropWhile_concat_pos _ _ _ (by simpa using hd)]
    · rw [List.rdropWhile_concat_neg _ _ _ (by simpa using hd), List.append_assoc]
      exact List.prefix_append _ _

/-- A field shows the beginning of a text that fits. -/
theorem text_ofString_eq (text : String) : (ofString text : FixedText n).text =
    Utf8.upToZero (.ofList (Utf8.fitting (n - 1) (trimLineEnds text.toList))) := by
  have hfits := Utf8.length_encodeChars_fitting (n - 1) (trimLineEnds text.toList)
  rw [FixedText.text, ofString, Bytes.untilZero_fit (Nat.le_trans hfits (Nat.sub_le ..)),
    ← Utf8.decode_untilZero_encode, Utf8.encode, String.toList_ofList]

theorem isPrefix_text_ofString (text : String) :
    (ofString text : FixedText n).text.toList <+: text.toList := by
  have hshown := Utf8.upToZero_isPrefix
    (.ofList (Utf8.fitting (n - 1) (trimLineEnds text.toList)))
  rw [String.toList_ofList] at hshown
  rw [text_ofString_eq]
  exact hshown.trans ((Utf8.fitting_isPrefix _ _).trans (trimLineEnds_isPrefix _))

theorem length_encode_text_ofString (text : String) :
    (Utf8.encode (ofString text : FixedText n).text).length ≤ n - 1 := by
  rw [text_ofString_eq, Utf8.encode]
  refine Nat.le_trans (Utf8.length_encodeChars_le (Utf8.upToZero_isPrefix _)) ?_
  rw [String.toList_ofList]
  exact Utf8.length_encodeChars_fitting _ _

/-- A beginning of a text that fits is shown, if no zero is in it and it does not end with a line
end. -/
theorem isPrefix_text_of_fits {front : List Char} {c : Char} (h : front ++ [c] <+: text.toList)
    (hc : c ≠ '\n') (hzero : '\x00' ∉ front ++ [c])
    (hfits : (Utf8.encodeChars (front ++ [c])).length ≤ n - 1) :
    front ++ [c] <+: (ofString text : FixedText n).text.toList := by
  rw [text_ofString_eq]
  apply Utf8.isPrefix_upToZero hzero
  rw [String.toList_ofList]
  exact Utf8.isPrefix_fitting (isPrefix_trimLineEnds hc h) hfits

/-- Of a text without the zero character, all that fits is read back. -/
theorem text_ofString_eq_fitting (hzero : '\x00' ∉ text.toList) :
    (ofString text : FixedText n).text =
      .ofList (Utf8.fitting (n - 1) (trimLineEnds text.toList)) := by
  rw [text_ofString_eq]
  apply Utf8.upToZero_eq
  rw [String.toList_ofList]
  exact fun hmem =>
    hzero (((Utf8.fitting_isPrefix _ _).trans (trimLineEnds_isPrefix _)).subset hmem)

/-- What fits into a field is read back without the line ends at its end. -/
theorem text_ofString (hzero : '\x00' ∉ text.toList)
    (hfits : (Utf8.encodeChars (trimLineEnds text.toList)).length < n) :
    (ofString text : FixedText n).text = .ofList (trimLineEnds text.toList) := by
  rw [text_ofString_eq_fitting hzero, Utf8.fitting_eq (Nat.le_sub_one_of_lt hfits)]

/-! ## The longest beginning that fits -/

/-- A text is a line and line ends behind it, and the line does not end with a line end itself. -/
structure IsLineOf (line text : String) : Prop where
  /-- Nothing but line ends stands behind the line. -/
  exists_ends : ∃ count, text.toList = line.toList ++ List.replicate count '\n'
  /-- All line ends at the end of the text stand behind the line. -/
  getLast?_ne : line.toList.getLast? ≠ some '\n'

theorem isLineOf_trimLineEnds (text : String) :
    IsLineOf (.ofList (trimLineEnds text.toList)) text := by
  let ends := text.toList.rtakeWhile (· = '\n')
  have hends : ends = List.replicate ends.length '\n' := by
    apply List.eq_replicate_of_mem
    intro c hc
    simpa using List.mem_rtakeWhile_imp hc
  refine ⟨⟨ends.length, ?_⟩, ?_⟩
  · rw [String.toList_ofList, ← hends]
    exact List.rdropWhile_append_rtakeWhile.symm
  · rw [String.toList_ofList]
    intro hlast
    have hne := List.ne_nil_of_mem (List.mem_of_getLast? hlast)
    -- what is left does not end with a character that would have been left out
    apply List.rdropWhile_last_not _ _ hne
    rw [List.getLast?_eq_getLast_of_ne_nil hne] at hlast
    exact decide_eq_true (Option.some.inj hlast)

/-- A field of `n` bytes shows the longest beginning of a line, in whole characters, that leaves one
byte of room, and has zeros for all other bytes. -/
structure Holds (field : FixedText n) (line : String) : Prop where
  /-- A beginning of the line is shown. -/
  isPrefix : field.text.toList <+: line.toList
  /-- It leaves one byte of room. -/
  length_le : (Utf8.encode field.text).length ≤ n - 1
  /-- No beginning of the line that does so is longer. -/
  longest : ∀ front, front <+: line.toList → (Utf8.encodeChars front).length ≤ n - 1 →
    front <+: field.text.toList
  /-- The bytes of the field are those of what is shown, and zeros. -/
  toList_bytes : field.bytes.toList = Utf8.encode field.text ++
    List.replicate (n - (Utf8.encode field.text).length) 0
  /-- The last byte is zero. -/
  getLast?_bytes : field.bytes.toList.getLast? = some 0

/-- A text without the zero character is held without the line ends at its end, as far as it
fits. -/
theorem holds_ofString (hn : 0 < n) (hzero : '\x00' ∉ text.toList) :
    (ofString text : FixedText n).Holds (.ofList (trimLineEnds text.toList)) := by
  have hfits := Utf8.length_encodeChars_fitting (n - 1) (trimLineEnds text.toList)
  have htext := text_ofString_eq_fitting (n := n) hzero
  have hencode : Utf8.encode (ofString text : FixedText n).text =
      Utf8.encodeChars (Utf8.fitting (n - 1) (trimLineEnds text.toList)) := by
    rw [htext, Utf8.encode, String.toList_ofList]
  have hbytes : (ofString text : FixedText n).bytes.toList =
      Utf8.encode (ofString text : FixedText n).text ++
        List.replicate (n - (Utf8.encode (ofString text : FixedText n).text).length) 0 := by
    rw [hencode, ofString, Bytes.toList_fit (Nat.le_trans hfits (Nat.sub_le ..))]
  constructor
  · simp only [htext, String.toList_ofList]
    exact Utf8.fitting_isPrefix _ _
  · rw [hencode]
    exact hfits
  · intro front hprefix hroom
    simp only [htext, String.toList_ofList] at hprefix ⊢
    exact Utf8.isPrefix_fitting hprefix hroom
  · exact hbytes
  · rw [List.getLast?_eq_getElem?, Vector.length_toList, Vector.getElem?_toList,
      Vector.getElem?_eq_getElem (by omega), ofString_getElem_last text hn]

end FixedText

end SectorStore
