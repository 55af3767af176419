import SectorStore.FileHeader.Basic
import SectorStore.Proofs.Text.Extension
import SectorStore.Proofs.Text.Fixed

/-!
# Types of files

The type of a file is told by its name: it is the extension, cut to the field of the header, and
`None` where there is no extension. `sensible_setKind` says that what a header shows is then a
`Sensible` type. The condition on the name cannot be left out: an extension of line ends only, or
one that begins with the zero character, is an extension, so it is not replaced by `None`, but the
field shows nothing of it.
-/

namespace SectorStore

/-- A type that a file of the given name may sensibly have: `None` if the name has no extension, and
the beginning of the extension otherwise, in whole characters and no more than four bytes. An
extension that begins with `None` is shown as if there were none. -/
structure Sensible (name kind : String) : Prop where
  /-- `None` stands for no extension, and for one that begins so. -/
  eq_none_iff : kind = "None" ↔ ∀ ext, Extension.Behind name ext → ext = [] ∨ "None".toList <+: ext
  /-- The type is the beginning of the extension. -/
  isPrefix : ∀ ext, Extension.Behind name ext → ext ≠ [] → kind.toList <+: ext
  /-- It has no more than four bytes. -/
  length_le : (Utf8.encode kind).length ≤ 4
  /-- It is never empty. -/
  ne_empty : kind ≠ ""

namespace FileHeader

variable {header : FileHeader} {name : String}

/-- A type that does not begin with the zero character and has not line ends only is shown at least
in part: each character has room in the field. -/
theorem text_ofString_ne_empty {text : String} (hhead : text.toList.head? ≠ some '\x00')
    (hline : ∃ c ∈ text.toList, c ≠ '\n') :
    (FixedText.ofString text : FixedText kindWidth).text ≠ "" := by
  obtain ⟨c, hmem, hc⟩ := hline
  obtain ⟨front, back, htext⟩ := List.append_of_mem hmem
  have hfront : front ++ [c] <+: FixedText.trimLineEnds text.toList :=
    FixedText.isPrefix_trimLineEnds hc ⟨back, by rw [htext, List.append_assoc]; rfl⟩
  rcases htrim : FixedText.trimLineEnds text.toList with _ | ⟨d, rest⟩
  · rw [htrim, List.prefix_nil] at hfront
    exact absurd hfront (List.concat_ne_nil c front)
  have hd : d ≠ '\x00' := by
    rintro rfl
    obtain ⟨back', htext'⟩ := FixedText.trimLineEnds_isPrefix text.toList
    rw [← htext', htrim] at hhead
    exact hhead rfl
  have hroom : d.utf8Size ≤ kindWidth - 1 := d.utf8Size_le_four
  have hshown : [d] <+: (FixedText.ofString text : FixedText kindWidth).text.toList := by
    rw [FixedText.text_ofString_eq]
    apply Utf8.isPrefix_upToZero (by simpa using Ne.symm hd)
    rw [String.toList_ofList, htrim, Utf8.fitting, if_pos hroom]
    exact ⟨_, rfl⟩
  intro hempty
  rw [hempty] at hshown
  exact absurd (List.prefix_nil.1 hshown) (List.cons_ne_nil _ _)

/-- No type is shown as `None`. -/
theorem text_setKind_empty (header : FileHeader) : (header.setKind "").kind.text = "None" := by
  have htext : (FixedText.ofString "None" : FixedText kindWidth).text = "None" :=
    FixedText.text_ofString (by decide) (by decide)
  exact htext

theorem kind_setKind (header : FileHeader) {kind : String} (h : kind ≠ "") :
    (header.setKind kind).kind = .ofString kind := by
  show FixedText.ofString _ = _
  rw [if_neg (by simpa using h)]

/-- The type of a file that was made under a name without an extension, or with one of which some
part can be shown, is a sensible one. -/
theorem sensible_setKind (header : FileHeader) (h : Extension.IsPlain name) :
    Sensible name (header.setKind (Extension.ofName name)).kind.text := by
  by_cases hempty : Extension.ofName name = ""
  · have hnone : ∀ ext, Extension.Behind name ext → ext = [] := by
      intro ext hbehind
      rw [Extension.ofName_of_behind hbehind] at hempty
      simpa using congrArg String.toList hempty
    rw [hempty, text_setKind_empty]
    refine ⟨⟨fun _ ext hbehind => .inl (hnone ext hbehind), fun _ => rfl⟩, ?_, by decide,
      by decide⟩
    exact fun ext hbehind hne => absurd (hnone ext hbehind) hne
  have hbehind := Extension.behind_of_ofName_ne hempty
  have hne : (Extension.ofName name).toList ≠ [] := by simpa using hempty
  obtain ⟨hhead, hline⟩ := h _ hbehind hne
  have hunique : ∀ ext, Extension.Behind name ext → ext = (Extension.ofName name).toList := by
    intro ext hbehind'
    rw [Extension.ofName_of_behind hbehind', String.toList_ofList]
  rw [kind_setKind header hempty]
  let field : FixedText kindWidth := .ofString (Extension.ofName name)
  have hprefix : field.text.toList <+: (Extension.ofName name).toList :=
    FixedText.isPrefix_text_ofString _
  have hlength : (Utf8.encode field.text).length ≤ 4 := FixedText.length_encode_text_ofString _
  refine ⟨⟨?_, ?_⟩, ?_, hlength, text_ofString_ne_empty hhead hline⟩
  · intro hkind ext hext
    rw [hunique ext hext, ← hkind]
    exact .inr hprefix
  · intro hall
    -- the four letters fill the field, so nothing else is shown
    have hfront : "Non".toList ++ ['e'] <+: (Extension.ofName name).toList :=
      (hall _ hbehind).resolve_left hne
    have hshown : "None".toList <+: field.text.toList :=
      FixedText.isPrefix_text_of_fits hfront (by decide) (by decide) (by decide)
    have hle := Nat.le_trans (Utf8.length_le_length_encode _) hlength
    exact (String.toList_inj.1 (hshown.eq_of_length_le hle)).symm
  · intro ext hext _
    rw [hunique ext hext]
    exact hprefix

end FileHeader

end SectorStore
