import Mathlib.Data.List.TakeDrop
import Mathlib.Data.List.TakeWhile
import SectorStore.Text.Extension

/-!
# Extensions of names

`Behind name ext` says what stands behind the last dot of a name, unless this dot is its first
character. The extension of a name is that text (`ofName_of_behind`, `behind_of_ofName_ne`), and
names without such a text have none.
-/

namespace SectorStore.Extension

variable {name : String} {ext stem : List Char} {c : Char}

/-! ## The last dot -/

theorem bne_of_notMem_reverse {chars : List Char} (h : c ∉ chars) :
    ∀ d ∈ chars.reverse, (d != c) = true := by
  intro d hd
  rw [bne_iff_ne]
  rintro rfl
  exact h (List.mem_reverse.1 hd)

theorem splitLast_append (h : c ∉ ext) : splitLast c (stem ++ c :: ext) = some (stem, ext) := by
  have hall := bne_of_notMem_reverse h
  have hreverse : (stem ++ c :: ext).reverse = ext.reverse ++ c :: stem.reverse := by simp
  rw [splitLast, hreverse, List.span_eq_takeWhile_dropWhile, List.takeWhile_append_of_pos hall,
    List.dropWhile_append_of_pos hall, List.takeWhile_cons_of_neg (by simp),
    List.dropWhile_cons_of_neg (by simp)]
  simp

theorem splitLast_of_notMem {chars : List Char} (h : c ∉ chars) : splitLast c chars = none := by
  rw [splitLast, List.span_eq_takeWhile_dropWhile,
    List.dropWhile_eq_nil_iff.2 (bne_of_notMem_reverse h)]

/-- A character that is there is there for a last time. -/
theorem exists_last {chars : List Char} (h : c ∈ chars) :
    ∃ front back, chars = front ++ c :: back ∧ c ∉ back := by
  obtain ⟨back, front, hreverse, hnot⟩ := List.eq_append_cons_of_mem (List.mem_reverse.2 h)
  refine ⟨front.reverse, back.reverse, ?_, fun hback => hnot (List.mem_reverse.1 hback)⟩
  rw [← List.reverse_reverse chars, hreverse]
  simp

/-- The text `ext` stands behind the last dot of a name, and this dot is not the first character of
the name. -/
def Behind (name : String) (ext : List Char) : Prop :=
  '.' ∉ ext ∧ ∃ stem, stem ≠ [] ∧ name.toList = stem ++ '.' :: ext

/-- What stands behind the last dot is the extension. -/
theorem ofName_of_behind (h : Behind name ext) : ofName name = .ofList ext := by
  obtain ⟨hdot, stem, hstem, hname⟩ := h
  rw [ofName, hname, splitLast_append hdot]
  cases stem with
  | nil => exact absurd rfl hstem
  | cons c stem => rfl

/-- An extension stands behind the last dot. -/
theorem behind_of_ofName_ne (h : ofName name ≠ "") : Behind name (ofName name).toList := by
  have hdot : '.' ∈ name.toList := by
    by_contra hnone
    rw [ofName, splitLast_of_notMem hnone] at h
    exact h rfl
  obtain ⟨stem, ext, hname, hext⟩ := exists_last hdot
  have hstem : stem ≠ [] := by
    rintro rfl
    rw [ofName, hname, splitLast_append hext] at h
    exact h rfl
  have hbehind : Behind name ext := ⟨hext, stem, hstem, hname⟩
  rwa [ofName_of_behind hbehind, String.toList_ofList]

/-! ## Extensions of which something can be shown -/

/-- The extension, if there is one, neither begins with the zero character nor has line ends
only. -/
def IsPlain (name : String) : Prop :=
  ∀ ext, Behind name ext → ext ≠ [] → ext.head? ≠ some '\x00' ∧ ∃ c ∈ ext, c ≠ '\n'

theorem isPlain_iff : IsPlain name ↔ (ofName name).toList ≠ [] →
    (ofName name).toList.head? ≠ some '\x00' ∧ ∃ c ∈ (ofName name).toList, c ≠ '\n' := by
  constructor
  · intro h hne
    refine h _ (behind_of_ofName_ne fun hempty => hne ?_) hne
    rw [hempty]
    rfl
  · intro h ext hbehind hne
    rw [ofName_of_behind hbehind, String.toList_ofList] at h
    exact h hne

end SectorStore.Extension
