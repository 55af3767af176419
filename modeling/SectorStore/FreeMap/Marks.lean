/-!
# Marks

A row of marks, `true` where something is taken; whatever is behind its end is not. A row is trimmed
if it ends with what was taken last, so two trimmed rows that say the same are equal. `getD_trim`
and `getD_set` say what trimming and setting make of the single marks.
-/

namespace SectorStore.Marks

/-- The number of marks up to the last `true` one, looking at the first `count` ones. -/
def extent (marks : Array Bool) : (count : Nat) → Nat
  | 0 => 0
  | count + 1 => if marks.getD count false then count + 1 else extent marks count

theorem extent_le (marks : Array Bool) (count : Nat) : extent marks count ≤ count := by
  induction count with
  | zero => exact Nat.le_refl 0
  | succ count ih =>
    rw [extent]
    split <;> omega

/-- The last mark within the extent is `true`. -/
theorem getD_extent_sub_one {marks : Array Bool} {count : Nat} (h : 0 < extent marks count) :
    marks.getD (extent marks count - 1) false = true := by
  induction count with
  | zero => simp [extent] at h
  | succ count ih =>
    rw [extent] at h ⊢
    split
    · assumption
    · next hc =>
      rw [if_neg hc] at h
      exact ih h

/-- From the extent on all marks are `false`. -/
theorem getD_eq_false_of_extent_le {marks : Array Bool} {count i : Nat}
    (h : extent marks count ≤ i) (hi : i < count) : marks.getD i false = false := by
  induction count with
  | zero => omega
  | succ count ih =>
    rw [extent] at h
    split at h
    · omega
    · next hc =>
      by_cases hic : i = count
      · subst hic
        simpa using hc
      · exact ih h (by omega)

/-- The marks without those behind the last `true` one. -/
def trim (marks : Array Bool) : Array Bool :=
  marks.shrink (extent marks marks.size)

theorem getD_trim (marks : Array Bool) (i : Nat) :
    (trim marks).getD i false = marks.getD i false := by
  have hle := extent_le marks marks.size
  simp only [trim, Array.shrink_eq_take, Array.take_eq_extract, Array.getD_eq_getD_getElem?,
    Array.getElem?_extract]
  split
  · rw [Nat.zero_add]
  · next h =>
    by_cases hi : i < marks.size
    · have : extent marks marks.size ≤ i := by omega
      have := getD_eq_false_of_extent_le this hi
      rw [Array.getD_eq_getD_getElem?] at this
      simp [this]
    · simp [Array.getElem?_eq_none (Nat.le_of_not_lt hi)]

theorem size_trim_le (marks : Array Bool) : (trim marks).size ≤ marks.size := by
  simp only [trim, Array.size_shrink]
  omega

theorem back?_trim_ne (marks : Array Bool) : (trim marks).back? ≠ some false := by
  have hle := extent_le marks marks.size
  have hsize : (trim marks).size = extent marks marks.size := by
    simp only [trim, Array.size_shrink]
    omega
  intro h
  rw [Array.back?_eq_getElem?, hsize] at h
  have hpos : 0 < extent marks marks.size := by
    have := (Array.getElem?_eq_some_iff.1 h).1
    omega
  have hlast := getD_extent_sub_one hpos
  rw [← getD_trim, Array.getD_eq_getD_getElem?, h] at hlast
  cases hlast

/-- The marks with the one at `i` set to `taken`, filled up with `false` to it where they end before
it. -/
def set (marks : Array Bool) (i : Nat) (taken : Bool) : Array Bool :=
  if h : i < marks.size then marks.set i taken
  else if taken then (marks ++ Array.replicate (i - marks.size) false).push true
  else marks

theorem size_set_le (marks : Array Bool) (i : Nat) (taken : Bool) :
    (set marks i taken).size ≤ max marks.size (i + 1) := by
  unfold set
  split
  · rw [Array.size_set]
    omega
  · split
    · rw [Array.size_push, Array.size_append, Array.size_replicate]
      omega
    · omega

/-- Setting a mark changes that mark only. -/
theorem getD_set (marks : Array Bool) (i j : Nat) (taken : Bool) :
    (set marks i taken).getD j false = if j = i then taken else marks.getD j false := by
  simp only [set, Array.getD_eq_getD_getElem?]
  grind

end SectorStore.Marks
