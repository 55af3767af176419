import SectorStore.Device.Basic

/-!
# Transfers that do the same

Two transfers are `Related` if they read and write the same blocks and meet the same faults, and
give answers that are related where they run through. On any device they do the same
(`Related.exists_run`).
-/

namespace SectorStore.Transfer

variable {α β γ ε : Type}

/-- The same tree of reads and writes, with related answers at its leaves. -/
inductive Related (r : α → β → Prop) : Transfer α → Transfer β → Prop
  /-- Both have finished. -/
  | done {a : α} {b : β} (h : r a b) : Related r (.done a) (.done b)
  /-- Both are given up for the same cause. -/
  | fault (cause : Fault) : Related r (.fault cause) (.fault cause)
  /-- Both read the same block, and go on in the same way. -/
  | read {block : Nat} {next : Sector → Transfer α} {next' : Sector → Transfer β}
      (h : ∀ sector, Related r (next sector) (next' sector)) :
      Related r (.read block next) (.read block next')
  /-- Both write the same to a block, and go on in the same way. -/
  | write {block : Nat} {data : Sector} {next : Transfer α} {next' : Transfer β}
      (h : Related r next next') : Related r (.write block data next) (.write block data next')

namespace Related

variable {r : α → β → Prop} {q : γ → ε → Prop} {x : Transfer α} {y : Transfer β}

theorem refl {r : α → α → Prop} (hrefl : ∀ a, r a a) (x : Transfer α) : Related r x x := by
  induction x with
  | done a => exact .done (hrefl a)
  | fault cause => exact .fault cause
  | read block next ih => exact .read ih
  | write block data next ih => exact .write ih

theorem bind {f : α → Transfer γ} {g : β → Transfer ε} (h : Related r x y)
    (hnext : ∀ a b, r a b → Related q (f a) (g b)) : Related q (x >>= f) (y >>= g) := by
  show Related q (x.bind f) (y.bind g)
  induction h with
  | done h => exact hnext _ _ h
  | fault cause => exact .fault cause
  | read _ ih => exact .read ih
  | write _ ih => exact .write ih

/-- The same transfer, followed by what is related whatever its answer. -/
theorem bind_same {x : Transfer α} {f : α → Transfer γ} {g : α → Transfer ε}
    (hnext : ∀ a, Related q (f a) (g a)) : Related q (x >>= f) (x >>= g) := by
  refine (refl (r := Eq) (fun _ => rfl) x).bind ?_
  rintro a b rfl
  exact hnext a

/-- Where one of the two runs through, so does the other, and leaves the same device. -/
theorem exists_run {δ : Type} [BlockDevice δ] {device device' : δ} {b : β} (h : Related r x y)
    (hrun : y.run device = (.ok b, device')) : ∃ a, x.run device = (.ok a, device') ∧ r a b := by
  induction h generalizing device with
  | done h =>
    cases hrun
    exact ⟨_, rfl, h⟩
  | fault cause => cases hrun
  | read _ ih =>
    rw [run] at hrun ⊢
    split at hrun
    · next sector _ => exact ih sector hrun
    · cases hrun
  | write _ ih =>
    rw [run] at hrun ⊢
    split at hrun
    · exact ih hrun
    · cases hrun

end Related

end SectorStore.Transfer
