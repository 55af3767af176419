import SectorStore.Fault

/-!
# Checked sums

Offsets, lengths and sizes are numbers of 64 bits. Where two of them are added up, a sum that has
more bits is a fault.
-/

namespace SectorStore

/-- Offsets, lengths and sizes are below this limit. -/
def sumLimit : Nat := UInt64.size

/-- The sum of two numbers, which must be below the limit. -/
def checkedAdd (a b : Nat) : Except Fault Nat :=
  if a + b < sumLimit then .ok (a + b) else .error .sumTooLarge

/-- A sum below the limit is that of the two numbers. -/
theorem checkedAdd_eq {a b : Nat} (h : a + b < sumLimit) : checkedAdd a b = .ok (a + b) :=
  if_pos h

/-- A sum at or beyond the limit is a fault. -/
theorem checkedAdd_eq_error {a b : Nat} (h : ¬ a + b < sumLimit) :
    checkedAdd a b = .error .sumTooLarge :=
  if_neg h

theorem checkedAdd_eq_ok_iff {a b sum : Nat} :
    checkedAdd a b = .ok sum ↔ a + b < sumLimit ∧ sum = a + b := by
  by_cases h : a + b < sumLimit
  · rw [checkedAdd_eq h, Except.ok.injEq]
    exact ⟨fun heq => ⟨h, heq.symm⟩, fun heq => heq.2.symm⟩
  · rw [checkedAdd_eq_error h]
    exact ⟨nofun, fun hboth => absurd hboth.1 h⟩

theorem sumLimit_eq : sumLimit = 18446744073709551616 := rfl

end SectorStore
