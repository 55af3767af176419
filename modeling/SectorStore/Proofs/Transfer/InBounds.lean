import SectorStore.Proofs.Device.Disk

/-!
# Transfers that stay in bounds

A transfer may look up a place behind the end of a table, or take more from a count than there is.
No check of the store comes before such a fault, which has no wording of its own. `x.StaysInBounds`
says that `x` does not end like that, however its reads are answered; so no run does on a device
that does not fault like that itself (`StaysInBounds.of_run`), such as a memory disk or an image
file.
-/

namespace SectorStore

/-- The fault is a look-up outside the bounds of a table, or a count that falls below zero. -/
def Fault.IsStray (cause : Fault) : Prop :=
  cause = .indexOutOfBounds ∨ cause = .countBelowZero

/-- A device that does not fault in this way itself. -/
class BoundedBlockDevice (δ : Type) [BlockDevice δ] : Prop where
  /-- A block that cannot be read is told as such. -/
  read_error {device : δ} {block : Nat} {cause : Fault}
    (h : BlockDevice.read device block = .error cause) : ¬ cause.IsStray
  /-- A block that cannot be written is told as such. -/
  write_error {device : δ} {block : Nat} {data : Sector} {cause : Fault}
    (h : BlockDevice.write device block data = .error cause) : ¬ cause.IsStray

namespace Transfer

variable {α β : Type}

/-- However the reads are answered, no table is left and no count falls below zero. -/
def StaysInBounds : Transfer α → Prop
  | done _ => True
  | fault cause => ¬ cause.IsStray
  | read _ next => ∀ sector, (next sector).StaysInBounds
  | write _ _ next => next.StaysInBounds

/-- On a device without stray faults of its own, a run of such a transfer does not end in one. -/
theorem StaysInBounds.of_run {δ : Type} [BlockDevice δ] [BoundedBlockDevice δ] {x : Transfer α}
    {device device' : δ} {cause : Fault} (h : x.StaysInBounds)
    (hrun : x.run device = (.error cause, device')) : ¬ cause.IsStray := by
  induction x generalizing device with
  | done a => cases hrun
  | fault cause => exact Except.error.inj (Prod.mk.inj hrun).1 ▸ h
  | read block next ih =>
    rw [run] at hrun
    split at hrun
    · next sector _ => exact ih sector (h sector) hrun
    · next hfault =>
      exact BoundedBlockDevice.read_error (Except.error.inj (Prod.mk.inj hrun).1 ▸ hfault)
  | write block data next ih =>
    rw [run] at hrun
    split at hrun
    · exact ih h hrun
    · next hfault =>
      exact BoundedBlockDevice.write_error (Except.error.inj (Prod.mk.inj hrun).1 ▸ hfault)

theorem staysInBounds_pure (a : α) : (pure a : Transfer α).StaysInBounds :=
  trivial

theorem StaysInBounds.bind {x : Transfer α} {f : α → Transfer β} (h : x.StaysInBounds)
    (hnext : ∀ a, (f a).StaysInBounds) : (x >>= f).StaysInBounds := by
  show (x.bind f).StaysInBounds
  induction x with
  | done a => exact hnext a
  | fault cause => exact h
  | read block next ih => exact fun sector => ih sector (h sector)
  | write block data next ih => exact ih h

theorem staysInBounds_load (sector : SectorId) : (load sector).StaysInBounds :=
  fun _ => trivial

theorem staysInBounds_store (sector : SectorId) (data : Sector) :
    (store sector data).StaysInBounds :=
  trivial

/-- A step that needs no disk stays in bounds if its fault, if it has one, is not stray. -/
theorem staysInBounds_liftM {x : Except Fault α} (h : ∀ cause, x = .error cause → ¬ cause.IsStray) :
    (liftM x : Transfer α).StaysInBounds := by
  cases x with
  | ok a => trivial
  | error cause => exact h cause rfl

end Transfer

/-! ## The devices at hand -/

instance : BoundedBlockDevice (RamDisk sectorSize) where
  read_error := by
    intro disk block cause h
    rcases Nat.lt_or_ge block disk.count with hlt | hle
    · rw [RamDisk.read_of_lt hlt] at h
      cases h
    · rw [RamDisk.read_of_le hle] at h
      cases h
      simp [Fault.IsStray]
  write_error := by
    intro disk block data cause h
    rcases Nat.lt_or_ge block disk.count with hlt | hle
    · rw [RamDisk.write_of_lt hlt] at h
      cases h
    · rw [RamDisk.write_of_le hle] at h
      cases h
      simp [Fault.IsStray]

instance : BoundedBlockDevice ImageFile where
  read_error := by
    intro file block cause h
    simp only [BlockDevice.read, ImageFile.read] at h
    split at h
    · cases h
      simp [Fault.IsStray]
    · split at h
      · cases h
      · cases h
        simp [Fault.IsStray]
  write_error := by
    intro file block data cause h
    cases h

end SectorStore
