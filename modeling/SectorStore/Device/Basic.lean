import SectorStore.Transfer

/-!
# Block devices

A block device answers block reads and accepts block writes, or faults. `Transfer.run` plays a
transfer against a device. The device is returned also where the transfer faults: what was written
before the fault stays written.

`Transfer.traffic` counts the block transfers of the same play.
-/

namespace SectorStore

/-- A store of blocks of `sectorSize` bytes. -/
class BlockDevice (δ : Type) where
  /-- The contents of a block. -/
  read : δ → (block : Nat) → Except Fault Sector
  /-- The device with new contents in a block. -/
  write : δ → (block : Nat) → Sector → Except Fault δ

namespace Transfer

variable {α β δ : Type} [BlockDevice δ]

/-- Plays a transfer against a device: the answer or the fault, and the device afterwards. -/
def run : Transfer α → δ → Except Fault α × δ
  | done a, device => (.ok a, device)
  | fault cause, device => (.error cause, device)
  | read block next, device =>
    match BlockDevice.read device block with
    | .ok sector => run (next sector) device
    | .error cause => (.error cause, device)
  | write block data next, device =>
    match BlockDevice.write device block data with
    | .ok device => run next device
    | .error cause => (.error cause, device)

@[simp]
theorem run_pure (a : α) (device : δ) : (pure a : Transfer α).run device = (.ok a, device) :=
  rfl

/-- A sequence of two transfers runs the second where the first left the device, unless the first
faults. -/
theorem run_bind (x : Transfer α) (f : α → Transfer β) (device : δ) :
    (x >>= f).run device =
      match x.run device with
      | (.ok a, device) => (f a).run device
      | (.error cause, device) => (.error cause, device) := by
  show (x.bind f).run device = _
  induction x generalizing device with
  | done a => rfl
  | fault cause => rfl
  | read block next ih =>
    simp only [bind, run]
    cases BlockDevice.read device block with
    | ok sector => exact ih sector device
    | error cause => rfl
  | write block data next ih =>
    simp only [bind, run]
    cases BlockDevice.write device block data with
    | ok device => exact ih device
    | error cause => rfl

end Transfer

/-- Numbers of block transfers. -/
structure Traffic where
  /-- The number of blocks read. -/
  reads : Nat
  /-- The number of blocks written. -/
  writes : Nat
deriving DecidableEq, Repr

namespace Traffic

/-- No transfer at all. -/
def none : Traffic := ⟨0, 0⟩

/-- The transfers of two stretches together. -/
instance : Add Traffic where
  add a b := ⟨a.reads + b.reads, a.writes + b.writes⟩

theorem add_def (a b : Traffic) : a + b = ⟨a.reads + b.reads, a.writes + b.writes⟩ :=
  rfl

theorem none_add (a : Traffic) : none + a = a := by
  simp [add_def, none]

theorem add_none (a : Traffic) : a + none = a :=
  rfl

theorem add_assoc (a b c : Traffic) : a + b + c = a + (b + c) := by
  simp [add_def, Nat.add_assoc]

end Traffic

/-- The block transfers that complete while a transfer is played against a device. -/
def Transfer.traffic {α δ : Type} [BlockDevice δ] : Transfer α → δ → Traffic
  | done _, _ => .none
  | fault _, _ => .none
  | read block next, device =>
    match BlockDevice.read device block with
    | .ok sector => ⟨1, 0⟩ + traffic (next sector) device
    | .error _ => .none
  | write block data next, device =>
    match BlockDevice.write device block data with
    | .ok device => ⟨0, 1⟩ + traffic next device
    | .error _ => .none

/-- The block transfers of two stretches are those of the first and then those of the second. -/
theorem Transfer.traffic_bind {α β δ : Type} [BlockDevice δ] {x : Transfer α} {f : α → Transfer β}
    {device device' : δ} {a : α} (h : x.run device = (.ok a, device')) :
    (x >>= f).traffic device = x.traffic device + (f a).traffic device' := by
  show (x.bind f).traffic device = _
  induction x generalizing device with
  | done b =>
    simp only [run, Prod.mk.injEq, Except.ok.injEq] at h
    obtain ⟨rfl, rfl⟩ := h
    exact (Traffic.none_add _).symm
  | fault cause => simp [run] at h
  | read block next ih =>
    rw [run] at h
    simp only [bind, traffic]
    cases hread : BlockDevice.read device block with
    | ok sector =>
      rw [hread] at h
      simp only [ih sector h, Traffic.add_assoc]
    | error cause => simp [hread] at h
  | write block data next ih =>
    rw [run] at h
    simp only [bind, traffic]
    cases hwrite : BlockDevice.write device block data with
    | ok device₁ =>
      rw [hwrite] at h
      simp only [ih h, Traffic.add_assoc]
    | error cause => simp [hwrite] at h

end SectorStore
