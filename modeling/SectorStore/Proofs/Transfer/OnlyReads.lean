import SectorStore.Device.Basic

/-!
# Transfers that only read

A transfer without writes leaves any device as it was, whether it runs through or faults, and
writes no block (`OnlyReads.writes_traffic`).
-/

namespace SectorStore.Transfer

variable {α β : Type}

/-- There are no writes in the transfer, whatever is read. -/
def OnlyReads : Transfer α → Prop
  | done _ => True
  | fault _ => True
  | read _ next => ∀ sector, (next sector).OnlyReads
  | write _ _ _ => False

theorem OnlyReads.run_snd {δ : Type} [BlockDevice δ] {x : Transfer α} (h : x.OnlyReads)
    (device : δ) : (x.run device).2 = device := by
  induction x with
  | done a => rfl
  | fault cause => rfl
  | read block next ih =>
    rw [run]
    cases BlockDevice.read device block with
    | ok sector => exact ih sector (h sector)
    | error cause => rfl
  | write block data next ih => exact h.elim

/-- No block is written by a transfer without writes. -/
theorem OnlyReads.writes_traffic {δ : Type} [BlockDevice δ] {x : Transfer α} (h : x.OnlyReads)
    (device : δ) : (x.traffic device).writes = 0 := by
  induction x with
  | done a => rfl
  | fault cause => rfl
  | read block next ih =>
    rw [traffic]
    cases BlockDevice.read device block with
    | ok sector => simpa [Traffic.add_def] using ih sector (h sector)
    | error cause => rfl
  | write block data next ih => exact h.elim

/-- The block writes of two stretches are those of the first and then those of the second. -/
theorem writes_traffic_bind {δ : Type} [BlockDevice δ] {x : Transfer α} {f : α → Transfer β}
    {device device' : δ} {a : α} (h : x.run device = (.ok a, device')) :
    ((x >>= f).traffic device).writes =
      (x.traffic device).writes + ((f a).traffic device').writes :=
  congrArg Traffic.writes (traffic_bind h)

theorem onlyReads_pure (a : α) : (pure a : Transfer α).OnlyReads :=
  trivial

theorem OnlyReads.bind {x : Transfer α} {f : α → Transfer β} (h : x.OnlyReads)
    (hnext : ∀ a, (f a).OnlyReads) : (x >>= f).OnlyReads := by
  show (x.bind f).OnlyReads
  induction x with
  | done a => exact hnext a
  | fault cause => trivial
  | read block next ih => exact fun sector => ih sector (h sector)
  | write block data next ih => exact h.elim

theorem onlyReads_load (sector : SectorId) : (load sector).OnlyReads :=
  fun _ => trivial

theorem onlyReads_ofExcept (x : Except Fault α) : (ofExcept x).OnlyReads := by
  cases x <;> trivial

end SectorStore.Transfer
