import SectorStore.Device.Basic
import SectorStore.Refusal

/-!
# Transfers that ask for sectors only

The block of a transfer may have any number. `x.AsksSectors` says that every block for which `x` can
ask, whatever is read on the way, has a number that a sector can have. Nothing is moved but by
`load` and `store`, so there is one rule for each of them, and one for each way to put transfers
together.
-/

namespace SectorStore.Transfer

variable {α β ε : Type}

/-- Whatever is read, each block that is asked for is a sector. -/
inductive AsksSectors : Transfer α → Prop
  | done (a : α) : AsksSectors (done a)
  | fault (cause : Fault) : AsksSectors (fault cause)
  | read (sector : SectorId) {next : Sector → Transfer α} (h : ∀ data, AsksSectors (next data)) :
      AsksSectors (read sector.toNat next)
  | write (sector : SectorId) (data : Sector) {next : Transfer α} (h : AsksSectors next) :
      AsksSectors (write sector.toNat data next)

theorem asksSectors_pure (a : α) : (pure a : Transfer α).AsksSectors :=
  .done a

theorem AsksSectors.bind {x : Transfer α} {f : α → Transfer β} (h : x.AsksSectors)
    (hnext : ∀ a, (f a).AsksSectors) : (x >>= f).AsksSectors := by
  show (x.bind f).AsksSectors
  induction h with
  | done a => exact hnext a
  | fault cause => exact .fault cause
  | read sector _ ih => exact .read sector ih
  | write sector data _ ih => exact .write sector data ih

/-- Reading a sector asks for this sector. -/
theorem asksSectors_load (sector : SectorId) : (load sector).AsksSectors :=
  .read sector fun data => .done data

/-- Writing a sector asks for this sector. -/
theorem asksSectors_store (sector : SectorId) (data : Sector) : (store sector data).AsksSectors :=
  .write sector data (.done ())

/-- A step that needs no disk asks for nothing. -/
theorem asksSectors_liftM (y : Except Fault α) : (liftM y : Transfer α).AsksSectors := by
  cases y with
  | ok a => exact .done a
  | error cause => exact .fault cause

/-! ## Transfers that may be refused -/

theorem asksSectors_run_pure (a : α) : (pure a : ExceptT ε Transfer α).run.AsksSectors :=
  .done _

theorem asksSectors_run_throw (cause : ε) :
    (throw cause : ExceptT ε Transfer α).run.AsksSectors :=
  .done _

/-- What is refused asks for nothing further. -/
theorem AsksSectors.run_bind {x : ExceptT ε Transfer α} {f : α → ExceptT ε Transfer β}
    (h : x.run.AsksSectors) (hnext : ∀ a, (f a).run.AsksSectors) :
    (x >>= f).run.AsksSectors := by
  rw [ExceptT.run_bind]
  refine h.bind fun answer => ?_
  cases answer with
  | ok a => exact hnext a
  | error cause => exact .done _

theorem AsksSectors.run_lift {x : Transfer α} (h : x.AsksSectors) :
    (liftM x : ExceptT ε Transfer α).run.AsksSectors :=
  AsksSectors.bind h fun _ => .done _

/-- A step that needs no disk asks for nothing, whether it is refused or not. -/
theorem asksSectors_run_liftM (y : Except ε α) :
    (liftM y : ExceptT ε Transfer α).run.AsksSectors := by
  cases y with
  | ok a => exact .done _
  | error cause => exact .done _

end SectorStore.Transfer
