import SectorStore.Fault
import SectorStore.Sector

/-!
# Transfers

Everything the store does to a disk is a `Transfer`: a tree whose nodes are single sector reads and
writes and whose leaves are an answer or a fault. A transfer names no device. What it does is fixed
by how the reads are answered, so the same tree can be run on a memory disk or on an image file
(`Device.Basic`), and the traffic it causes can be counted without touching the code that builds
it. There is no cache between the two: every `load` is one read and every `store` one write.
-/

namespace SectorStore

/-- A computation that reads and writes whole blocks of some disk. -/
inductive Transfer (α : Type) where
  /-- The computation has finished with an answer. -/
  | done (value : α)
  /-- The computation is given up for good. -/
  | fault (cause : Fault)
  /-- A block is read, and the computation continues with what is in it. -/
  | read (block : Nat) (next : Sector → Transfer α)
  /-- A block is written, and the computation continues. -/
  | write (block : Nat) (data : Sector) (next : Transfer α)

namespace Transfer

variable {α β γ : Type}

/-- The transfer that continues with `f` where `x` is done. -/
def bind : Transfer α → (α → Transfer β) → Transfer β
  | done a, f => f a
  | fault cause, _ => fault cause
  | read block next, f => read block fun sector => (next sector).bind f
  | write block data next, f => write block data (next.bind f)

instance : Monad Transfer where
  pure := done
  bind := bind

/-- A step that needs no disk, as a transfer. -/
def ofExcept : Except Fault α → Transfer α
  | .ok a => done a
  | .error cause => fault cause

instance : MonadLift (Except Fault) Transfer where
  monadLift := ofExcept

/-- Reads a sector. -/
def load (sector : SectorId) : Transfer Sector :=
  read sector.toNat done

/-- Writes a sector. -/
def store (sector : SectorId) (data : Sector) : Transfer Unit :=
  write sector.toNat data (done ())

@[simp]
theorem bind_done (x : Transfer α) : x.bind done = x := by
  induction x with
  | done a => rfl
  | fault cause => rfl
  | read block next ih => simp [bind, ih]
  | write block data next ih => simp [bind, ih]

theorem bind_assoc (x : Transfer α) (f : α → Transfer β) (g : β → Transfer γ) :
    (x.bind f).bind g = x.bind fun a => (f a).bind g := by
  induction x with
  | done a => rfl
  | fault cause => rfl
  | read block next ih => simp [bind, ih]
  | write block data next ih => simp [bind, ih]

instance : LawfulMonad Transfer :=
  LawfulMonad.mk' Transfer (fun x => bind_done x) (fun _ _ => rfl) bind_assoc

end Transfer

end SectorStore
