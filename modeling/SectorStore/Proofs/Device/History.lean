import SectorStore.Proofs.Device.Disk

/-!
# The history of a transfer

What a transfer has done to a device, access by access:

* `x.asked device` are the blocks that `x` asks for, also one at which the device faults.
* `x.accesses device` are the reads and writes that complete, with what is moved.
* `lastWrite? block accesses` is what was written last to a block.

On a disk the history tells everything: what is read is what was written last to the block, and what
lies there at first if nothing was (`readsLastWrites_accesses`). The same holds of what the disk has
in the end (`sector_run`).
-/

namespace SectorStore

/-- A block transfer that was completed. -/
inductive BlockAccess where
  /-- A block was read. -/
  | read (block : Nat) (data : Sector)
  /-- A block was written. -/
  | write (block : Nat) (data : Sector)
deriving DecidableEq

/-- What an access writes to a block. -/
def BlockAccess.written? (block : Nat) : BlockAccess → Option Sector
  | read _ _ => none
  | write other data => if other = block then some data else none

/-- What is written to a block by the last of the accesses that writes to it. -/
def lastWrite? (block : Nat) (accesses : List BlockAccess) : Option Sector :=
  (accesses.filterMap (·.written? block)).getLast?

/-- Every read finds what was written last to its block, and what lies there at first if nothing
was. -/
def ReadsLastWrites (initial : Nat → Sector) (accesses : List BlockAccess) : Prop :=
  ∀ before block data after, accesses = before ++ .read block data :: after →
    data = (lastWrite? block before).getD (initial block)

section Accesses

variable {initial : Nat → Sector} {accesses : List BlockAccess} {block other : Nat} {data : Sector}

theorem lastWrite?_cons_read :
    lastWrite? block (.read other data :: accesses) = lastWrite? block accesses :=
  rfl

/-- A write shows in its block until that is written again. -/
theorem getD_lastWrite?_cons_write {old : Sector} :
    (lastWrite? block (.write other data :: accesses)).getD old =
      (lastWrite? block accesses).getD (if block = other then data else old) := by
  rw [lastWrite?, List.filterMap_cons, BlockAccess.written?]
  by_cases h : other = block
  · simp [h, lastWrite?, List.getLast?_cons]
  · simp [h, Ne.symm h, lastWrite?]

theorem readsLastWrites_nil : ReadsLastWrites initial [] := by
  intro before block data after h
  simp at h

/-- A block that was not written yet reads as it was at first. -/
theorem ReadsLastWrites.cons_read (h : ReadsLastWrites initial accesses) (block : Nat) :
    ReadsLastWrites initial (.read block (initial block) :: accesses) := by
  -- the read in question is this one, with nothing before it, or a later one
  rintro (_ | ⟨access, before⟩) other data after heq
  · cases heq
    rfl
  · obtain ⟨rfl, htail⟩ := List.cons_eq_cons.1 heq
    rw [lastWrite?_cons_read]
    exact h before other data after htail

/-- After a write, the block reads as it was written. -/
theorem ReadsLastWrites.cons_write
    (h : ReadsLastWrites (Function.update initial block data) accesses) :
    ReadsLastWrites initial (.write block data :: accesses) := by
  rintro (_ | ⟨access, before⟩) other data' after heq
  · cases heq
  · obtain ⟨rfl, htail⟩ := List.cons_eq_cons.1 heq
    rw [getD_lastWrite?_cons_write, ← Function.update_apply]
    exact h before other data' after htail

end Accesses

namespace Transfer

section Device

variable {α β δ : Type} [BlockDevice δ]

/-- The blocks that are asked for while a transfer is played against a device. -/
def asked : Transfer α → δ → List Nat
  | done _, _ => []
  | fault _, _ => []
  | read block next, device =>
    block :: match BlockDevice.read device block with
      | .ok data => asked (next data) device
      | .error _ => []
  | write block data next, device =>
    block :: match BlockDevice.write device block data with
      | .ok device => asked next device
      | .error _ => []

theorem mem_asked_read (block : Nat) (next : Sector → Transfer α) (device : δ) :
    block ∈ (read block next).asked device := by
  rw [asked]
  exact List.mem_cons_self

theorem mem_asked_write (block : Nat) (data : Sector) (next : Transfer α) (device : δ) :
    block ∈ (write block data next).asked device := by
  rw [asked]
  exact List.mem_cons_self

/-- The reads and writes that complete while a transfer is played against a device. -/
def accesses : Transfer α → δ → List BlockAccess
  | done _, _ => []
  | fault _, _ => []
  | read block next, device =>
    match BlockDevice.read device block with
    | .ok data => .read block data :: accesses (next data) device
    | .error _ => []
  | write block data next, device =>
    match BlockDevice.write device block data with
    | .ok device => .write block data :: accesses next device
    | .error _ => []

/-- A sequence of two transfers asks for what the first one asks for, and then for what the second
one does, unless the first faults. -/
theorem asked_bind (x : Transfer α) (f : α → Transfer β) (device : δ) :
    (x >>= f).asked device = x.asked device ++
      match x.run device with
      | (.ok a, device) => (f a).asked device
      | (.error _, _) => [] := by
  show (x.bind f).asked device = _
  induction x generalizing device with
  | done a => rfl
  | fault cause => rfl
  | read block next ih =>
    simp only [bind, asked, run]
    cases BlockDevice.read device block with
    | ok data => exact congrArg (block :: ·) (ih data device)
    | error cause => rfl
  | write block data next ih =>
    simp only [bind, asked, run]
    cases BlockDevice.write device block data with
    | ok device => exact congrArg (block :: ·) (ih device)
    | error cause => rfl

end Device

section Disk

variable {α : Type} (x : Transfer α) (disk : Disk)

/-- No run changes the number of blocks. -/
theorem count_run : (x.run disk).2.count = disk.count := by
  induction x generalizing disk with
  | done a => rfl
  | fault cause => rfl
  | read block next ih =>
    rw [run]
    split
    · exact ih _ disk
    · rfl
  | write block data next ih =>
    by_cases hblock : block < disk.count
    · rw [run, Disk.write_of_lt hblock]
      exact ih (disk.putBlock block data)
    · simp [run, BlockDevice.write, hblock]

/-- Every read of a run gives what was written last. -/
theorem readsLastWrites_accesses : ReadsLastWrites disk.sector (x.accesses disk) := by
  induction x generalizing disk with
  | done a => exact readsLastWrites_nil
  | fault cause => exact readsLastWrites_nil
  | read block next ih =>
    by_cases hblock : block < disk.count
    · rw [accesses, Disk.read_of_lt hblock]
      exact (ih _ disk).cons_read block
    · -- the read faults, and nothing was done
      simpa [accesses, BlockDevice.read, hblock] using readsLastWrites_nil
  | write block data next ih =>
    by_cases hblock : block < disk.count
    · rw [accesses, Disk.write_of_lt hblock]
      -- for what follows, the disk has had the new contents from the start
      exact (ih (disk.putBlock block data)).cons_write
    · simpa [accesses, BlockDevice.write, hblock] using readsLastWrites_nil

/-- After a run each block has what was written to it last, and one that was never written is as it
was. -/
theorem sector_run (block : Nat) : (x.run disk).2.sector block =
    (lastWrite? block (x.accesses disk)).getD (disk.sector block) := by
  induction x generalizing disk with
  | done a => rfl
  | fault cause => rfl
  | read other next ih =>
    by_cases hother : other < disk.count
    · rw [run, accesses, Disk.read_of_lt hother]
      exact ih _ disk
    · simp [run, accesses, BlockDevice.read, hother, lastWrite?]
  | write other data next ih =>
    by_cases hother : other < disk.count
    · rw [run, accesses, Disk.write_of_lt hother]
      dsimp only
      rw [ih, getD_lastWrite?_cons_write, ← Function.update_apply]
      rfl
    · simp [run, accesses, BlockDevice.write, hother, lastWrite?]

end Disk

end Transfer

end SectorStore
