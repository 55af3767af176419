import SectorStore.Proofs.Pipe.Making
import SectorStore.Proofs.Pipe.Steps
import SectorStore.Session.Basic

/-!
# Handles of a session

The slots of a session hold files and pipes. A handle is good for use while its file is in the
directory (`FileIsListed`, `PipeIsListed`). What a request leaves in the slots goes on from what was
there before, or is good for use (`HandlesFrom`).

A session numbers its pipes, so that each has a file of its own: in a `Numbered` session no two
slots hold pipes with the same file name. Making a pipe under the next number, moving on with a pipe
and dropping one keep it so.
-/

namespace SectorStore

/-- The file is in the directory. -/
def Volume.HoldsFile (volume : Volume) (file : OpenFile) : Prop :=
  ∃ i, volume.Lists file.headerSector i

/-- The file of the pipe is in the directory, under its name. -/
def Volume.HoldsPipe (volume : Volume) (pipe : Pipe) : Prop :=
  ∃ i : Fin numEntries, volume.Lists pipe.file.headerSector i ∧
    (volume.directory.entry i).name = pipe.name

/-- The file has been moved on to another position. -/
def OpenFile.Continues (file file' : OpenFile) : Prop :=
  file'.headerSector = file.headerSector

theorem OpenFile.Continues.refl (file : OpenFile) : file.Continues file :=
  rfl

namespace Session

variable {session session' : Session} {slot : Slot}

/-- There is nothing in the slots at first. -/
theorem getElem?_empty_slot {α : Type} {slot : Slot} {a : α} :
    (∅ : Std.TreeMap Slot α)[slot]? ≠ some a := by
  rw [Std.TreeMap.getElem?_emptyc]
  exact (Option.some_ne_none a).symm

/-- A slot holds what was put into it last. -/
theorem getElem?_insert_slot {α : Type} (slots : Std.TreeMap Slot α) (slot other : Slot) (a : α) :
    (slots.insert slot a)[other]? = if slot = other then some a else slots[other]? := by
  simp only [Std.TreeMap.getElem?_insert, Nat.compare_eq_eq]

theorem getElem?_erase_slot {α : Type} (slots : Std.TreeMap Slot α) (slot other : Slot) :
    (slots.erase slot)[other]? = if slot = other then none else slots[other]? := by
  simp only [Std.TreeMap.getElem?_erase, Nat.compare_eq_eq]

/-! ## Handles on files of the directory -/

/-- The file open in a slot, if there is one, is in the directory. -/
def FileIsListed (session : Session) (slot : Slot) : Prop :=
  ∀ file volume, session.fileIn? slot = some (file, volume) → volume.HoldsFile file.item

/-- The file of the pipe in a slot, if there is one, is in the directory. -/
def PipeIsListed (session : Session) (slot : Slot) : Prop :=
  ∀ pipe volume, session.pipeIn? slot = some (pipe, volume) → volume.HoldsPipe pipe.item

/-- Each handle continues the one that was in its slot before, or is good for use. -/
def HandlesFrom {α : Type} (continues : α → α → Prop) (good : α → Prop)
    (slots slots' : Std.TreeMap Slot (Attached α)) : Prop :=
  ∀ (slot : Slot) (handle' : Attached α), slots'[slot]? = some handle' →
    (∃ handle, slots[slot]? = some handle ∧ handle.volume = handle'.volume ∧
      continues handle.item handle'.item) ∨ good handle'.item

namespace HandlesFrom

variable {α : Type} {continues : α → α → Prop} {good : α → Prop}
  {slots : Std.TreeMap Slot (Attached α)} {handle : Attached α}

theorem refl (hrefl : ∀ a, continues a a) (good : α → Prop)
    (slots : Std.TreeMap Slot (Attached α)) : HandlesFrom continues good slots slots :=
  fun _ handle hhandle => .inl ⟨handle, hhandle, rfl, hrefl _⟩

/-- A handle may be put into a slot if it continues the one there or is good. -/
theorem insert (hrefl : ∀ a, continues a a)
    (h : (∃ old, slots[slot]? = some old ∧ old.volume = handle.volume ∧
      continues old.item handle.item) ∨ good handle.item) :
    HandlesFrom continues good slots (slots.insert slot handle) := by
  intro other handle' hhandle'
  rw [getElem?_insert_slot] at hhandle'
  split at hhandle'
  · next hslot =>
    obtain rfl := Option.some.inj hhandle'
    exact hslot ▸ h
  · exact .inl ⟨handle', hhandle', rfl, hrefl _⟩

/-- A slot may be emptied. -/
theorem erase (hrefl : ∀ a, continues a a) :
    HandlesFrom continues good slots (slots.erase slot) := by
  intro other handle' hhandle'
  rw [getElem?_erase_slot] at hhandle'
  split at hhandle'
  · cases hhandle'
  · exact .inl ⟨handle', hhandle', rfl, hrefl _⟩

end HandlesFrom

/-- What becomes of the open files of a session. -/
def FilesFrom (session session' : Session) (volume' : Volume) : Prop :=
  HandlesFrom OpenFile.Continues volume'.HoldsFile session.files session'.files

/-- What becomes of the pipes of a session; there are new ones only where pipes are made. -/
def PipesFrom (session session' : Session) (makes : Prop) (volume' : Volume) : Prop :=
  HandlesFrom Pipe.Continues (fun pipe => makes ∧ volume'.HoldsPipe pipe) session.pipes
    session'.pipes

variable {volume' : Volume}

theorem FilesFrom.of_eq (h : session'.files = session.files) :
    session.FilesFrom session' volume' := by
  rw [FilesFrom, h]
  exact .refl OpenFile.Continues.refl _ _

/-- A file goes on from another position. -/
theorem FilesFrom.of_insert {old file : Attached OpenFile}
    (hfiles : session'.files = session.files.insert slot file)
    (hold : session.files[slot]? = some old) (hvolume : old.volume = file.volume)
    (hcontinues : old.item.Continues file.item) :
    session.FilesFrom session' volume' := by
  rw [FilesFrom, hfiles]
  exact .insert OpenFile.Continues.refl (.inl ⟨old, hold, hvolume, hcontinues⟩)

theorem PipesFrom.of_eq {makes : Prop} (h : session'.pipes = session.pipes) :
    session.PipesFrom session' makes volume' := by
  rw [PipesFrom, h]
  exact .refl Pipe.Continues.refl _ _

/-! ## Pipes with names of their own -/

/-- Each pipe has a file name of its own, made from a number that was used up. -/
structure Numbered (session : Session) : Prop where
  /-- The number of each pipe was used up. -/
  exists_number : ∀ (slot : Slot) (pipe : Attached Pipe), session.pipes[slot]? = some pipe →
    ∃ ringSize number, number < session.nextPipe ∧ pipe.item.name = Pipe.fileName ringSize number
  /-- Pipes in different slots have different names. -/
  slot_eq : ∀ (slot slot' : Slot) (pipe pipe' : Attached Pipe), session.pipes[slot]? = some pipe →
    session.pipes[slot']? = some pipe' → pipe.item.name = pipe'.item.name → slot = slot'

namespace Numbered

/-- The numbers of the pipes stay below the next one when it grows. -/
theorem congr (h : session.Numbered) (hpipes : session'.pipes = session.pipes)
    (hnext : session.nextPipe ≤ session'.nextPipe) : session'.Numbered where
  exists_number slot pipe hpipe := by
    rw [hpipes] at hpipe
    obtain ⟨ringSize, number, hlt, hname⟩ := h.exists_number slot pipe hpipe
    exact ⟨ringSize, number, Nat.lt_of_lt_of_le hlt hnext, hname⟩
  slot_eq := by
    rw [hpipes]
    exact h.slot_eq

/-- A pipe keeps its name. -/
theorem update (h : session.Numbered) {old pipe : Attached Pipe}
    (hold : session.pipes[slot]? = some old) (hname : pipe.item.name = old.item.name)
    (hpipes : session'.pipes = session.pipes.insert slot pipe)
    (hnext : session'.nextPipe = session.nextPipe) : session'.Numbered := by
  -- every pipe was there before under its name
  have hbefore : ∀ (s : Slot) (p : Attached Pipe), session'.pipes[s]? = some p →
      ∃ q, session.pipes[s]? = some q ∧ q.item.name = p.item.name := by
    intro s p hp
    rw [hpipes, getElem?_insert_slot] at hp
    split at hp
    · next hs =>
      obtain rfl := Option.some.inj hp
      exact ⟨old, hs ▸ hold, hname.symm⟩
    · exact ⟨p, hp, rfl⟩
  constructor
  · intro s p hp
    obtain ⟨q, hq, hqname⟩ := hbefore s p hp
    rw [hnext, ← hqname]
    exact h.exists_number s q hq
  · intro s s' p p' hp hp' heq
    obtain ⟨q, hq, hqname⟩ := hbefore s p hp
    obtain ⟨q', hq', hqname'⟩ := hbefore s' p' hp'
    exact h.slot_eq s s' q q' hq hq' (by rw [hqname, hqname', heq])

/-- A new pipe takes the next number. -/
theorem insert (h : session.Numbered) {pipe : Attached Pipe} {ringSize : Nat}
    (hname : pipe.item.name = Pipe.fileName ringSize session.nextPipe)
    (hpipes : session'.pipes = session.pipes.insert slot pipe)
    (hnext : session'.nextPipe = session.nextPipe + 1) : session'.Numbered := by
  have hcases : ∀ (s : Slot) (p : Attached Pipe), session'.pipes[s]? = some p →
      s = slot ∧ p = pipe ∨ session.pipes[s]? = some p ∧ p.item.name ≠ pipe.item.name := by
    intro s p hp
    rw [hpipes, getElem?_insert_slot] at hp
    split at hp
    · next hs => exact .inl ⟨hs.symm, (Option.some.inj hp).symm⟩
    · refine .inr ⟨hp, ?_⟩
      obtain ⟨ringSize', number, hlt, hpname⟩ := h.exists_number s p hp
      rw [hpname, hname]
      -- a name tells its number, and the numbers in use are lower
      intro heq
      exact Nat.ne_of_lt hlt (Pipe.fileName_inj heq)
  constructor
  · intro s p hp
    rw [hnext]
    rcases hcases s p hp with ⟨rfl, rfl⟩ | ⟨hp, -⟩
    · exact ⟨ringSize, session.nextPipe, Nat.lt_succ_self _, hname⟩
    · obtain ⟨ringSize', number, hlt, hpname⟩ := h.exists_number s p hp
      exact ⟨ringSize', number, Nat.lt_succ_of_lt hlt, hpname⟩
  · intro s s' p p' hp hp' heq
    rcases hcases s p hp with ⟨rfl, rfl⟩ | ⟨hp, hne⟩
    · rcases hcases s' p' hp' with ⟨rfl, rfl⟩ | ⟨hp', hne'⟩
      · rfl
      · exact absurd heq.symm hne'
    · rcases hcases s' p' hp' with ⟨rfl, rfl⟩ | ⟨hp', -⟩
      · exact absurd heq hne
      · exact h.slot_eq s s' p p' hp hp' heq

/-- The pipes that are left have names of their own. -/
theorem erase (h : session.Numbered) (hpipes : session'.pipes = session.pipes.erase slot)
    (hnext : session'.nextPipe = session.nextPipe) : session'.Numbered := by
  have hbefore : ∀ (s : Slot) (p : Attached Pipe), session'.pipes[s]? = some p →
      session.pipes[s]? = some p := by
    intro s p hp
    rw [hpipes, getElem?_erase_slot] at hp
    split at hp
    · cases hp
    · exact hp
  constructor
  · intro s p hp
    rw [hnext]
    exact h.exists_number s p (hbefore s p hp)
  · intro s s' p p' hp hp'
    exact h.slot_eq s s' p p' (hbefore s p hp) (hbefore s' p' hp')

end Numbered

end Session

end SectorStore
