import Mathlib.Algebra.BigOperators.Fin
import SectorStore.FreeMap.Basic
import SectorStore.Proofs.OpenFile
import SectorStore.Session.Request

/-!
# Archives

What a volume does, told without sectors: an archive has a directory of `numEntries` places, each of
which is empty or holds a name and a string of bytes, and counts the sectors that these would take.
Open files are on places, and go `stale` when the file there is removed.

`Archive.step` carries out one command. A command is proper if no zero byte is in the name of a new
file, no stale file is used, and the end of what is read or written can be told.
-/

namespace SectorStore

/-- What a slot for an open file holds. -/
inductive Archive.Handle where
  /-- Nothing. -/
  | closed
  /-- A file that was opened in a place of the directory. -/
  | on (i : Fin numEntries)
  /-- A file that was removed after it was opened. -/
  | stale
deriving DecidableEq

/-- The state of an archive. -/
structure Archive where
  /-- The number of sectors of the volume. -/
  size : Nat
  /-- The names and the bytes of the files. -/
  files : Vector (Option (String × Bytes)) numEntries
  /-- The open files in the slots. -/
  handles : Slot → Archive.Handle

namespace Archive

/-- What may be asked of an archive. -/
inductive Command where
  /-- Makes a file. -/
  | create (name : String) (size : Nat)
  /-- Removes a file. -/
  | remove (name : String)
  /-- Names the files. -/
  | names
  /-- Opens a file and puts it into a slot. -/
  | openFile (slot : Slot) (name : String)
  /-- Tells the length of an open file. -/
  | length (slot : Slot)
  /-- Reads from an offset on. -/
  | readAt (slot : Slot) (offset : Nat) (buffer : Bytes)
  /-- Writes from an offset on. -/
  | writeAt (slot : Slot) (offset : Nat) (data : Bytes)

/-- The request that asks the same of the volume in a slot. -/
def Command.request (volume : Slot) : Command → Request
  | create name size => .create volume name size
  | remove name => .remove volume name
  | names => .names volume
  | openFile slot name => .openFile volume slot name
  | length slot => .length slot
  | readAt slot offset buffer => .readAt slot offset buffer
  | writeAt slot offset data => .writeAt slot offset data

/-- The archive without files. -/
def empty (size : Nat) : Archive where
  size
  files := .replicate numEntries none
  handles _ := .closed

/-- The sectors that a place of the directory takes: one for the header and those of the bytes. -/
def sectorsFor : Option (String × Bytes) → Nat
  | none => 0
  | some (_, bytes) => 1 + totalSectorsFor bytes.length

/-- The sectors of the files, of the tables and of the headers of the tables. -/
def numTaken (archive : Archive) : Nat :=
  2 + (totalSectorsFor (FreeMap.bytesFor archive.size) + totalSectorsFor Directory.byteSize) +
    ∑ i : Fin numEntries, sectorsFor (archive.files.get i)

/-- The number of free sectors. -/
def numFree (archive : Archive) : Nat :=
  archive.size - archive.numTaken

/-- The place of the file of the given name. -/
def indexOf? (archive : Archive) (name : String) : Option (Fin numEntries) :=
  archive.files.findFinIdx? fun file => file.map Prod.fst == some name

/-- The first empty place. -/
def firstEmpty? (archive : Archive) : Option (Fin numEntries) :=
  archive.files.findFinIdx? Option.isNone

/-- The place, the name and the bytes of the file that is open in a slot. -/
def fileIn? (archive : Archive) (slot : Slot) : Option (Fin numEntries × String × Bytes) :=
  match archive.handles slot with
  | .on i => (archive.files.get i).map fun file => (i, file)
  | _ => none

/-- The archive with something else in a place. -/
def setFile (archive : Archive) (i : Fin numEntries) (file : Option (String × Bytes)) : Archive :=
  { archive with files := archive.files.set i file i.isLt }

/-- The archive without the file in a place, where open files go stale. -/
def removeFile (archive : Archive) (i : Fin numEntries) : Archive :=
  { archive.setFile i none with
    handles slot := if archive.handles slot = .on i then .stale else archive.handles slot }

/-- The reason for which a new file is refused, if it is. -/
def refusal? (archive : Archive) (name : String) (size : Nat) : Option Refusal :=
  if (archive.indexOf? name).isSome then some .alreadyExists
  else if archive.numFree = 0 then some .noSpace
  else if name = "" then some .emptyName
  else if maxNameBytes < name.utf8ByteSize then some .nameTooLong
  else if archive.firstEmpty? = none then some .directoryFull
  else if maxSectors < SectorStore.sectorsFor size then some .fileTooLarge
  else if archive.numFree - 1 < totalSectorsFor size then some .noSpace
  else none

/-- The length that a file of `length` bytes has after a write that was to end at `stop`: it grows
if its last sector reaches that far, or if it needs no more sectors than a header lists itself and
there are free ones for those that are missing. -/
def reach (archive : Archive) (length stop : Nat) : Nat :=
  let old := SectorStore.sectorsFor length
  let new := SectorStore.sectorsFor stop
  if length < stop ∧ (new = old ∨ old ≤ numDirect ∧ new ≤ numDirect ∧ new - old ≤ archive.numFree)
  then stop else length

/-- Carries out a command. -/
def step (archive : Archive) : Command → Answer × Archive
  | .create name size =>
    match archive.refusal? name size, archive.firstEmpty? with
    | some cause, _ => (.refused cause, archive)
    | none, some i => (.done, archive.setFile i (some (name, List.replicate size 0)))
    | none, none => (.refused .directoryFull, archive)
  | .remove name =>
    match archive.indexOf? name with
    | some i => (.done, archive.removeFile i)
    | none => (.refused .notFound, archive)
  | .names => (.names (archive.files.toList.filterMap (Option.map Prod.fst)), archive)
  | .openFile slot name =>
    match archive.indexOf? name with
    | some i => (.done, { archive with handles := Function.update archive.handles slot (.on i) })
    | none => (.refused .notFound, archive)
  | .length slot =>
    match archive.fileIn? slot with
    | some (_, _, bytes) => (.count bytes.length, archive)
    | none => (.noHandle, archive)
  | .readAt slot offset buffer =>
    match archive.fileIn? slot with
    | some (_, _, bytes) => (.filled (.front buffer (bytes.slice offset buffer.length)), archive)
    | none => (.noHandle, archive)
  | .writeAt slot offset data =>
    match archive.fileIn? slot with
    | some (i, name, bytes) =>
      let length := archive.reach bytes.length (offset + data.length)
      (.count (min data.length (length - offset)),
        archive.setFile i (some (name, bytes.overlay length offset data)))
    | none => (.noHandle, archive)

/-- Carries out commands one after another. -/
def run (archive : Archive) : List Command → List Answer × Archive
  | [] => ([], archive)
  | command :: others =>
    let after := (archive.step command).2.run others
    ((archive.step command).1 :: after.1, after.2)

/-- The command makes no file with a zero byte in its name, uses no file that was removed, and reads
and writes only where the sum of the offset and the length is below the limit. -/
def Permits (archive : Archive) : Command → Prop
  | .create name _ => '\x00' ∉ name.toList
  | .length slot => archive.handles slot ≠ .stale
  | .readAt slot offset data | .writeAt slot offset data =>
    archive.handles slot ≠ .stale ∧ offset + data.length < sumLimit
  | _ => True

/-- All commands are permitted when their turn comes. -/
def PermitsAll (archive : Archive) : List Command → Prop
  | [] => True
  | command :: others => archive.Permits command ∧ (archive.step command).2.PermitsAll others

instance decidablePermits (archive : Archive) :
    (command : Command) → Decidable (archive.Permits command)
  | .create name _ => inferInstanceAs (Decidable ('\x00' ∉ name.toList))
  | .length slot => inferInstanceAs (Decidable (archive.handles slot ≠ .stale))
  | .readAt slot offset data | .writeAt slot offset data =>
    inferInstanceAs (Decidable (archive.handles slot ≠ .stale ∧ offset + data.length < sumLimit))
  | .remove _ => inferInstanceAs (Decidable True)
  | .names => inferInstanceAs (Decidable True)
  | .openFile .. => inferInstanceAs (Decidable True)

instance decidablePermitsAll :
    (commands : List Command) → (archive : Archive) → Decidable (archive.PermitsAll commands)
  | [], _ => inferInstanceAs (Decidable True)
  | command :: others, archive =>
    have := decidablePermitsAll others (archive.step command).2
    inferInstanceAs (Decidable (archive.Permits command ∧ _))

/-! ## Places -/

variable {archive : Archive} {i j : Fin numEntries} {file : Option (String × Bytes)}

theorem get_files_setFile : (archive.setFile i file).files.get j =
    if j = i then file else archive.files.get j := by
  show (archive.files.set i file i.isLt)[j.val] = if j = i then file else archive.files[j.val]
  by_cases h : j = i
  · simp [h]
  · rw [if_neg h]
    exact Vector.getElem_set_ne i.isLt j.isLt fun heq => h (Fin.ext heq.symm)

theorem get_files_empty {size : Nat} : (empty size).files.get i = none := by
  show (Vector.replicate numEntries none)[i.val] = none
  exact Vector.getElem_replicate _

/-- A change in one place changes the taken sectors by what this place takes. -/
theorem numTaken_setFile (archive : Archive) (i : Fin numEntries)
    (file : Option (String × Bytes)) :
    (archive.setFile i file).numTaken + sectorsFor (archive.files.get i) =
      archive.numTaken + sectorsFor file := by
  have hothers : ∑ j ∈ {i}ᶜ, sectorsFor ((archive.setFile i file).files.get j) =
      ∑ j ∈ {i}ᶜ, sectorsFor (archive.files.get j) := by
    apply Finset.sum_congr rfl
    intro j hj
    rw [get_files_setFile, if_neg (by simpa using hj)]
  rw [numTaken, numTaken, Fintype.sum_eq_add_sum_compl i, Fintype.sum_eq_add_sum_compl i, hothers,
    get_files_setFile, if_pos rfl]
  show 2 + (totalSectorsFor (FreeMap.bytesFor archive.size) + _) + _ + _ = _
  omega

end Archive

end SectorStore
