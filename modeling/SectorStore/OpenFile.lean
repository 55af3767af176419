import SectorStore.Volume.Naming

/-!
# Open files

An open file knows the sector of its header and a position. Several may be open on one file: the
header on the disk decides, and is read anew for each operation. A write that goes beyond the end
of the file makes the file longer if it can, filling a gap with zeros, and otherwise stops at the
end. A write that has changed anything stamps the header with the time of the change.
-/

namespace SectorStore

/-- A file with a position for reading and writing in sequence. -/
structure OpenFile where
  /-- The sector of the file's header. -/
  headerSector : SectorId
  /-- The position of the next read or write. -/
  position : Nat
deriving DecidableEq, Repr

/-- Opens the file of the given name, at its start. -/
def Volume.open (volume : Volume) (name : String) : Except Refusal OpenFile :=
  match volume.directory.find? name with
  | some headerSector => .ok { headerSector, position := 0 }
  | none => .error .notFound

namespace OpenFile

/-- The header of the file as it is on the disk now. -/
def header (file : OpenFile) : Transfer FileHeader :=
  FileHeader.loadHome file.headerSector

/-- The length of the file. -/
def length (file : OpenFile) : Transfer Nat := do
  return (← file.header).length

/-- Reads the `count` bytes from `offset` on, as far as the file goes. -/
def readBytes (file : OpenFile) (offset count : Nat) : Transfer Bytes := do
  (← file.header).readBytes offset count

/-- Reads from `offset` on into a buffer, as far as the file goes. -/
def readAt (file : OpenFile) (offset : Nat) (buffer : Bytes) : Transfer Filling := do
  (← file.header).readAt offset buffer

/-- Makes the file reach up to `stop`, if it ends before that and can grow. The positions between
the old end and `offset` become zero. -/
def extend (header : FileHeader) (volume : Volume) (offset stop : Nat) :
    Transfer (FileHeader × Volume) := do
  let length := header.length
  if stop ≤ length then
    return (header, volume)
  else
    match ← header.grow volume.freeMap (stop - length) with
    | .error _ => return (header, volume)
    | .ok (header, freeMap) =>
      let volume := { volume with freeMap }
      volume.flush
      let _ ← header.writeAt length (List.replicate (offset - length) 0)
      return (header, volume)

/-- Writes `data` from `offset` on, and tells how many bytes were written. -/
def writeAt (file : OpenFile) (volume : Volume) (offset : Nat) (data : Bytes) :
    Transfer (Nat × Volume) := do
  let old ← file.header
  let stop ← checkedAdd offset data.length
  let (header, volume) ← extend old volume offset stop
  let written ← header.writeAt offset data
  if 0 < written ∨ header.length ≠ old.length then
    let (now, volume) := volume.now
    (header.setModified now).store file.headerSector
    return (written, volume)
  else
    return (written, volume)

/-- Reads from the file's position on, and moves the position behind what was read. -/
def read (file : OpenFile) (buffer : Bytes) : Transfer (Filling × OpenFile) := do
  let filling ← file.readAt file.position buffer
  return (filling, { file with position := file.position + filling.count })

/-- Writes from the file's position on, and moves the position behind what was written. -/
def write (file : OpenFile) (volume : Volume) (data : Bytes) :
    Transfer (Nat × OpenFile × Volume) := do
  let (written, volume) ← file.writeAt volume file.position data
  return (written, { file with position := file.position + written }, volume)

/-- Moves the position. -/
def seek (file : OpenFile) (position : Nat) : OpenFile :=
  { file with position }

end OpenFile

end SectorStore
