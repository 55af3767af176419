import SectorStore.Text.Fixed
import SectorStore.Transfer

/-!
# File headers

A file header says how long a file is and in which sectors its bytes are. Up to `numDirect` sectors
are listed in the header itself. A larger file has its first `numDirect` sectors listed there, and
the others in an index sector, which has room for `indexCapacity` numbers and no more; this bounds
the size of a file. A header also carries a type and three times, as short texts.

`FileHeader.IsConsistent` states that the sector map has the shape that the length asks for.
-/

namespace SectorStore

/-- The number of bytes of the type field. -/
abbrev kindWidth : Nat := 5

/-- The number of bytes of a time field. -/
abbrev timeWidth : Nat := 26

/-- The number of bytes of a header in front of its sector numbers: two words, the type and three
times. -/
abbrev metadataSize : Nat := 2 * 4 + kindWidth + 3 * timeWidth

/-- The number of sector numbers in a header. -/
abbrev numSlots : Nat := (sectorSize - metadataSize) / 4

/-- The number of sectors that a header can list itself; the last slot is for the index sector. -/
abbrev numDirect : Nat := numSlots - 1

/-- The number of sector numbers in an index sector. -/
abbrev indexCapacity : Nat := sectorSize / 4

/-- The largest number of sectors of a file. -/
abbrev maxSectors : Nat := numDirect + indexCapacity

/-- The largest size of a file. -/
abbrev maxFileSize : Nat := maxSectors * sectorSize

/-- The number of sectors that a file of `size` bytes takes from the disk: its data sectors, and an
index sector if they are more than `numDirect`. -/
def totalSectorsFor (size : Nat) : Nat :=
  sectorsFor size + if numDirect < sectorsFor size then 1 else 0

/-- Where the bytes of a file are. -/
inductive SectorMap where
  /-- The data sectors of a file, in order. -/
  | direct (sectors : List SectorId)
  /-- The first data sectors of a file, and the index sector that lists the others. -/
  | indirect (sectors : Vector SectorId numDirect) (index : SectorId)
deriving DecidableEq

/-- The data sectors that a map lists itself. -/
def SectorMap.listed : SectorMap → List SectorId
  | direct sectors => sectors
  | indirect sectors _ => sectors.toList

/-- The description of a file. -/
structure FileHeader where
  /-- The length of the file in bytes. -/
  numBytes : UInt32
  /-- Where the bytes are. -/
  map : SectorMap
  /-- The type of the file. -/
  kind : FixedText kindWidth
  /-- The time at which the file was made. -/
  created : FixedText timeWidth
  /-- The time at which the file was last changed. -/
  modified : FixedText timeWidth
  /-- The time at which the file was last looked at. -/
  visited : FixedText timeWidth
  /-- The sector in which the header itself is kept, where that is known. It is not stored. -/
  home : Option SectorId
deriving DecidableEq

namespace FileHeader

/-- The header of a file of no bytes. -/
def empty : FileHeader where
  numBytes := 0
  map := .direct []
  kind := .blank
  created := .blank
  modified := .blank
  visited := .blank
  home := none

/-- The length of the file in bytes. -/
def length (header : FileHeader) : Nat :=
  header.numBytes.toNat

/-- The number of data sectors that the length asks for. -/
def sectorCount (header : FileHeader) : Nat :=
  sectorsFor header.length

/-- The map has the shape and the number of sectors that the length asks for. -/
def IsConsistent (header : FileHeader) : Prop :=
  match header.map with
  | .direct sectors => sectors.length = header.sectorCount ∧ header.sectorCount ≤ numDirect
  | .indirect _ _ => numDirect < header.sectorCount ∧ header.sectorCount ≤ maxSectors

instance (header : FileHeader) : Decidable header.IsConsistent := by
  unfold IsConsistent
  split <;> infer_instance

/-- Sets the type; no type is recorded as `None`. -/
def setKind (header : FileHeader) (kind : String) : FileHeader :=
  { header with kind := .ofString (if kind.isEmpty then "None" else kind) }

/-- Sets the time of creation. -/
def setCreated (header : FileHeader) (time : String) : FileHeader :=
  { header with created := .ofString time }

/-- Sets the time of the last change. -/
def setModified (header : FileHeader) (time : String) : FileHeader :=
  { header with modified := .ofString time }

/-- Sets the time of the last visit. -/
def setVisited (header : FileHeader) (time : String) : FileHeader :=
  { header with visited := .ofString time }

/-- Describes a file that is new at the time `now`. -/
def describe (header : FileHeader) (kind now : String) : FileHeader :=
  (((header.setKind kind).setCreated now).setModified now).setVisited now

/-- Records the sector in which the header is kept. -/
def setHome (header : FileHeader) (sector : SectorId) : FileHeader :=
  { header with home := some sector }

/-- The number of data sectors that the index sector lists. -/
def indirectCount (header : FileHeader) : Except Fault Nat :=
  if header.sectorCount < numDirect then
    .error .countBelowZero
  else
    .ok (header.sectorCount - numDirect)

/-- A header without sectors and bytes is consistent. -/
theorem isConsistent_empty : empty.IsConsistent := by
  decide

end FileHeader

end SectorStore
