import SectorStore.Bytes.LittleEndian
import SectorStore.FileHeader.Basic

/-!
# Headers and index sectors on the disk

A header fills one sector: the length and the number of data sectors as words, the type, the times
of creation, change and visit, a padding byte, and a table of `numSlots` sector numbers, of which
unused ones are zero and the last one is the index sector's. An index sector is a table of sector
numbers.
-/

namespace SectorStore

/-- A table of sector numbers. -/
abbrev SectorTable := List SectorId

namespace SectorTable

/-- The number in one slot of a table. -/
def entry (table : SectorTable) (slot : Nat) : Except Fault SectorId :=
  match table[slot]? with
  | some sector => .ok sector
  | none => .error .indexOutOfBounds

/-- The first `count` numbers of a table, which must have as many. -/
def front (table : SectorTable) (count : Nat) : Except Fault (List SectorId) :=
  if count ≤ table.length then .ok (table.take count) else .error .indexOutOfBounds

/-- The sector filled by a table, with zeros behind it. -/
def toSector (table : SectorTable) : Sector :=
  (Bytes.ofWords table).fit sectorSize

/-- The `indexCapacity` numbers in a sector. -/
def ofSector (sector : Sector) : SectorTable :=
  Bytes.toWords sector.toList

end SectorTable

namespace FileHeader

/-- The sector numbers in the slots of a stored header. -/
def slots (header : FileHeader) : SectorTable :=
  match header.map with
  | .direct sectors => sectors.take numSlots
  | .indirect sectors index => sectors.toList ++ [index]

/-- The header as it is stored. -/
def encode (header : FileHeader) : Sector :=
  Bytes.fit sectorSize <|
    Bytes.ofWord header.numBytes ++ Bytes.ofWord (.ofNat header.sectorCount) ++
      header.kind.bytes.toList ++ header.created.bytes.toList ++ header.modified.bytes.toList ++
      header.visited.bytes.toList ++ [0] ++ Bytes.ofWords header.slots

/-- The text field of `n` bytes at position `start` of a sector. -/
def fieldAt (n : Nat) (sector : Sector) (start : Nat) : FixedText n :=
  ⟨Bytes.fit n (sector.slice start n)⟩

/-- The map of `count` sectors in the slots of a stored header. -/
def mapOfSlots (count : Nat) (slots : SectorTable) : SectorMap :=
  if count ≤ numDirect then
    .direct (slots.take count)
  else
    .indirect (.ofFn fun i => slots.getD i 0) (slots.getD numDirect 0)

/-- The header stored in a sector; `none` if it claims more sectors than a file can have. -/
def decode? (sector : Sector) : Option FileHeader :=
  let count := (Bytes.toWord (sector.slice 4 4)).toNat
  if maxSectors < count then
    none
  else
    some {
      numBytes := Bytes.toWord (sector.slice 0 4)
      map := mapOfSlots count (Bytes.toWords (sector.slice (metadataSize + 1) (4 * numSlots)))
      kind := fieldAt kindWidth sector 8
      created := fieldAt timeWidth sector (8 + kindWidth)
      modified := fieldAt timeWidth sector (8 + kindWidth + timeWidth)
      visited := fieldAt timeWidth sector (8 + kindWidth + 2 * timeWidth)
      home := none }

/-- Reads the header that a sector holds. -/
def load (sector : SectorId) : Transfer FileHeader := do
  match decode? (← Transfer.load sector) with
  | some header => return header
  | none => .fault (.corruptedHeader sector.toNat)

/-- Writes the header to a sector. -/
def store (header : FileHeader) (sector : SectorId) : Transfer Unit :=
  Transfer.store sector header.encode

/-- Reads the header that a sector holds, and records that sector in it. -/
def loadHome (sector : SectorId) : Transfer FileHeader := do
  return (← load sector).setHome sector

end FileHeader

end SectorStore
