import SectorStore.Checked
import SectorStore.FileHeader.Layout
import SectorStore.Span

/-!
# Bytes of a file

A header presents the sectors of a file as one range of bytes. `sectorAt` finds the sector of one
byte, `sectors` lists all of them, and `readAt` and `writeAt` transfer bytes between the file and a
buffer, never beyond the length of the file. A position behind the sectors that the header lists
costs one read of the index sector each time it is looked up.
-/

namespace SectorStore.FileHeader

/-- The sector that holds the byte at `offset`. -/
def sectorAt (header : FileHeader) (offset : Nat) : Transfer SectorId :=
  if header.length ≤ offset then
    .fault (.offsetOutOfRange offset header.length)
  else
    let block := offset / sectorSize
    match header.map with
    | .direct sectors => SectorTable.entry sectors block
    | .indirect sectors index =>
      if h : block < numDirect then
        return sectors[block]
      else do
        let table := SectorTable.ofSector (← Transfer.load index)
        table.entry (block - numDirect)

/-- All data sectors of the file, in order. -/
def sectors (header : FileHeader) : Transfer (List SectorId) :=
  match header.map with
  | .direct sectors => return sectors
  | .indirect sectors index => do
    let count ← header.indirectCount
    let table := SectorTable.ofSector (← Transfer.load index)
    return sectors.toList ++ (← table.front count)

/-- Reads the part of `span` that lies in the `count` blocks from `block` on. -/
def readBlocks (header : FileHeader) (span : Span) : (count block : Nat) → Transfer Bytes
  | 0, _ => return []
  | count + 1, block => do
    let piece := span.within block
    let sector ← Transfer.load (← header.sectorAt piece.start)
    let rest ← header.readBlocks span count (block + 1)
    return sector.slice (piece.start % sectorSize) piece.count ++ rest

/-- Reads the `count` bytes from `offset` on, as far as the file goes. -/
def readBytes (header : FileHeader) (offset count : Nat) : Transfer Bytes := do
  let span := Span.clip offset (← checkedAdd offset count) header.length
  header.readBlocks span span.numBlocks span.firstBlock

/-- Reads from `offset` on into a buffer, as far as the file goes. -/
def readAt (header : FileHeader) (offset : Nat) (buffer : Bytes) : Transfer Filling := do
  return .front buffer (← header.readBytes offset buffer.length)

/-- Reads all bytes of the file. -/
def readAll (header : FileHeader) : Transfer Bytes :=
  header.readBytes 0 header.length

/-- Writes `data` to the part of `span` that lies in the `count` blocks from `block` on. A block of
which only a part is written is read first. -/
def writeBlocks (header : FileHeader) (span : Span) :
    (count block : Nat) → (data : Bytes) → Transfer Unit
  | 0, _, _ => return ()
  | count + 1, block, data => do
    let piece := span.within block
    let id ← header.sectorAt piece.start
    let old ← if piece.isWholeBlock then pure Sector.zero else Transfer.load id
    Transfer.store id (old.patch (piece.start % sectorSize) (data.take piece.count))
    header.writeBlocks span count (block + 1) (data.drop piece.count)

/-- Writes `data` from `offset` on, as far as the file goes, and tells how many bytes that were. -/
def writeAt (header : FileHeader) (offset : Nat) (data : Bytes) : Transfer Nat := do
  let span := Span.clip offset (← checkedAdd offset data.length) header.length
  header.writeBlocks span span.numBlocks span.firstBlock data
  return span.count

end SectorStore.FileHeader
