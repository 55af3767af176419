import SectorStore.Checked
import SectorStore.FileHeader.Layout
import SectorStore.FreeMap.Basic
import SectorStore.Refusal

/-!
# Taking and giving back sectors

A file gets its sectors from the free map when it is made, may get more as long as its header lists
all of them, and gives all of them back when it goes. A refused request takes nothing.
-/

namespace SectorStore.FileHeader

/-- Takes the sectors for `size` bytes from the free map: the data sectors that the header lists,
then the index sector, if any, and the sectors that it lists. The index sector is written at
once. -/
def allocate (header : FileHeader) (map : FreeMap) (size : Nat) :
    ExceptT Refusal Transfer (FileHeader × FreeMap) := do
  let count := sectorsFor size
  if maxSectors < count then
    throw .fileTooLarge
  else if count ≤ numDirect then
    let some (sectors, map) := map.takeMany? count | throw .noSpace
    return ({ header with numBytes := .ofNat size, map := .direct sectors.toList }, map)
  else
    let some (sectors, map) := map.takeMany? numDirect | throw .noSpace
    let some (index, map) := map.take? | throw .noSpace
    let some (others, map) := map.takeMany? (count - numDirect) | throw .noSpace
    Transfer.store index (SectorTable.toSector others.toList)
    return ({ header with numBytes := .ofNat size, map := .indirect sectors index }, map)

/-- Makes the file end at `length`. New sectors are appended to those that the header lists; growth
that would need an index sector, or change one, is refused. -/
def growTo (header : FileHeader) (map : FreeMap) (length : Nat) :
    Except Refusal (FileHeader × FreeMap) :=
  let count := sectorsFor length
  if count = header.sectorCount then
    .ok ({ header with numBytes := .ofNat length }, map)
  else
    match header.map with
    | .indirect _ _ => .error .expandBeyondDirect
    | .direct sectors =>
      if numDirect < count then
        .error .expandBeyondDirect
      else
        match map.takeMany? (count - header.sectorCount) with
        | none => .error .noSpace
        | some (others, map) =>
          .ok ({ header with
            numBytes := .ofNat length
            map := .direct (sectors ++ others.toList) }, map)

/-- Makes the file `extra` bytes longer. -/
def grow (header : FileHeader) (map : FreeMap) (extra : Nat) :
    Except Fault (Except Refusal (FileHeader × FreeMap)) := do
  return header.growTo map (← checkedAdd header.length extra)

/-- Gives all sectors of the file back to the free map, each of which has to be taken there: those
that the header lists, those that the index sector lists, and the index sector. -/
def release (header : FileHeader) (map : FreeMap) : Transfer (FileHeader × FreeMap) := do
  let map ← map.releaseAll header.map.listed
  let map ← match header.map with
    | .direct _ => pure map
    | .indirect _ index => do
      let table := SectorTable.ofSector (← Transfer.load index)
      let map ← map.releaseAll (← table.front (← header.indirectCount))
      map.release index
  return ({ header with numBytes := 0, map := .direct [] }, map)

end SectorStore.FileHeader
