import SectorStore.FileHeader.Access
import SectorStore.Text.ByteListing

/-!
# Listing a file

The listing of a file shows the fields of its header, the numbers of its sectors, and the bytes of
each sector on a line of its own, up to the length of the file.
-/

namespace SectorStore.FileHeader

/-- The line that ends the listing of a file. -/
def ruler : String :=
  "----------------------------------------------\n"

/-- The numbers of sectors on a line, each followed by a blank. -/
def numbersLine (sectors : List SectorId) : String :=
  String.join (sectors.map fun sector => s!"{sector.toNat} ")

/-- The fields of a header, and the numbers of the file's sectors. -/
def fieldLines (header : FileHeader) (sectors : List SectorId) : String :=
  let front := numbersLine (sectors.take numDirect)
  let others := match header.map with
    | .direct _ => ""
    | .indirect _ index =>
      let line := numbersLine (sectors.drop numDirect)
      s!"\n  Indirect indexing: (mapping table sector: {index.toNat})\n    {line}"
  s!"\n File type:\t{header.kind.text}\n Created:\t{header.created.text}\n" ++
    s!" Last visited:\t{header.visited.text}\n Modified:\t{header.modified.text}\n" ++
    s!" File size:\t{header.length}\n File blocks:\n" ++
    s!"  Direct indexing:\n    {front}{others}\nFile contents:\n"

/-- The contents of sectors, of which the first `remaining` bytes belong to the file. -/
def contentLines : (sectors : List SectorId) → (remaining : Nat) → Transfer String
  | [], _ => return ""
  | id :: others, remaining => do
    let sector ← Transfer.load id
    let used := min remaining sectorSize
    let line := ByteListing.ofBytes (sector.slice 0 used)
    let rest ← contentLines others (remaining - used)
    return line ++ "\n" ++ rest

/-- The listing of a file. -/
def listing (header : FileHeader) : Transfer String := do
  let sectors ← header.sectors
  let contents ← contentLines sectors header.length
  return header.fieldLines sectors ++ contents ++ ruler

end SectorStore.FileHeader
