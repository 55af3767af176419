import SectorStore.FileHeader.Listing
import SectorStore.Volume.Basic

/-!
# Listing a volume

The listing of a volume shows the files of the free map and of the directory, how many sectors are
free, and then each file in the order of the directory.
-/

namespace SectorStore.Volume

/-- The listing of the files of the given names. -/
def fileListings (volume : Volume) : (names : List String) → Transfer String
  | [] => return ""
  | name :: others => do
    let entry ← match volume.directory.find? name with
      | none => pure ""
      | some sector => do
        let listing ← (← FileHeader.load sector).listing
        pure s!"Name: {name}, Sector: {sector.toNat}\n{listing}"
    return entry ++ (← volume.fileListings others)

/-- The listing of a volume. -/
def listing (volume : Volume) : Transfer String := do
  let freeMap ← volume.freeMapFile.listing
  let directory ← volume.directoryFile.listing
  let files ← volume.fileListings volume.names
  return s!"Bit map file header:\n{freeMap}Directory file header:\n{directory}" ++
    s!"Free sectors: {volume.numFree} of {volume.freeMap.size}\n{files}"

end SectorStore.Volume
