import SectorStore.Clock
import SectorStore.Directory
import SectorStore.FileHeader.Access
import SectorStore.FileHeader.Allocation

/-!
# Volumes

A volume is a disk laid out for files. Sector 0 holds the header of the file with the free map and
sector 1 that of the file with the directory; both are ordinary files, whose sectors are marked in
the same map. The map and the directory of a mounted volume are held in memory and are written back
as a whole after each change.

`Volume.format` lays out a disk, `Volume.mount` takes up a disk that was laid out before.
-/

namespace SectorStore

/-- The sector of the header of the free map's file. -/
def freeMapSector : SectorId := 0

/-- The sector of the header of the directory's file. -/
def directorySector : SectorId := 1

/-- The state of a mounted volume. -/
structure Volume where
  /-- The sectors that are taken. -/
  freeMap : FreeMap
  /-- The files by name. -/
  directory : Directory
  /-- The file that keeps the free map. -/
  freeMapFile : FileHeader
  /-- The file that keeps the directory. -/
  directoryFile : FileHeader
  /-- The clock that gives the times of changes. -/
  clock : Clock

namespace Volume

/-- Writes the free map, as far as its file goes, and the directory back to their files. -/
def flush (volume : Volume) : Transfer Unit := do
  let _ ← volume.freeMapFile.writeAt 0 (volume.freeMap.bytesWithin volume.freeMapFile.length)
  let _ ← volume.directoryFile.writeAt 0 volume.directory.toBytes

/-- Lays out the first `numSectors` sectors of a disk as a volume without files. -/
def format (numSectors : Nat) : ExceptT Refusal Transfer Volume := do
  let map ← (FreeMap.free numSectors).mark freeMapSector
  let map ← map.mark directorySector
  let (freeMapFile, map) ← FileHeader.empty.allocate map (FreeMap.bytesFor numSectors)
  let (directoryFile, map) ← FileHeader.empty.allocate map Directory.byteSize
  let volume := {
    freeMap := map
    directory := .empty
    freeMapFile := freeMapFile.setHome freeMapSector
    directoryFile := directoryFile.setHome directorySector
    clock := .silent : Volume }
  volume.freeMapFile.store freeMapSector
  volume.directoryFile.store directorySector
  volume.flush
  return volume

/-- Takes up a disk that holds a volume, as one of `numSectors` sectors. -/
def mount (numSectors : Nat) : Transfer Volume := do
  let freeMapFile ← FileHeader.loadHome freeMapSector
  let directoryFile ← FileHeader.loadHome directorySector
  let freeMap := FreeMap.ofBytes numSectors (← freeMapFile.readAll)
  let directory := Directory.ofBytes (← directoryFile.readAll)
  return { freeMap, directory, freeMapFile, directoryFile, clock := .silent }

/-- The names of the files, in the order of their entries. -/
def names (volume : Volume) : List String :=
  volume.directory.names

/-- The number of free sectors. -/
def numFree (volume : Volume) : Nat :=
  volume.freeMap.numFree

/-- The volume with another clock. -/
def withClock (volume : Volume) (clock : Clock) : Volume :=
  { volume with clock }

/-- Reads the volume's clock. -/
def now (volume : Volume) : String × Volume :=
  (volume.clock.now.1, { volume with clock := volume.clock.now.2 })

end Volume

end SectorStore
