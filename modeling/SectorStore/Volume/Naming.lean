import SectorStore.Text.Extension
import SectorStore.Volume.Basic

/-!
# Making and removing files

`Volume.create` makes a file of zeros of a given size, `Volume.remove` gives all its sectors back. A
refused request changes neither the disk nor the volume. Where several reasons speak against a new
file, the first in this order is given: the name is there already; no sector is left for the header;
the name is empty or too long; the directory is full; the file is too large; the space is too small.
-/

namespace SectorStore.Volume

/-- Writes zeros to the given sectors. -/
def zeroSectors : List SectorId → Transfer Unit
  | [] => return ()
  | sector :: others => do
    Transfer.store sector Sector.zero
    zeroSectors others

/-- Makes a file of `size` bytes, all zero. -/
def create (volume : Volume) (name : String) (size : Nat) : ExceptT Refusal Transfer Volume := do
  if (volume.directory.find? name).isSome then
    throw .alreadyExists
  let some (sector, map) := volume.freeMap.take? | throw .noSpace
  let entry ← DirEntry.make name sector
  let some directory := volume.directory.insert? entry | throw .directoryFull
  let (header, map) ← FileHeader.empty.allocate map size
  zeroSectors (← header.sectors)
  let (now, volume) := volume.now
  let header := (header.describe (Extension.ofName name) now).setHome sector
  header.store sector
  let volume := { volume with freeMap := map, directory }
  volume.flush
  return volume

/-- Removes a file and gives back its sectors and that of its header. -/
def remove (volume : Volume) (name : String) : ExceptT Refusal Transfer Volume := do
  let some (sector, directory) := volume.directory.erase? name | throw .notFound
  let header ← FileHeader.load sector
  let (_, map) ← header.release volume.freeMap
  let map ← map.clear sector
  let volume := { volume with freeMap := map, directory }
  volume.flush
  return volume

end SectorStore.Volume
