import Std.Data.TreeMap
import SectorStore.Device.Basic

/-!
# Image files

A file of the host system that serves as a disk. It has a length in bytes and contents; sectors
that were never written are holes, read as zeros and take no room. Writing past the end makes the
file longer, reading past the end is a fault.
-/

namespace SectorStore

/-- The contents of a host file. Bytes at and beyond the length are zero in `sectors`. -/
structure ImageFile where
  /-- The length in bytes. -/
  size : Nat
  /-- The sectors that are not holes, by their numbers. -/
  sectors : Std.TreeMap Nat Sector

namespace ImageFile

/-- The file of no bytes. -/
def empty : ImageFile := ⟨0, ∅⟩

/-- The contents of a sector, zeros in a hole and past the end. -/
def sector (file : ImageFile) (block : Nat) : Sector :=
  file.sectors.getD block Sector.zero

/-- The given bytes cut into sectors, the last one filled up with zeros. -/
def cut : (count : Nat) → Bytes → List Sector
  | 0, _ => []
  | count + 1, bytes => bytes.fit sectorSize :: cut count (bytes.drop sectorSize)

/-- The file with the given contents. -/
def ofBytes (bytes : Bytes) : ImageFile where
  size := bytes.length
  sectors := .ofList
    ((cut (sectorsFor bytes.length) bytes).zipIdx.map fun (data, block) => (block, data))

/-- The contents of the file. -/
def toBytes (file : ImageFile) : Bytes :=
  ((List.range (sectorsFor file.size)).flatMap fun block =>
    (file.sector block).toList).take file.size

/-- The file cut off or extended with a hole so that it has exactly `count` sectors. -/
def resize (file : ImageFile) (count : Nat) : ImageFile where
  size := count * sectorSize
  sectors := file.sectors.filter fun block _ => block < count

/-- The places in a file have numbers below this one. -/
def placeLimit : Nat := UInt64.size / 2

/-- Reads a sector, all of whose bytes must be there. -/
def read (file : ImageFile) (block : Nat) : Except Fault Sector :=
  if placeLimit ≤ block * sectorSize then .error .placeOutOfRange
  else if (block + 1) * sectorSize ≤ file.size then .ok (file.sector block)
  else .error .pastEndOfImage

/-- Writes a sector, making the file longer where it ends before it. -/
def write (file : ImageFile) (block : Nat) (data : Sector) : ImageFile where
  size := max file.size ((block + 1) * sectorSize)
  sectors := file.sectors.insert block data

end ImageFile

instance : BlockDevice ImageFile where
  read := ImageFile.read
  write file block data := .ok (file.write block data)

end SectorStore
