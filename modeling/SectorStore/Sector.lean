import SectorStore.Bytes.Basic

/-!
# Sectors

The disk is read and written in sectors of `sectorSize` bytes, each named by its number.
-/

namespace SectorStore

/-- The number of bytes in a sector. -/
abbrev sectorSize : Nat := 128

/-- The number of sectors of a disk for which no other size is asked. -/
def defaultNumSectors : Nat := 32 * 32

/-- The number of sectors that `size` bytes fill or begin to fill. -/
def sectorsFor (size : Nat) : Nat :=
  (size + sectorSize - 1) / sectorSize

/-- The number of a sector, a 32-bit word wherever it is stored. -/
abbrev SectorId := UInt32

/-- The contents of one sector. -/
abbrev Sector := Vector UInt8 sectorSize

namespace Sector

/-- The sector of zeros. -/
def zero : Sector :=
  Vector.replicate sectorSize 0

/-- The `count` bytes of a sector from position `start` on. -/
def slice (sector : Sector) (start count : Nat) : Bytes :=
  Bytes.slice sector.toList start count

/-- The sector with `data` laid over it from position `start` on. -/
def patch (sector : Sector) (start : Nat) (data : Bytes) : Sector :=
  Bytes.fit sectorSize (Bytes.splice sector.toList start data)

/-- A patch that fits shows its data where it lies, and the old bytes elsewhere. -/
theorem getElem_patch {sector : Sector} {start : Nat} {data : Bytes}
    (fits : start + data.length ≤ sectorSize) (i : Nat) (h : i < sectorSize) :
    (sector.patch start data)[i] =
      if i < start then sector[i] else if h' : i - start < data.length then data[i - start]
      else sector[i] := by
  have hlen : sector.toList.length = sectorSize := by simp
  have hi : i < sector.toList.length := by omega
  rw [patch, Bytes.getElem_fit, Bytes.getD_splice (by omega)]
  have old : sector.toList.getD i 0 = sector[i] := by
    simp [List.getD_eq_getElem?_getD, h]
  split
  · exact old
  · split
    · simp [List.getD_eq_getElem?_getD, *]
    · exact old

end Sector

end SectorStore
