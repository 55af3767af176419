import SectorStore.Proofs.Volume.Flush

/-!
# Taking up a disk with more sectors

A disk that was laid out with some number of sectors can be taken up with more of them. Then the
volume is the same, with further sectors that are free (`widen`), and it is intact and flushed as it
was. But the file of the free map stays as long as it is.
-/

namespace SectorStore

/-- The disk as one of another number of blocks. -/
def Disk.resize (disk : Disk) (count : Nat) : Disk :=
  { disk with count }

namespace Volume

variable {volume : Volume} {disk : Disk} {lost : List SectorId} {size n : Nat}

/-- The volume as one of `size` sectors, of which those in addition are free, and with a silent
clock. -/
def widen (volume : Volume) (size : Nat) : Volume :=
  { volume.withClock .silent with freeMap := .ofBytes size volume.freeMap.toBytes }

theorem size_freeMap_widen (volume : Volume) (size : Nat) :
    (volume.widen size).freeMap.size = size :=
  FreeMap.size_ofBytes _ _

/-- The same sectors are taken. -/
theorem mem_freeMap_widen (hsize : volume.freeMap.size ≤ size) :
    n ∈ (volume.widen size).freeMap ↔ n ∈ volume.freeMap := by
  rw [widen, FreeMap.toBytes, FreeMap.mem_ofBytes_bytes]
  refine ⟨And.left, fun h => ⟨h, ?_, FreeMap.lt_bytesFor h⟩⟩
  exact Nat.lt_of_lt_of_le (FreeMap.lt_size_of_mem h) hsize

/-- A volume is intact with free sectors in addition. -/
theorem Intact.widen (h : volume.Intact disk lost) (hsize : volume.freeMap.size ≤ size)
    (hnumbers : size ≤ 2 ^ 32) : (volume.widen size).Intact (disk.resize size) lost where
  size_le := Nat.le_of_eq (volume.size_freeMap_widen size)
  size_le_pow := by rwa [size_freeMap_widen]
  freeMapFile_stored := h.freeMapFile_stored
  directoryFile_stored := h.directoryFile_stored
  freeMapFile_consistent := h.freeMapFile_consistent
  directoryFile_consistent := h.directoryFile_consistent
  freeMapFile_length_le := by
    refine Nat.le_trans h.freeMapFile_length_le ?_
    rw [size_freeMap_widen, FreeMap.bytesFor, FreeMap.bytesFor]
    omega
  directoryFile_length := h.directoryFile_length
  exists_header := h.exists_header
  partition := ⟨h.partition.nodup, h.partition.owner_eq, fun n =>
    (mem_freeMap_widen hsize).trans (h.partition.mem_iff n)⟩

/-- The tables on the disk are those of the volume with more sectors, if all marks were there. -/
theorem Flushed.widen (h : volume.Flushed disk) (hsize : volume.freeMap.size ≤ size)
    (hlength : volume.freeMapFile.length = FreeMap.bytesFor volume.freeMap.size) :
    (volume.widen size).Flushed (disk.resize size) where
  freeMap_eq := by
    have hbytes : FreeMap.bytesFor volume.freeMap.size ≤ FreeMap.bytesFor size := by
      rw [FreeMap.bytesFor, FreeMap.bytesFor]
      omega
    show volume.freeMapFile.contents disk =
      (volume.widen size).freeMap.bytesWithin volume.freeMapFile.length
    rw [h.freeMap_eq, FreeMap.bytesWithin, FreeMap.bytesWithin, size_freeMap_widen, hlength,
      Nat.min_self, Nat.min_eq_left hbytes]
    exact (FreeMap.bytes_congr (fun _ => mem_freeMap_widen hsize) _).symm
  directory_eq := h.directory_eq

/-- Taking up the disk with more sectors gives the volume with free sectors in addition. -/
theorem Intact.yields_mount_widen (h : volume.Intact disk lost) (hflushed : volume.Flushed disk)
    (hsize : volume.freeMap.size ≤ size) (hnumbers : size ≤ 2 ^ 32)
    (hlength : volume.freeMapFile.length = FreeMap.bytesFor volume.freeMap.size) :
    (mount size).Yields (disk.resize size) fun mounted _ => mounted = volume.widen size := by
  have hmount : (mount (volume.widen size).freeMap.size).Yields (disk.resize size)
      fun mounted _ => mounted = volume.widen size := by
    refine ((h.widen hsize hnumbers).yields_mount_stored (hflushed.widen hsize hlength)).2 ?_
    rw [stored_eq_iff.2]
    · rfl
    · intro n hn
      show n < 8 * volume.freeMapFile.length
      rw [hlength]
      exact FreeMap.lt_bytesFor ((mem_freeMap_widen hsize).1 hn)
  rwa [size_freeMap_widen] at hmount

end Volume

end SectorStore
