import SectorStore.Proofs.Device.History
import SectorStore.Proofs.Device.Image
import SectorStore.Proofs.Transfer.Asking

/-!
# Devices that keep up with a disk

A device may hold a disk in one way or another: `holds device disk`. It keeps up with the disk
(`Tracks holds`) if it does with the sectors of the disk what the disk itself does. Then a transfer
that asks for sectors of the disk only does on the device exactly what it does on the disk, also
where it faults (`Tracks.play`). So any two such devices can stand in for each other.

The memory disk and the image file both keep up, each with the bytes of the disk as its own.
-/

namespace SectorStore

variable {α δ : Type} [BlockDevice δ]

/-- What is held keeps up with the disk where its sectors are read and written. -/
structure Tracks (holds : δ → Disk → Prop) : Prop where
  /-- The sectors of the disk are read as on the disk. -/
  read_eq {device : δ} {disk : Disk} {sector : SectorId} (h : holds device disk)
    (hsector : sector.toNat < disk.count) :
    BlockDevice.read device sector.toNat = .ok (disk.get sector)
  /-- The sectors of the disk are written as on the disk. -/
  exists_write {device : δ} {disk : Disk} {sector : SectorId} (h : holds device disk)
    (hsector : sector.toNat < disk.count) (data : Sector) :
    ∃ device', BlockDevice.write device sector.toNat data = .ok device' ∧
      holds device' (disk.put sector data)

/-- A transfer does the same on a device as on a disk. -/
structure PlaysAlike (holds : δ → Disk → Prop) (x : Transfer α) (device : δ) (disk : Disk) :
    Prop where
  /-- The answer or the fault is the same. -/
  answer_eq : (x.run device).1 = (x.run disk).1
  /-- The device holds the disk afterwards. -/
  holds : holds (x.run device).2 (x.run disk).2
  /-- The same is asked for. -/
  asked_eq : x.asked device = x.asked disk
  /-- The same is read and written. -/
  accesses_eq : x.accesses device = x.accesses disk

/-- What asks for sectors of the disk only, be it on the disk or on the device that keeps up with
it, does the same on both. -/
theorem Tracks.play {holds : δ → Disk → Prop} (h : Tracks holds) {x : Transfer α}
    (hasks : x.AsksSectors) {device : δ} {disk : Disk} (hholds : holds device disk)
    (hbelow : (∀ block ∈ x.asked device, block < disk.count) ∨
      ∀ block ∈ x.asked disk, block < disk.count) : PlaysAlike holds x device disk := by
  -- on the tree of the transfer; device and disk are those before the next access
  induction hasks generalizing device disk with
  | done a => exact ⟨rfl, hholds, rfl, rfl⟩
  | fault cause => exact ⟨rfl, hholds, rfl, rfl⟩
  | @read sector next _ ih =>
    -- the sector is asked for at once, so it is one of the disk
    have hsector : sector.toNat < disk.count :=
      hbelow.elim (· _ (Transfer.mem_asked_read _ _ _)) (· _ (Transfer.mem_asked_read _ _ _))
    have hread := h.read_eq hholds hsector
    have hread' : BlockDevice.read disk sector.toNat = .ok (disk.get sector) :=
      Disk.read_of_lt hsector
    -- what is asked for later is asked for by what follows, on the same two
    simp only [Transfer.asked, hread, hread', List.forall_mem_cons] at hbelow
    have hplay := ih (disk.get sector) hholds (hbelow.imp And.right And.right)
    refine ⟨?_, ?_, ?_, ?_⟩
    · simpa only [Transfer.run, hread, hread'] using hplay.answer_eq
    · simpa only [Transfer.run, hread, hread'] using hplay.holds
    · simp only [Transfer.asked, hread, hread', hplay.asked_eq]
    · simp only [Transfer.accesses, hread, hread', hplay.accesses_eq]
  | @write sector data next _ ih =>
    have hsector : sector.toNat < disk.count :=
      hbelow.elim (· _ (Transfer.mem_asked_write _ _ _ _)) (· _ (Transfer.mem_asked_write _ _ _ _))
    obtain ⟨device', hwrite, hholds'⟩ := h.exists_write hholds hsector data
    have hwrite' : BlockDevice.write disk sector.toNat data = .ok (disk.put sector data) :=
      Disk.write_of_lt hsector data
    simp only [Transfer.asked, hwrite, hwrite', List.forall_mem_cons] at hbelow
    have hplay := ih hholds' (hbelow.imp And.right And.right)
    refine ⟨?_, ?_, ?_, ?_⟩
    · simpa only [Transfer.run, hwrite, hwrite'] using hplay.answer_eq
    · simpa only [Transfer.run, hwrite, hwrite'] using hplay.holds
    · simp only [Transfer.asked, hwrite, hwrite', hplay.asked_eq]
    · simp only [Transfer.accesses, hwrite, hwrite', hplay.accesses_eq]

/-- The bytes of all blocks of a disk. -/
def Disk.toBytes (disk : Disk) : Bytes :=
  (List.range disk.count).flatMap fun block => (disk.sector block).toList

/-- The bytes of a disk are those of all its blocks. -/
theorem Disk.length_toBytes (disk : Disk) : disk.toBytes.length = disk.count * sectorSize := by
  simp [toBytes, List.length_flatMap]

/-! ## Memory disks -/

namespace RamDisk

/-- The bytes of all blocks of a memory disk. -/
def toBytes {blockSize : Nat} (ram : RamDisk blockSize) : Bytes :=
  (List.range ram.count).flatMap fun block => (ram.block block).toList

/-- The memory disk has the blocks of the disk. -/
structure Holds (ram : RamDisk sectorSize) (disk : Disk) : Prop where
  /-- They have equally many blocks. -/
  count_eq : ram.count = disk.count
  /-- Their blocks are the same. -/
  block_eq : ∀ block < disk.count, ram.block block = disk.sector block

/-- A memory disk follows the reference block by block. -/
theorem tracks : Tracks Holds where
  read_eq {ram disk sector} h hsector := by
    rw [read_of_lt (h.count_eq ▸ hsector), h.block_eq _ hsector, Disk.get]
  exists_write {ram disk sector} h hsector data := by
    refine ⟨_, write_of_lt (h.count_eq ▸ hsector) data, h.count_eq, fun block hblock => ?_⟩
    rw [block_insert, h.block_eq block hblock]
    exact (Function.update_apply ..).symm

/-- A new memory disk holds zeros. -/
theorem holds_zeroed (count : Nat) :
    (zeroed count sectorSize).Holds ⟨count, fun _ => Sector.zero⟩ where
  count_eq := rfl
  block_eq block _ := by simp [RamDisk.block, zeroed, Sector.zero]

/-- A memory disk has the bytes of the disk that it holds. -/
theorem Holds.toBytes_eq {ram : RamDisk sectorSize} {disk : Disk} (h : ram.Holds disk) :
    ram.toBytes = disk.toBytes := by
  rw [RamDisk.toBytes, Disk.toBytes, h.count_eq]
  refine List.flatMap_congr fun block hblock => ?_
  rw [h.block_eq block (List.mem_range.1 hblock)]

end RamDisk

/-! ## Image files -/

namespace ImageFile

/-- The file is exactly the sectors of the disk. -/
structure Holds (file : ImageFile) (disk : Disk) : Prop where
  /-- The file ends where the disk ends. -/
  size_eq : file.size = disk.count * sectorSize
  /-- Their sectors are the same. -/
  sector_eq : ∀ block < disk.count, file.sector block = disk.sector block

/-- A disk image follows the reference block by block. -/
theorem tracks : Tracks Holds where
  read_eq {file disk sector} h hsector := by
    -- every sector that has a number has a place
    have hplace : ¬ placeLimit ≤ sector.toNat * sectorSize := by
      have hnumber := sector.toNat_lt
      rw [placeLimit, sectorSize_eq, UInt64.size]
      omega
    have hend : (sector.toNat + 1) * sectorSize ≤ file.size := by
      rw [h.size_eq]
      exact Nat.mul_le_mul_right _ hsector
    show file.read sector.toNat = _
    rw [read, if_neg hplace, if_pos hend, h.sector_eq _ hsector, Disk.get]
  exists_write {file disk sector} h hsector data := by
    have hend : (sector.toNat + 1) * sectorSize ≤ file.size := by
      rw [h.size_eq]
      exact Nat.mul_le_mul_right _ hsector
    refine ⟨file.write sector.toNat data, rfl, (Nat.max_eq_left hend).trans h.size_eq, ?_⟩
    intro block hblock
    rw [sector_write, h.sector_eq block hblock]
    exact (Function.update_apply ..).symm

theorem length_toBytes (file : ImageFile) : file.toBytes.length = file.size := by
  have hsectors : file.size ≤ sectorsFor file.size * sectorSize := by
    rw [sectorsFor, sectorSize_eq]
    omega
  rw [toBytes, List.length_take_of_le]
  simpa [List.length_flatMap] using hsectors

/-- The bytes of an image of whole blocks are those of its blocks. -/
theorem toBytes_of_size {file : ImageFile} {count : Nat} (hsize : file.size = count * sectorSize) :
    file.toBytes = (List.range count).flatMap fun block => (file.sector block).toList := by
  rw [toBytes, hsize, sectorsFor_mul]
  exact List.take_of_length_le (by simp [List.length_flatMap])

/-- A file of zero bytes holds the disk of zeros. -/
theorem holds_of_zeros {file : ImageFile} {count : Nat}
    (hzeros : file.toBytes = List.replicate (count * sectorSize) 0) :
    file.Holds ⟨count, fun _ => Sector.zero⟩ := by
  have hsize : file.size = count * sectorSize := by
    rw [← length_toBytes, hzeros, List.length_replicate]
  refine ⟨hsize, fun block hblock => ?_⟩
  rw [toBytes_of_size hsize] at hzeros
  -- a byte of the sector is one of the file
  have hbytes : ∀ byte ∈ (file.sector block).toList, byte = 0 := by
    intro byte hbyte
    have hmem : byte ∈ List.replicate (count * sectorSize) (0 : UInt8) := by
      rw [← hzeros]
      exact List.mem_flatMap.2 ⟨block, List.mem_range.2 hblock, hbyte⟩
    exact List.eq_of_mem_replicate hmem
  apply Vector.toList_inj.1
  rw [List.eq_replicate_iff.2 ⟨Vector.length_toList, hbytes⟩]
  rfl

/-- A disk image has the bytes of the disk that it holds. -/
theorem Holds.toBytes_eq {file : ImageFile} {disk : Disk} (h : file.Holds disk) :
    file.toBytes = disk.toBytes := by
  rw [toBytes_of_size h.size_eq, Disk.toBytes]
  refine List.flatMap_congr fun block hblock => ?_
  rw [h.sector_eq block (List.mem_range.1 hblock)]

end ImageFile

end SectorStore
