import Mathlib.Logic.Function.Basic
import SectorStore.Device.ImageFile
import SectorStore.Device.RamDisk

/-!
# Disks

A `Disk` is what a block device holds: a number of blocks, and a sector for every block number. It
is a block device itself, on which transfers are easiest to reason about. Every lawful device shows
a disk of its first blocks (`Disk.image`), and a transfer that runs through on that disk runs
through on the device, with the same answer and the same sectors afterwards
(`Transfer.exists_run_of_image`).

The memory disk and the image file are lawful.
-/

namespace SectorStore

/-- A number of blocks with their contents. -/
structure Disk where
  /-- The number of blocks. -/
  count : Nat
  /-- The contents of each block; those from `count` on do not matter. -/
  sector : Nat → Sector

namespace Disk

/-- The contents of a sector. -/
def get (disk : Disk) (sector : SectorId) : Sector :=
  disk.sector sector.toNat

/-- The disk with other contents in a block. -/
def putBlock (disk : Disk) (block : Nat) (data : Sector) : Disk :=
  { disk with sector := Function.update disk.sector block data }

/-- The disk with other contents in a sector. -/
def put (disk : Disk) (sector : SectorId) (data : Sector) : Disk :=
  disk.putBlock sector.toNat data

@[simp]
theorem count_putBlock (disk : Disk) (block : Nat) (data : Sector) :
    (disk.putBlock block data).count = disk.count :=
  rfl

@[simp]
theorem count_put (disk : Disk) (sector : SectorId) (data : Sector) :
    (disk.put sector data).count = disk.count :=
  rfl

/-- A write is seen in the sector written, and nowhere else. -/
theorem get_put (disk : Disk) (sector other : SectorId) (data : Sector) :
    (disk.put sector data).get other = if other = sector then data else disk.get other := by
  simp only [get, put, putBlock, Function.update_apply, UInt32.toNat_inj]

/-- A sector that was written is read back. -/
@[simp]
theorem get_put_self (disk : Disk) (sector : SectorId) (data : Sector) :
    (disk.put sector data).get sector = data := by
  rw [get_put, if_pos rfl]

/-- Writing one sector leaves the others. -/
theorem get_put_of_ne {disk : Disk} {sector other : SectorId} {data : Sector}
    (h : other ≠ sector) : (disk.put sector data).get other = disk.get other := by
  rw [get_put, if_neg h]

end Disk

instance : BlockDevice Disk where
  read disk block :=
    if block < disk.count then .ok (disk.sector block) else .error (.blockOutOfRange block)
  write disk block data :=
    if block < disk.count then .ok (disk.putBlock block data) else .error (.blockOutOfRange block)

namespace Disk

variable {disk : Disk} {block : Nat}

/-- A block of a disk can be read. -/
theorem read_of_lt (h : block < disk.count) :
    BlockDevice.read disk block = .ok (disk.sector block) :=
  if_pos h

/-- A block of a disk can be written. -/
theorem write_of_lt (h : block < disk.count) (data : Sector) :
    BlockDevice.write disk block data = .ok (disk.putBlock block data) :=
  if_pos h

end Disk

/-! ## Lawful devices -/

/-- A device on which a block that can be read can be written, is read back as it was written, and
is written without a change to any other block. -/
class LawfulBlockDevice (δ : Type) [BlockDevice δ] : Prop where
  /-- What a write of a readable block does. -/
  write_of_read {device : δ} {block : Nat} {old : Sector} (data : Sector)
    (h : BlockDevice.read device block = .ok old) :
    ∃ device', BlockDevice.write device block data = .ok device' ∧
      BlockDevice.read device' block = .ok data ∧
      ∀ other, other ≠ block → BlockDevice.read device' other = BlockDevice.read device other

section Device

variable {α δ : Type} [BlockDevice δ]

/-- The first `count` blocks of a device can be read. -/
def HasBlocks (device : δ) (count : Nat) : Prop :=
  ∀ block < count, ∃ data, BlockDevice.read device block = .ok data

/-- The disk of `count` blocks that a device shows. -/
def Disk.image (device : δ) (count : Nat) : Disk where
  count := count
  sector block :=
    match BlockDevice.read device block with
    | .ok data => data
    | .error _ => Sector.zero

@[simp]
theorem Disk.count_image (device : δ) (count : Nat) : (Disk.image device count).count = count :=
  rfl

/-- The image of a device has the blocks that are read from it. -/
theorem Disk.sector_image {device : δ} {count block : Nat} {data : Sector}
    (h : BlockDevice.read device block = .ok data) :
    (Disk.image device count).sector block = data := by
  simp only [Disk.image, h]

/-- Reading a block of the image of a device answers what the device answers. -/
theorem read_image {device : δ} {count block : Nat} (hblocks : HasBlocks device count)
    (hblock : block < count) :
    BlockDevice.read device block = .ok ((Disk.image device count).sector block) := by
  obtain ⟨data, hdata⟩ := hblocks block hblock
  rw [Disk.sector_image hdata, hdata]

/-- Writing a block changes the image of a device as it changes a disk, and no other block, also
behind the image. -/
theorem exists_write_image [LawfulBlockDevice δ] {device : δ} {count block : Nat}
    (hblocks : HasBlocks device count) (hblock : block < count) (data : Sector) :
    ∃ device', BlockDevice.write device block data = .ok device' ∧ HasBlocks device' count ∧
      Disk.image device' count = (Disk.image device count).putBlock block data ∧
      ∀ other, other ≠ block → BlockDevice.read device' other = BlockDevice.read device other := by
  obtain ⟨old, hold⟩ := hblocks block hblock
  obtain ⟨device', hwrite, hself, hother⟩ := LawfulBlockDevice.write_of_read data hold
  refine ⟨device', hwrite, ?_, ?_, hother⟩
  · intro b hb
    by_cases h : b = block
    · exact ⟨data, h ▸ hself⟩
    · obtain ⟨data', hdata'⟩ := hblocks b hb
      exact ⟨data', (hother b h).trans hdata'⟩
  · rw [Disk.putBlock, Disk.image, Disk.image]
    congr 1
    funext b
    rw [Function.update_apply]
    by_cases h : b = block
    · rw [if_pos h, h, hself]
    · rw [if_neg h, hother b h]

/-- A transfer that runs through on the image of a lawful device runs through on the device, and the
image keeps up with the device. -/
theorem Transfer.exists_run_of_image [LawfulBlockDevice δ] {x : Transfer α} {device : δ}
    {count : Nat} {a : α} {disk' : Disk} (hblocks : HasBlocks device count)
    (h : x.run (Disk.image device count) = (.ok a, disk')) :
    ∃ device', x.run device = (.ok a, device') ∧ HasBlocks device' count ∧
      Disk.image device' count = disk' := by
  induction x generalizing device with
  | done b =>
    simp only [run, Prod.mk.injEq, Except.ok.injEq] at h
    obtain ⟨rfl, rfl⟩ := h
    exact ⟨device, rfl, hblocks, rfl⟩
  | fault cause => simp [run] at h
  | read block next ih =>
    -- outside the image the transfer would have faulted on it
    by_cases hblock : block < count
    · rw [run, Disk.read_of_lt (by exact hblock)] at h
      obtain ⟨device', hrun, hdevice'⟩ := ih _ hblocks h
      refine ⟨device', ?_, hdevice'⟩
      rw [run, read_image hblocks hblock]
      exact hrun
    · simp [run, BlockDevice.read, hblock] at h
  | write block data next ih =>
    by_cases hblock : block < count
    · obtain ⟨device₁, hwrite, hblocks₁, himage₁, -⟩ := exists_write_image hblocks hblock data
      rw [run, Disk.write_of_lt (by exact hblock), ← himage₁] at h
      obtain ⟨device', hrun, hdevice'⟩ := ih hblocks₁ h
      refine ⟨device', ?_, hdevice'⟩
      rw [run, hwrite]
      exact hrun
    · simp [run, BlockDevice.write, hblock] at h

end Device

/-! ## The devices at hand are lawful -/

instance : LawfulBlockDevice Disk where
  write_of_read := by
    intro disk block old data h
    by_cases hblock : block < disk.count
    · refine ⟨disk.putBlock block data, if_pos hblock, ?_, ?_⟩
      · simp [BlockDevice.read, hblock, Disk.putBlock]
      · intro other hother
        simp [BlockDevice.read, Disk.putBlock, hother]
    · simp [BlockDevice.read, hblock] at h

/-- A memory disk accepts the transfers of one sector at its blocks and no others. -/
theorem RamDisk.check_sector (disk : RamDisk sectorSize) (block : Nat) :
    disk.check block sectorSize =
      if disk.count ≤ block then .error (.blockOutOfRange block) else .ok () := by
  simp only [check, numBlocks, ne_eq, not_true_eq_false, if_false]
  rfl

namespace RamDisk

variable {disk : RamDisk sectorSize} {block : Nat}

/-- A block of a memory disk can be read. -/
theorem read_of_lt (h : block < disk.count) :
    BlockDevice.read disk block = .ok (disk.block block) := by
  have hcheck := disk.check_sector block
  rw [if_neg (Nat.not_le.2 h)] at hcheck
  simp only [BlockDevice.read, read, hcheck]
  rfl

/-- A memory disk has no further blocks to read. -/
theorem read_of_le (h : disk.count ≤ block) :
    BlockDevice.read disk block = .error (.blockOutOfRange block) := by
  have hcheck := disk.check_sector block
  rw [if_pos h] at hcheck
  simp only [BlockDevice.read, read, hcheck]
  rfl

/-- A block of a memory disk can be written. -/
theorem write_of_lt (h : block < disk.count) (data : Sector) : BlockDevice.write disk block data =
    .ok { disk with written := disk.written.insert block data } := by
  have hcheck := disk.check_sector block
  rw [if_neg (Nat.not_le.2 h)] at hcheck
  have hfit : Bytes.fit sectorSize data.toList = data :=
    Vector.toList_inj.1 (Bytes.toList_fit_of_length_eq (by simp))
  simp only [BlockDevice.write, write, Vector.length_toList, hcheck, hfit]
  rfl

/-- A memory disk has no further blocks to write. -/
theorem write_of_le (h : disk.count ≤ block) (data : Sector) :
    BlockDevice.write disk block data = .error (.blockOutOfRange block) := by
  have hcheck := disk.check_sector block
  rw [if_pos h] at hcheck
  simp only [BlockDevice.write, write, Vector.length_toList, hcheck]
  rfl

/-- A write is seen in the block written, and nowhere else. -/
theorem block_insert (disk : RamDisk sectorSize) (block other : Nat) (data : Sector) :
    RamDisk.block { disk with written := disk.written.insert block data } other =
      if other = block then data else disk.block other := by
  by_cases h : other = block
  · simp [RamDisk.block, h]
  · simp [RamDisk.block, Std.TreeMap.getElem?_insert, h, Ne.symm h]

/-- All blocks of a memory disk can be read. -/
theorem hasBlocks (disk : RamDisk sectorSize) : HasBlocks disk disk.count :=
  fun _ hblock => ⟨_, read_of_lt hblock⟩

end RamDisk

instance : LawfulBlockDevice (RamDisk sectorSize) where
  write_of_read := by
    intro disk block old data h
    by_cases hblock : disk.count ≤ block
    · rw [RamDisk.read_of_le hblock] at h
      cases h
    rw [Nat.not_le] at hblock
    let disk' : RamDisk sectorSize := { disk with written := disk.written.insert block data }
    refine ⟨disk', RamDisk.write_of_lt hblock data, ?_, ?_⟩
    · rw [RamDisk.read_of_lt (by exact hblock), RamDisk.block_insert, if_pos rfl]
    · intro other hother
      rcases Nat.lt_or_ge other disk.count with hlt | hle
      · rw [RamDisk.read_of_lt (by exact hlt), RamDisk.block_insert, if_neg hother,
          RamDisk.read_of_lt hlt]
      · rw [RamDisk.read_of_le (by exact hle), RamDisk.read_of_le hle]

/-- A write is seen in the sector written, and nowhere else. -/
theorem ImageFile.sector_write (file : ImageFile) (block other : Nat) (data : Sector) :
    (file.write block data).sector other = if other = block then data else file.sector other := by
  by_cases h : other = block
  · simp [write, sector, h]
  · simp [write, sector, Std.TreeMap.getD_insert, h, Ne.symm h]

instance : LawfulBlockDevice ImageFile where
  write_of_read := by
    intro file block old data h
    have hplace : ¬ ImageFile.placeLimit ≤ block * sectorSize := by
      intro hle
      simp [BlockDevice.read, ImageFile.read, hle] at h
    have hsize : (block + 1) * sectorSize ≤ file.size := by
      by_contra hlt
      simp [BlockDevice.read, ImageFile.read, hplace, hlt] at h
    have hkept : (file.write block data).size = file.size := Nat.max_eq_left hsize
    refine ⟨file.write block data, rfl, ?_, ?_⟩
    · simp only [BlockDevice.read, ImageFile.read, hkept, if_neg hplace, if_pos hsize,
        ImageFile.sector_write, if_true]
    · intro other hother
      simp only [BlockDevice.read, ImageFile.read, hkept, ImageFile.sector_write, if_neg hother]

end SectorStore
