import Mathlib.Data.List.Basic
import SectorStore.Proofs.FileHeader.Codec
import SectorStore.Proofs.Transfer.Yields

/-!
# Image files as disks

An image file of whole sectors shows the disk of all its sectors, and its bytes are those of that
disk (`HasSize.toBytes_congr`). A transfer that runs through on the disk runs through on the file
and leaves its size as it is (`HasSize.exists_run`).
-/

namespace SectorStore.ImageFile

variable {file file' : ImageFile} {count block : Nat}

theorem sectorsFor_mul (count : Nat) : sectorsFor (count * sectorSize) = count := by
  rw [sectorsFor, sectorSize_eq]
  omega

/-- The file has exactly `count` sectors, which can be read. -/
structure HasSize (file : ImageFile) (count : Nat) : Prop where
  /-- The size in bytes. -/
  size_eq : file.size = count * sectorSize
  /-- All sectors have places. -/
  hasBlocks : HasBlocks file count

theorem read_of_lt (hsize : file.size = count * sectorSize)
    (hplaces : count * sectorSize ≤ placeLimit) (hblock : block < count) :
    file.read block = .ok (file.sector block) := by
  have hend : (block + 1) * sectorSize ≤ count * sectorSize := Nat.mul_le_mul_right _ hblock
  have hstart : block * sectorSize < (block + 1) * sectorSize := by
    rw [sectorSize_eq]
    omega
  rw [read, if_neg (by omega), if_pos (by omega)]

/-- Files with few enough sectors can be read. -/
theorem hasSize_of_le (hsize : file.size = count * sectorSize)
    (hplaces : count * sectorSize ≤ placeLimit) : file.HasSize count :=
  ⟨hsize, fun block hblock => ⟨file.sector block, read_of_lt hsize hplaces hblock⟩⟩

namespace HasSize

theorem sector_eq (h : file.HasSize count) (hblock : block < count) :
    (Disk.image file count).sector block = file.sector block := by
  obtain ⟨data, hdata⟩ := h.hasBlocks block hblock
  rw [Disk.sector_image hdata]
  have hread : file.read block = .ok data := hdata
  rw [read] at hread
  split at hread
  · cases hread
  · split at hread
    · exact (Except.ok.inj hread).symm
    · cases hread

/-- The bytes of a file are those of the disk that it shows. -/
theorem toBytes_congr (h : file.HasSize count) (h' : file'.HasSize count)
    (himage : Disk.image file' count = Disk.image file count) : file'.toBytes = file.toBytes := by
  have hsectors : ∀ block ∈ List.range count,
      (file'.sector block).toList = (file.sector block).toList := by
    intro block hblock
    rw [← h.sector_eq (List.mem_range.1 hblock), ← h'.sector_eq (List.mem_range.1 hblock), himage]
  rw [toBytes, toBytes, h.size_eq, h'.size_eq, sectorsFor_mul, List.flatMap_congr hsectors]

/-- A file that has a size already is not changed by being given it. -/
theorem resize (h : file.HasSize count) : (file.resize count).HasSize count ∧
    Disk.image (file.resize count) count = Disk.image file count := by
  have hsector : ∀ block < count, (file.resize count).sector block = file.sector block := by
    intro block hblock
    simp only [sector, ImageFile.resize, Std.TreeMap.getD_eq_getD_getElem?,
      Std.TreeMap.getElem?_filter']
    cases file.sectors[block]? with
    | none => rfl
    | some data => rw [Option.filter_some, if_pos (decide_eq_true hblock)]
  -- sectors inside the size are kept, and outside it neither file can be read
  have hread : ∀ block, BlockDevice.read (file.resize count) block =
      BlockDevice.read file block := by
    intro block
    show (file.resize count).read block = file.read block
    rw [read, read, h.size_eq]
    by_cases hblock : block < count
    · rw [hsector block hblock]
      rfl
    · have hend : count * sectorSize < (block + 1) * sectorSize :=
        Nat.mul_lt_mul_of_pos_right (by omega) (by decide)
      have hsize : (file.resize count).size = count * sectorSize := rfl
      rw [if_neg (Nat.not_le.2 hend), hsize, if_neg (Nat.not_le.2 hend)]
  refine ⟨⟨rfl, fun block hblock => ?_⟩, ?_⟩
  · rw [hread]
    exact h.hasBlocks block hblock
  · simp only [Disk.image, hread]

/-- A transfer that runs through on the disk of a file stays inside the file. -/
theorem size_run {α : Type} {x : Transfer α} {a : α} {disk' : Disk} (h : file.HasSize count)
    (hrun : x.run (Disk.image file count) = (.ok a, disk')) : (x.run file).2.size = file.size := by
  induction x generalizing file with
  | done b => rfl
  | fault cause => rfl
  | read block next ih =>
    by_cases hblock : block < count
    · rw [Transfer.run, Disk.read_of_lt (by exact hblock)] at hrun
      rw [Transfer.run, read_image h.hasBlocks hblock]
      exact ih _ h hrun
    · simp [Transfer.run, BlockDevice.read, hblock] at hrun
  | write block data next ih =>
    by_cases hblock : block < count
    · obtain ⟨file₁, hwrite, hblocks₁, himage₁, -⟩ := exists_write_image h.hasBlocks hblock data
      obtain rfl : file.write block data = file₁ := Except.ok.inj hwrite
      have hend : (block + 1) * sectorSize ≤ file.size := by
        rw [h.size_eq]
        exact Nat.mul_le_mul_right _ hblock
      have hsize : (file.write block data).size = file.size := Nat.max_eq_left hend
      rw [Transfer.run, Disk.write_of_lt (by exact hblock), ← himage₁] at hrun
      rw [Transfer.run, hwrite]
      exact (ih ⟨hsize.trans h.size_eq, hblocks₁⟩ hrun).trans hsize
    · simp [Transfer.run, BlockDevice.write, hblock] at hrun

/-- What a transfer yields on the disk of a file is what it does on the file, which keeps its
size. -/
theorem exists_run {α : Type} {x : Transfer α} {post : α → Disk → Prop} (h : file.HasSize count)
    (hyields : x.Yields (Disk.image file count) post) :
    ∃ a file', x.run file = (.ok a, file') ∧ file'.HasSize count ∧
      post a (Disk.image file' count) := by
  obtain ⟨a, file', hrun, hblocks', hpost⟩ := hyields.exists_run h.hasBlocks
  obtain ⟨b, disk', hrun', -⟩ := hyields
  have hsize := h.size_run hrun'
  rw [hrun] at hsize
  exact ⟨a, file', hrun, ⟨hsize.trans h.size_eq, hblocks'⟩, hpost⟩

end HasSize

end SectorStore.ImageFile
