import Std.Data.TreeMap
import SectorStore.Device.Basic

/-!
# Memory disks

A memory disk is a fixed number of blocks of one size, all zero at first. Its block size is free; a
disk with blocks of `sectorSize` bytes is a `BlockDevice`. Blocks that were never written take no
room.
-/

namespace SectorStore

/-- A disk held in memory. -/
structure RamDisk (blockSize : Nat) where
  /-- The number of blocks. -/
  count : Nat
  /-- The contents of the blocks that were written, by their numbers. -/
  written : Std.TreeMap Nat (Vector UInt8 blockSize)

namespace RamDisk

variable {blockSize : Nat}

/-- A disk of `count` blocks of zeros. -/
def zeroed (count blockSize : Nat) : RamDisk blockSize where
  count := count
  written := ∅

/-- The contents of a block, zeros where nothing was written. -/
def block (disk : RamDisk blockSize) (block : Nat) : Vector UInt8 blockSize :=
  match disk.written[block]? with
  | some data => data
  | none => .replicate blockSize 0

/-- The number of blocks, which blocks of no size do not determine. -/
def numBlocks (disk : RamDisk blockSize) : Except Fault Nat :=
  if blockSize = 0 then .error .divisionByZero else .ok disk.count

/-- Checks that a transfer of `length` bytes at `block` is one whole block of the disk. -/
def check (disk : RamDisk blockSize) (block length : Nat) : Except Fault Unit := do
  if length ≠ blockSize then throw .incompleteBlock
  if (← disk.numBlocks) ≤ block then throw (.blockOutOfRange block)

/-- Reads a block into a buffer of `length` bytes. -/
def read (disk : RamDisk blockSize) (block length : Nat) : Except Fault (Vector UInt8 blockSize) :=
  do
    disk.check block length
    return disk.block block

/-- Writes the bytes `data` to a block. -/
def write (disk : RamDisk blockSize) (block : Nat) (data : Bytes) :
    Except Fault (RamDisk blockSize) := do
  disk.check block data.length
  return { disk with written := disk.written.insert block (data.fit blockSize) }

end RamDisk

instance : BlockDevice (RamDisk sectorSize) where
  read disk block := disk.read block sectorSize
  write disk block data := disk.write block data.toList

end SectorStore
