import SectorStore.Sector

/-!
# Byte ranges

A transfer between a file and a buffer concerns a range of byte positions of the file. A `Span` is
such a range; it is worked through block by block, each block of `sectorSize` positions contributing
the part of the range that lies in it.
-/

namespace SectorStore

/-- The positions from `start` up to, but not including, `stop`. -/
structure Span where
  /-- The first position. -/
  start : Nat
  /-- The position after the last. -/
  stop : Nat
deriving DecidableEq, Repr

namespace Span

/-- The positions from `start` up to `stop`, as far as they are below `length`. -/
def clip (start stop length : Nat) : Span :=
  ⟨start, min stop length⟩

/-- The number of positions. -/
def count (span : Span) : Nat :=
  span.stop - span.start

/-- The block of the first position. -/
def firstBlock (span : Span) : Nat :=
  span.start / sectorSize

/-- The number of blocks that contain a position of the span. -/
def numBlocks (span : Span) : Nat :=
  if span.start < span.stop then sectorsFor span.stop - span.firstBlock else 0

/-- The part of the span that lies in a block. -/
def within (span : Span) (block : Nat) : Span :=
  ⟨max span.start (block * sectorSize), min span.stop ((block + 1) * sectorSize)⟩

/-- Whether the span has all positions of a block that it lies in. -/
def isWholeBlock (span : Span) : Bool :=
  span.count == sectorSize

/-- A clipped span has as many positions as were asked for and are there. -/
theorem count_clip (offset count length : Nat) :
    (clip offset (offset + count) length).count = min count (length - offset) := by
  simp only [clip, Span.count]
  omega

end Span

end SectorStore
