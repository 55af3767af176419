/-!
# Faults

A fault is a violated assumption of the store: a sector number that leaves the disk, a header that
cannot be one, a table read outside its bounds. It ends the session in which it arises, whereas a
`Refusal` leaves everything as it was.
-/

namespace SectorStore

/-- The causes that end a session. -/
inductive Fault where
  /-- A sector number at or beyond the length of the free map. -/
  | outOfBitmapRange (sector : Nat)
  /-- A sector to be given back that is not marked as taken. -/
  | notAllocated (sector : Nat)
  /-- A byte offset at or beyond the length of the file. -/
  | offsetOutOfRange (offset length : Nat)
  /-- A header that claims more sectors than a file can have. -/
  | corruptedHeader (sector : Nat)
  /-- A block number at or beyond the size of a memory disk. -/
  | blockOutOfRange (block : Nat)
  /-- A transfer of another length than one block. -/
  | incompleteBlock
  /-- A block of which the disk image does not hold all bytes. -/
  | pastEndOfImage
  /-- A place in the disk image that the host has no number for. -/
  | placeOutOfRange
  /-- A look-up outside the bounds of a table. -/
  | indexOutOfBounds
  /-- A count that would fall below zero. -/
  | countBelowZero
  /-- A sum of more than 64 bits. -/
  | sumTooLarge
  /-- A division by a block size of zero. -/
  | divisionByZero
deriving DecidableEq, Repr

namespace Fault

/-- The wording of a fault; the last five causes have none of their own. -/
def message? : Fault → Option String
  | outOfBitmapRange sector => some s!"sector {sector} out of bitmap range"
  | notAllocated sector => some s!"sector {sector} is not marked as allocated"
  | offsetOutOfRange offset length => some s!"offset {offset} out of file range {length}"
  | corruptedHeader sector => some s!"corrupted file header in sector {sector}"
  | blockOutOfRange block => some s!"block {block} out of range"
  | incompleteBlock => some "not a complete block!"
  | pastEndOfImage => some "reading past the end of image"
  | placeOutOfRange | indexOutOfBounds | countBelowZero | sumTooLarge | divisionByZero => none

end Fault

end SectorStore
