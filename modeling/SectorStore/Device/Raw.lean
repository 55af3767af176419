import SectorStore.Transfer

/-!
# Raw access

Looking at and changing the blocks of a device without regard to what they are for. Any number may
be asked for, also one that no sector of a volume can have.
-/

namespace SectorStore.Raw

/-- Reads a block. -/
def load (block : Nat) : Transfer Sector :=
  .read block .done

/-- Lays `data` over the bytes of a block from position `start` on; it has to fit. -/
def overwrite (block start : Nat) (data : Bytes) : Transfer Unit := do
  let old ← load block
  if sectorSize < start + data.length then
    .fault .indexOutOfBounds
  else
    .write block (old.patch start data) (.done ())

/-- Looks for sectors that are not all zero among the `count` ones from `first` on, and puts them
behind those `found` before. -/
def surveyFrom (found : Array (Nat × Sector)) :
    (count first : Nat) → Transfer (Array (Nat × Sector))
  | 0, _ => return found
  | count + 1, first => do
    let sector ← load first
    let found := if sector = Sector.zero then found else found.push (first, sector)
    surveyFrom found count (first + 1)

/-- The sectors that are not all zero among the first `count` ones, with their numbers. -/
def nonzeroSectors (count : Nat) : Transfer (Array (Nat × Sector)) :=
  surveyFrom #[] count 0

end SectorStore.Raw
