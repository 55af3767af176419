import SectorStore.Bytes.LittleEndian
import SectorStore.FreeMap.Basic

/-!
# The free map in words of 64 bits

A free map in memory is an array of groups, words of 64 bits in which sector `i` is bit `i % 64` of
group `i / 64`. The bits of the last group that belong to no sector are zero, so that they count as
free and a search that ends at one of them has found no sector.

`Groups` has the operations of `FreeMap` on such words: the search goes by whole groups and takes
the ones at the low end of the first that is not full, a mark is a word with a single one, and the
bytes are those of the groups, least significant first.
-/

namespace SectorStore

/-- The marks of the sectors of a disk, 64 to a group. -/
structure Groups where
  /-- The number of sectors that have a mark. -/
  bits : Nat
  /-- The groups, as many as it takes. -/
  words : List (BitVec 64)
deriving DecidableEq, Repr

namespace Groups

/-- The number of groups that hold `bits` marks. -/
def groupsFor (bits : Nat) : Nat :=
  (bits + 63) / 64

/-- The groups of `bits` free sectors. -/
def new (bits : Nat) : Groups where
  bits := bits
  words := List.replicate (groupsFor bits) 0

/-- The number of ones at the low end of a word. -/
def trailingOnes (word : BitVec 64) : Nat :=
  (~~~word).ctz.toNat

/-- The lowest zero in the words: the number of the first word that is not full, and the place of
the zero in it. -/
def firstZero? : (words : List (BitVec 64)) → Option (Nat × Nat)
  | [] => none
  | word :: words =>
    if word = BitVec.allOnes 64 then (firstZero? words).map fun (j, k) => (j + 1, k)
    else some (0, trailingOnes word)

/-- The word with one of its bits set to `bit`. -/
def withBit (k : Nat) (bit : Bool) (word : BitVec 64) : BitVec 64 :=
  if bit then word ||| BitVec.twoPow 64 k else word &&& ~~~BitVec.twoPow 64 k

/-- Sets one bit of a group. -/
def setBit (groups : Groups) (j k : Nat) (bit : Bool) : Except Fault Groups :=
  if j < groups.words.length then
    .ok { groups with words := groups.words.modify j (withBit k bit) }
  else
    .error .indexOutOfBounds

/-- Hands out the free sector of the lowest number and marks it. -/
def find (groups : Groups) : Except Fault (Option (SectorId × Groups)) :=
  match firstZero? groups.words with
  | none => .ok none
  | some (j, k) =>
    -- the last group may have bits that are no marks
    if groups.bits ≤ j * 64 + k then
      .ok none
    else
      (groups.setBit j k true).map fun groups => some (.ofNat (j * 64 + k), groups)

/-- The group of a sector and its place there. -/
def locate (groups : Groups) (sector : SectorId) : Except Fault (Nat × Nat) :=
  if sector.toNat < groups.bits then
    .ok (sector.toNat / 64, sector.toNat % 64)
  else
    .error (.outOfBitmapRange sector.toNat)

/-- The groups with the mark of a sector set to `taken`. -/
def put (groups : Groups) (sector : SectorId) (taken : Bool) : Except Fault Groups := do
  let (j, k) ← groups.locate sector
  groups.setBit j k taken

/-- Marks a sector as taken. -/
def mark (groups : Groups) (sector : SectorId) : Except Fault Groups :=
  groups.put sector true

/-- Marks a sector as free. -/
def clear (groups : Groups) (sector : SectorId) : Except Fault Groups :=
  groups.put sector false

/-- Whether a sector is taken. -/
def test (groups : Groups) (sector : SectorId) : Except Fault Bool := do
  let (j, k) ← groups.locate sector
  match groups.words[j]? with
  | some word => return word &&& BitVec.twoPow 64 k != 0
  | none => throw .indexOutOfBounds

/-- The number of ones in the words. -/
def countOnes : (words : List (BitVec 64)) → Nat
  | [] => 0
  | word :: words => word.cpop.toNat + countOnes words

/-- The number of free sectors. -/
def numClear (groups : Groups) : Except Fault Nat :=
  if groups.bits < countOnes groups.words then
    .error .countBelowZero
  else
    .ok (groups.bits - countOnes groups.words)

/-! ## The groups as bytes -/

/-- The bytes of the groups, as many as hold the marks. -/
def toBytes (groups : Groups) : Bytes :=
  (groups.words.flatMap fun word => Bytes.littleEndian 8 word.toNat).take
    (FreeMap.bytesFor groups.bits)

/-- The words with eight bytes put in each of them, as far as there are bytes; those that are
missing in the last word that gets some are zero. -/
def fill : (words : List (BitVec 64)) → Bytes → List (BitVec 64)
  | [], _ => []
  | words, [] => words
  | _ :: words, byte :: bytes =>
    BitVec.ofNat 64 (Bytes.value ((byte :: bytes).take 8)) :: fill words ((byte :: bytes).drop 8)

/-- The groups of `bits` sectors with the given bytes; bits beyond the last sector are dropped. -/
def ofBytes (bits : Nat) (bytes : Bytes) : Groups :=
  let words := fill (new bits).words bytes
  { bits
    words :=
      if bits % 64 = 0 then words
      else words.modify (words.length - 1) (· &&& (BitVec.twoPow 64 (bits % 64) - 1)) }

end Groups

end SectorStore
