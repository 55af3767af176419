import SectorStore.FreeMap.Marks
import SectorStore.Transfer

/-!
# The free map

One mark per sector of a disk: a marked sector is taken, any other is free. Free sectors are handed
out lowest number first. On the disk the marks are packed eight to a byte, lowest bit first.

A map stands for the set of its taken sectors, written `i ∈ map`; `isTaken_free`, `isTaken_put` and
`isTaken_ofBytes` say what the operations make of that set, and `ext_isTaken` that it is all there
is to a map besides its size. Only the marks up to the last taken sector are held, so that a map of
a huge disk takes no more room than what is taken of it.
-/

namespace SectorStore

/-- The marks of the sectors of a disk. -/
structure FreeMap where
  /-- The number of sectors the map covers. -/
  size : Nat
  /-- The marks up to that of the last taken sector, `true` where the sector is taken. -/
  marks : Array Bool
  /-- Every mark belongs to a sector of the map. -/
  size_marks_le : marks.size ≤ size
  /-- The last mark is not that of a free sector. -/
  back_marks_ne : marks.back? ≠ some false
deriving DecidableEq, Repr

namespace FreeMap

/-- The map of `size` sectors with the given marks; sectors beyond them are free. -/
def ofMarks (size : Nat) (marks : Array Bool) (h : marks.size ≤ size) : FreeMap where
  size := size
  marks := Marks.trim marks
  size_marks_le := Nat.le_trans (Marks.size_trim_le marks) h
  back_marks_ne := Marks.back?_trim_ne marks

/-- The map of `bits` free sectors. -/
def free (bits : Nat) : FreeMap :=
  ofMarks bits #[] (Nat.zero_le bits)

/-- The number of free sectors. -/
def numFree (map : FreeMap) : Nat :=
  map.size - map.marks.count true

/-- Whether sector number `i` is taken; numbers beyond the map are not. -/
def isTaken (map : FreeMap) (i : Nat) : Bool :=
  map.marks.getD i false

instance : Membership Nat FreeMap where
  mem map i := map.isTaken i = true

instance (map : FreeMap) (i : Nat) : Decidable (i ∈ map) :=
  inferInstanceAs (Decidable (map.isTaken i = true))

theorem mem_iff {map : FreeMap} {i : Nat} : i ∈ map ↔ map.isTaken i = true :=
  Iff.rfl

/-- The map with the mark of one of its sectors set to `taken`. -/
def set (map : FreeMap) (i : Nat) (taken : Bool) (h : i < map.size) : FreeMap :=
  ofMarks map.size (Marks.set map.marks i taken) <| by
    have := Marks.size_set_le map.marks i taken
    have := map.size_marks_le
    omega

/-- The lowest number that is not that of a taken sector. -/
def firstFree (map : FreeMap) : Nat :=
  map.marks.findIdx (! ·)

/-- Hands out the free sector of the lowest number and marks it; `none` if every sector is taken. -/
def take? (map : FreeMap) : Option (SectorId × FreeMap) :=
  if h : map.firstFree < map.size then
    some (.ofNat map.firstFree, map.set map.firstFree true h)
  else
    none

/-- Hands out `count` sectors one after another; `none` if there are fewer. -/
def takeMany? (map : FreeMap) : (count : Nat) → Option (Vector SectorId count × FreeMap)
  | 0 => some (#v[], map)
  | count + 1 => do
    let (taken, map) ← map.takeMany? count
    let (sector, map) ← map.take?
    return (taken.push sector, map)

/-- The map with the mark of a sector set to `taken`. -/
def put (map : FreeMap) (sector : SectorId) (taken : Bool) : Except Fault FreeMap :=
  if h : sector.toNat < map.size then
    .ok (map.set sector.toNat taken h)
  else
    .error (.outOfBitmapRange sector.toNat)

/-- Marks a sector as taken. -/
def mark (map : FreeMap) (sector : SectorId) : Except Fault FreeMap :=
  map.put sector true

/-- Marks a sector as free. -/
def clear (map : FreeMap) (sector : SectorId) : Except Fault FreeMap :=
  map.put sector false

/-- Whether a sector of the map is taken. -/
def lookup (map : FreeMap) (sector : SectorId) : Except Fault Bool :=
  if sector.toNat < map.size then
    .ok (map.isTaken sector.toNat)
  else
    .error (.outOfBitmapRange sector.toNat)

/-- Gives back a sector, which has to be taken. -/
def release (map : FreeMap) (sector : SectorId) : Except Fault FreeMap := do
  if ← map.lookup sector then map.clear sector else throw (.notAllocated sector.toNat)

/-- Gives back sectors one after another. -/
def releaseAll (map : FreeMap) (sectors : List SectorId) : Except Fault FreeMap :=
  sectors.foldlM release map

/-! ## The map as bytes -/

/-- The number whose bits, lowest first, are the given ones. -/
def packBits : List Bool → Nat
  | [] => 0
  | bit :: rest => bit.toNat + 2 * packBits rest

/-- The number of bytes that hold `bits` marks. -/
def bytesFor (bits : Nat) : Nat :=
  (bits + 7) / 8

/-- The first `count` bytes of the packed marks: sector `i` is bit `i % 8` of byte `i / 8`, unused
bits are zero. -/
def bytes (map : FreeMap) (count : Nat) : Bytes :=
  (List.range count).map fun j =>
    UInt8.ofNat (packBits ((List.range 8).map fun k => map.isTaken (8 * j + k)))

/-- The marks packed into bytes. -/
def toBytes (map : FreeMap) : Bytes :=
  map.bytes (bytesFor map.size)

/-- The packed marks as far as there is room for them. -/
def bytesWithin (map : FreeMap) (room : Nat) : Bytes :=
  map.bytes (min room (bytesFor map.size))

/-- The map of `bits` sectors with the given packed marks; bits beyond the map are dropped, and
sectors beyond the bytes are free. -/
def ofBytes (bits : Nat) (bytes : Bytes) : FreeMap :=
  let bytes := bytes.toArray
  ofMarks bits (.ofFn fun i : Fin (min bits (8 * bytes.size)) =>
    (bytes.getD (i / 8) 0).toNat.testBit (i % 8)) (by rw [Array.size_ofFn]; omega)

/-! ## What the operations do to the set of taken sectors -/

/-- A map is determined by its size and by which of its sectors are taken. -/
theorem ext_isTaken {a b : FreeMap} (size_eq : a.size = b.size)
    (h : ∀ i, a.isTaken i = b.isTaken i) : a = b := by
  have marks_eq : a.marks = b.marks := by
    have le : ∀ {a b : FreeMap}, (∀ i, a.isTaken i = b.isTaken i) →
        a.marks.size ≤ b.marks.size := by
      intro a b h
      apply Nat.le_of_not_lt
      intro hlt
      have hpos : a.marks.size - 1 < a.marks.size := by omega
      have hlast := h (a.marks.size - 1)
      simp only [isTaken, Array.getD_eq_getD_getElem?, Array.getElem?_eq_getElem hpos,
        Array.getElem?_eq_none (show b.marks.size ≤ a.marks.size - 1 by omega)] at hlast
      apply a.back_marks_ne
      rw [Array.back?_eq_getElem?, Array.getElem?_eq_getElem hpos]
      exact congrArg some hlast
    apply Array.ext (Nat.le_antisymm (le h) (le fun i => (h i).symm))
    intro i hia hib
    have := h i
    simpa [isTaken, Array.getD_eq_getD_getElem?, hia, hib] using this
  cases a
  cases b
  simp_all

@[simp]
theorem size_ofMarks (size : Nat) (marks : Array Bool) (h : marks.size ≤ size) :
    (ofMarks size marks h).size = size :=
  rfl

@[simp]
theorem isTaken_ofMarks (size : Nat) (marks : Array Bool) (h : marks.size ≤ size) (i : Nat) :
    (ofMarks size marks h).isTaken i = marks.getD i false :=
  Marks.getD_trim marks i

@[simp]
theorem size_free (bits : Nat) : (free bits).size = bits :=
  rfl

/-- A fresh map has no taken sector. -/
@[simp]
theorem isTaken_free (bits i : Nat) : (free bits).isTaken i = false := by
  simp [free]

/-- A taken sector is a sector of the map. -/
theorem lt_size_of_isTaken {map : FreeMap} {i : Nat} (h : map.isTaken i = true) :
    i < map.size := by
  rw [isTaken, Array.getD_eq_getD_getElem?] at h
  by_cases hi : i < map.marks.size
  · exact Nat.lt_of_lt_of_le hi map.size_marks_le
  · simp [Array.getElem?_eq_none (Nat.le_of_not_lt hi)] at h

@[simp]
theorem size_set (map : FreeMap) (i : Nat) (taken : Bool) (h : i < map.size) :
    (map.set i taken h).size = map.size :=
  rfl

/-- Setting a mark changes that mark only. -/
@[simp]
theorem isTaken_set (map : FreeMap) (i j : Nat) (taken : Bool) (h : i < map.size) :
    (map.set i taken h).isTaken j = if j = i then taken else map.isTaken j := by
  rw [set, isTaken_ofMarks, Marks.getD_set]
  rfl

/-- Every sector before the lowest free one is taken. -/
theorem isTaken_of_lt_firstFree {map : FreeMap} {i : Nat} (h : i < map.firstFree) :
    map.isTaken i = true := by
  have hi : i < map.marks.size := Nat.lt_of_lt_of_le h Array.findIdx_le_size
  have := Array.not_of_lt_findIdx h
  simp_all [isTaken, Array.getD_eq_getD_getElem?]

/-- The lowest free number is not that of a taken sector. -/
@[simp]
theorem isTaken_firstFree (map : FreeMap) : map.isTaken map.firstFree = false := by
  by_cases h : map.firstFree < map.marks.size
  · have : (! map.marks[map.firstFree]) = true := Array.findIdx_getElem
    simp only [isTaken, Array.getD_eq_getD_getElem?, Array.getElem?_eq_getElem h]
    simpa using this
  · simp [isTaken, Array.getD_eq_getD_getElem?, Array.getElem?_eq_none (Nat.le_of_not_lt h)]

/-- Marks are set on the sectors of the map and on no others. -/
theorem put_eq_error_iff {map : FreeMap} {sector : SectorId} {taken : Bool} {cause : Fault} :
    map.put sector taken = .error cause ↔
      map.size ≤ sector.toNat ∧ cause = .outOfBitmapRange sector.toNat := by
  unfold put
  split
  · next h => simp [Nat.not_le.2 h]
  · next h => simp [Nat.not_lt.1 h, eq_comm]

/-- Setting a mark keeps the number of sectors. -/
theorem size_put {map map' : FreeMap} {sector : SectorId} {taken : Bool}
    (h : map.put sector taken = .ok map') : map'.size = map.size := by
  unfold put at h
  split at h
  · cases h
    rfl
  · cases h

/-- Setting a mark changes that mark only. -/
theorem isTaken_put {map map' : FreeMap} {sector : SectorId} {taken : Bool}
    (h : map.put sector taken = .ok map') (i : Nat) :
    map'.isTaken i = if i = sector.toNat then taken else map.isTaken i := by
  unfold put at h
  split at h
  · next hs =>
    cases h
    exact isTaken_set map sector.toNat i taken hs
  · cases h

/-- Looking up a sector of the map tells its mark. -/
theorem lookup_eq_ok {map : FreeMap} {sector : SectorId} (h : sector.toNat < map.size) :
    map.lookup sector = .ok (map.isTaken sector.toNat) :=
  if_pos h

/-! ## What the bytes of a map say -/

/-- Bit `i` of packed bits is the bit at place `i`. -/
theorem testBit_packBits (bits : List Bool) (i : Nat) :
    (packBits bits).testBit i = bits.getD i false := by
  induction bits generalizing i with
  | nil => simp [packBits]
  | cons bit rest ih =>
    cases i with
    | zero =>
      cases bit <;> simp [packBits, Nat.testBit_zero]
    | succ i =>
      have half : (bit.toNat + 2 * packBits rest) / 2 = packBits rest := by
        have := Bool.toNat_le bit
        omega
      rw [packBits, Nat.testBit_succ, half, ih]
      simp

@[simp]
theorem size_ofBytes (bits : Nat) (bytes : Bytes) : (ofBytes bits bytes).size = bits :=
  rfl

/-- A sector read from bytes is taken if it belongs to the map and its bit is set. -/
theorem isTaken_ofBytes (bits : Nat) (bytes : Bytes) (i : Nat) :
    (ofBytes bits bytes).isTaken i =
      (decide (i < bits) && (bytes.getD (i / 8) 0).toNat.testBit (i % 8)) := by
  simp only [ofBytes, isTaken_ofMarks, Array.getD_eq_getD_getElem?, Array.getElem?_ofFn,
    List.size_toArray, List.getElem?_toArray, List.getD_eq_getElem?_getD]
  split
  · next hm =>
    have : i < bits := by omega
    simp [this]
  · next hm =>
    by_cases h : i < bits
    · simp [h, List.getElem?_eq_none (show bytes.length ≤ i / 8 by omega)]
    · simp [h]

@[simp]
theorem length_bytes (map : FreeMap) (count : Nat) : (map.bytes count).length = count := by
  simp [bytes]

@[simp]
theorem length_toBytes (map : FreeMap) : map.toBytes.length = bytesFor map.size :=
  length_bytes map (bytesFor map.size)

/-- Where there is less room than the packed marks take, they are cut off. -/
theorem bytesWithin_eq_take (map : FreeMap) (room : Nat) :
    map.bytesWithin room = map.toBytes.take room := by
  rw [bytesWithin, toBytes, bytes, bytes, ← List.map_take, List.take_range]

end FreeMap

end SectorStore
