/-!
# Ranges of characters

A class of characters is kept as the list of its ranges of code points, in ascending order.
-/

namespace SectorStore

/-- The first and the last code points of the ranges of a class of characters, in ascending
order. -/
abbrev CodeRanges := List (Nat × Nat)

namespace CodeRanges

/-- Whether a code point is in one of the ranges; the search ends at the first range behind it. -/
def containsCode : CodeRanges → Nat → Bool
  | [], _ => false
  | (first, last) :: others, code =>
    if code < first then false else if code ≤ last then true else containsCode others code

/-- Whether a character is in one of the ranges. -/
def contains (ranges : CodeRanges) (c : Char) : Bool :=
  ranges.containsCode c.toNat

end CodeRanges

end SectorStore
