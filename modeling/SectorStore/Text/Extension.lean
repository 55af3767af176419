/-!
# Name extensions

The extension of a file name is what stands behind its last dot. A name without a dot has none, and
neither has a name whose last dot is its first character.
-/

namespace SectorStore.Extension

/-- The parts of a list in front of and behind the last `c` in it; `none` if there is no `c`. -/
def splitLast (c : Char) (chars : List Char) : Option (List Char × List Char) :=
  match chars.reverse.span (· != c) with
  | (_, []) => none
  | (after, _ :: before) => some (before.reverse, after.reverse)

/-- The extension of a name, empty if there is none. -/
def ofName (name : String) : String :=
  match splitLast '.' name.toList with
  | none | some ([], _) => ""
  | some (_, after) => .ofList after

end SectorStore.Extension
