/-!
# Clocks

A clock gives a text each time it is read, and counts how often it was read. The store never looks
into these texts; it stamps them on headers.
-/

namespace SectorStore

/-- A clock with its readings still to come and those already taken. -/
structure Clock where
  /-- The text of each reading, in order from 0. -/
  readings : Nat → String
  /-- The number of readings taken. -/
  taken : Nat := 0

namespace Clock

/-- The clock whose readings are all empty. -/
def silent : Clock where
  readings _ := ""

/-- The clock that gives the listed texts, and empty ones after them. -/
def ofList (texts : List String) : Clock where
  readings i := texts.getD i ""

/-- Reads the clock. -/
def now (clock : Clock) : String × Clock :=
  (clock.readings clock.taken, { clock with taken := clock.taken + 1 })

end Clock

end SectorStore
