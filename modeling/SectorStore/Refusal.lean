/-!
# Refusals

A refusal is an answer: the request cannot be met as it stands, and nothing has changed.
-/

namespace SectorStore

/-- The reasons for which a request is turned down. -/
inductive Refusal where
  /-- There are not enough free sectors. -/
  | noSpace
  /-- The size exceeds what one index sector can address. -/
  | fileTooLarge
  /-- Growth would leave the sectors that a header lists itself. -/
  | expandBeyondDirect
  /-- A file of that name is there already. -/
  | alreadyExists
  /-- There is no file of that name. -/
  | notFound
  /-- The name does not fit into a directory entry. -/
  | nameTooLong
  /-- The name is empty, which marks an unused directory entry. -/
  | emptyName
  /-- Every directory entry is in use. -/
  | directoryFull
  /-- A pipe has to hold at least one byte. -/
  | zeroSizedPipe
deriving DecidableEq, Repr

/-- The wording of a refusal. -/
def Refusal.message : Refusal → String
  | noSpace => "not enough space"
  | fileTooLarge => "file too large"
  | expandBeyondDirect => "cannot expand beyond the direct blocks"
  | alreadyExists => "file already exists"
  | notFound => "file not found"
  | nameTooLong => "file name too long"
  | emptyName => "file name is empty"
  | directoryFull => "directory is full"
  | zeroSizedPipe => "pipe size must be positive"

end SectorStore
