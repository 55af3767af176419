import SectorStore.Bytes.LittleEndian
import SectorStore.Refusal
import SectorStore.Sector
import SectorStore.Text.Utf8

/-!
# The directory

The directory is a flat table of `numEntries` entries, each of which is unused or pairs the name of
a file with the sector of its header. A name is stored as UTF-8 with zero bytes behind it, and an
entry whose first byte is zero is unused. The first unused entry is the next to be used.
-/

namespace SectorStore

/-- The number of entries of a directory. -/
abbrev numEntries : Nat := 16

/-- The largest number of bytes of a name. -/
abbrev maxNameBytes : Nat := 27

/-- The number of bytes of an entry: the name, at least one zero byte, and a word. -/
abbrev entrySize : Nat := maxNameBytes + 1 + 4

/-- One entry of a directory, as it is stored. -/
structure DirEntry where
  /-- The bytes of the name, with zeros behind it. -/
  nameBytes : Vector UInt8 (maxNameBytes + 1)
  /-- The sector of the file's header. -/
  header : SectorId
deriving DecidableEq

namespace DirEntry

/-- The unused entry. -/
def unused : DirEntry :=
  ⟨.replicate (maxNameBytes + 1) 0, 0⟩

/-- The entry for a file, unless the name is empty or too long. -/
def make (name : String) (header : SectorId) : Except Refusal DirEntry :=
  let bytes := Utf8.encode name
  if bytes.isEmpty then
    .error .emptyName
  else if maxNameBytes < bytes.length then
    .error .nameTooLong
  else
    .ok ⟨bytes.fit (maxNameBytes + 1), header⟩

/-- Whether the entry is unused. -/
def isUnused (entry : DirEntry) : Bool :=
  entry.nameBytes[0] == 0

/-- The name in an entry, empty if its bytes are no text. -/
def name (entry : DirEntry) : String :=
  Utf8.decode ((Bytes.untilZero entry.nameBytes.toList).take maxNameBytes)

/-- Whether the entry is in use for a file of the given name. -/
def isFor (entry : DirEntry) (name : String) : Bool :=
  !entry.isUnused && entry.name == name

/-- The bytes of an entry. -/
def toBytes (entry : DirEntry) : Bytes :=
  entry.nameBytes.toList ++ Bytes.ofWord entry.header

/-- The entry with the given bytes. -/
def ofBytes (bytes : Bytes) : DirEntry where
  nameBytes := Bytes.fit (maxNameBytes + 1) (bytes.take (maxNameBytes + 1))
  header := Bytes.toWord (bytes.drop (maxNameBytes + 1))

end DirEntry

/-- A table of directory entries. -/
structure Directory where
  /-- The entries in order. -/
  entries : Vector DirEntry numEntries
deriving DecidableEq

namespace Directory

/-- The directory without files. -/
def empty : Directory :=
  ⟨.replicate numEntries .unused⟩

/-- The number of bytes of a directory. -/
def byteSize : Nat :=
  numEntries * entrySize

/-- The sector of the header of the file of the given name. -/
def find? (directory : Directory) (name : String) : Option SectorId :=
  (directory.entries.find? (·.isFor name)).map DirEntry.header

/-- Puts an entry into the first unused place; `none` if there is none. -/
def insert? (directory : Directory) (entry : DirEntry) : Option Directory := do
  let i ← directory.entries.findFinIdx? DirEntry.isUnused
  return ⟨directory.entries.set i entry⟩

/-- Takes out the entry of the given name, and tells the sector of the header it named; `none` if
there is no such entry. -/
def erase? (directory : Directory) (name : String) : Option (SectorId × Directory) := do
  let i ← directory.entries.findFinIdx? (·.isFor name)
  return (directory.entries[i].header, ⟨directory.entries.set i .unused⟩)

/-- The names in the entries in use, in order. -/
def names (directory : Directory) : List String :=
  (directory.entries.toList.filter (!·.isUnused)).map DirEntry.name

/-- The bytes of a directory, entry by entry. -/
def toBytes (directory : Directory) : Bytes :=
  directory.entries.toList.flatMap DirEntry.toBytes

/-- The directory with the given bytes; entries of which bytes are missing are unused. -/
def ofBytes (bytes : Bytes) : Directory :=
  ⟨.ofFn fun i =>
    let piece := bytes.slice (i * entrySize) entrySize
    if piece.length = entrySize then .ofBytes piece else .unused⟩

end Directory

end SectorStore
