import SectorStore.Host.Basic
import SectorStore.Text.Utf8

/-!
# A plain directory

A host whose files lie in the directory in which the command line works, and in those above it; no
other directories are known. Slashes divide a path into parts. Empty parts and parts of a single dot
stay in a directory, a part of two dots leads to the one above it, and every other part is a name.
A name ends the path, unless something follows it that asks for a directory.

The main statement: the place to which a path leads does not depend on the files that are there.
-/

namespace SectorStore.PlainDirectory

/-- The most bytes of a name. -/
def nameLimit : Nat := 255

/-- The most bytes of a path. -/
def pathLimit : Nat := 4095

/-- A directory from which a path goes on. -/
inductive Folder where
  /-- The directory that lies so many levels above the one in which the command line works. -/
  | above (levels : Nat)
  /-- The directory above all others. -/
  | root
deriving DecidableEq, Repr

namespace Folder

/-- The directory above a directory. -/
def parent : Folder → Folder
  | above levels => above (levels + 1)
  | root => root

/-- The directory to which a part of a path leads that is no name. -/
def step? (folder : Folder) (part : List Char) : Option Folder :=
  if part = [] ∨ part = ['.'] then some folder
  else if part = ['.', '.'] then some folder.parent
  else none

/-- The place of a name in a directory, written as the shortest path to it. -/
def place (folder : Folder) (name : List Char) : String :=
  match folder with
  | above levels => .ofList ((List.replicate levels "../".toList).flatten ++ name)
  | root => .ofList ('/' :: name)

/-- The place to which the parts of a path lead from a directory. A name with nothing but empty
parts behind it asks for a directory, and a directory is not made in the place of a file. -/
def follow (isFile : String → Bool) (access : Access) (folder : Folder) :
    List (List Char) → Except PathFault String
  | [] => .error .directory
  | part :: rest =>
    match folder.step? part with
    | some folder => follow isFile access folder rest
    | none =>
      let isTooLong := nameLimit < (Utf8.encodeChars part).length
      if rest = [] then
        if isTooLong then .error .tooLong else .ok (folder.place part)
      else if access = .making ∧ rest.all List.isEmpty then .error .directory
      else if isTooLong then .error .tooLong
      else if isFile (folder.place part) then .error .throughFile
      else .error .missing

/-- The place does not depend on the files that are there, nor on what the path is for. -/
theorem follow_eq_ok_of_eq_ok {isFile isFile' : String → Bool} {access access' : Access}
    {folder : Folder} {parts : List (List Char)} {place : String}
    (h : folder.follow isFile access parts = .ok place) :
    folder.follow isFile' access' parts = .ok place := by
  induction parts generalizing folder with
  | nil => simp [follow] at h
  | cons part rest ih => grind [follow]

end Folder

/-- The place to which a path leads. -/
def locate (isFile : String → Bool) (access : Access) (path : String) : Except PathFault String :=
  if path.isEmpty then .error .missing
  else if pathLimit < path.utf8ByteSize then .error .tooLong
  else
    let start : Folder := if path.toList.head? = some '/' then .root else .above 0
    start.follow isFile access (path.toList.splitOn '/')

/-- The place to which a path leads does not depend on the files that are there, nor on what the
path is for. -/
theorem locate_eq_ok_of_eq_ok {isFile isFile' : String → Bool} {access access' : Access}
    {path place : String} (h : locate isFile access path = .ok place) :
    locate isFile' access' path = .ok place := by
  grind [locate, Folder.follow_eq_ok_of_eq_ok]

/-- The plain directory without files. -/
def empty : Host where
  locate := locate
  files := ∅

end SectorStore.PlainDirectory
