import SectorStore.Device.ImageFile

/-!
# The host's files

The command line works on files of the host, to which paths lead. Where a path leads is up to the
host; it may depend on which files there are, and on what the path is for.
-/

namespace SectorStore

/-- The reasons for which a path leads to no file. -/
inductive PathFault where
  /-- There is nothing at its end, or no directory on its way. -/
  | missing
  /-- It goes on behind a file. -/
  | throughFile
  /-- It leads to a directory. -/
  | directory
  /-- It is too long, or a name in it is. -/
  | tooLong
deriving DecidableEq, Repr

/-- The text that explains why a path leads to no file. -/
def PathFault.message : PathFault → String
  | missing => "no such file"
  | throughFile => "not a directory"
  | directory => "is a directory"
  | tooLong => "file name too long"

/-- What a path is for. -/
inductive Access where
  /-- The file at its end is used as it is. -/
  | existing
  /-- The file at its end is made if it is not there. -/
  | making
deriving DecidableEq, Repr

/-- The files of a host, as far as paths lead to them. -/
structure Host where
  /-- The place to which a path leads, where there may be a file; the first argument tells at which
  places there are files. -/
  locate : (String → Bool) → Access → String → Except PathFault String
  /-- The contents of the files by their places. -/
  files : Std.TreeMap String ImageFile

namespace Host

/-- The place to which a path leads. -/
def place (host : Host) (access : Access) (path : String) : Except PathFault String :=
  host.locate (host.files.contains ·) access path

/-- The file to which a path leads. -/
def file (host : Host) (path : String) : Except PathFault ImageFile := do
  match host.files[← host.place .existing path]? with
  | some file => return file
  | none => throw .missing

/-- The host with other contents of the file to which a path leads, made if it is not there. -/
def put (host : Host) (path : String) (file : ImageFile) : Host :=
  match host.place .making path with
  | .ok place => { host with files := host.files.insert place file }
  | .error _ => host

end Host

end SectorStore
