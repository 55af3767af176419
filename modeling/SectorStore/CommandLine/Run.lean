import SectorStore.CommandLine.Arguments
import SectorStore.Host.Basic
import SectorStore.OpenFile
import SectorStore.Text.Quoted
import SectorStore.Volume.Listing

/-!
# Runs of the command line

Each run sets the image file to the size asked for, takes up the volume on it, or lays it out anew,
and carries out one command. Only the command that lays out the image makes the file.
-/

namespace SectorStore.CommandLine

/-- The reasons for which a run fails. -/
inductive Failure where
  /-- The request was turned down. -/
  | refused (cause : Refusal)
  /-- A path led to no file of the host. -/
  | unreached (cause : PathFault)
deriving DecidableEq, Repr

/-- How a run ends. -/
inductive Outcome where
  /-- It was carried out, and this is to be printed. -/
  | finished (output : Bytes)
  /-- It failed. -/
  | failed (cause : Failure)
  /-- It was given up for good. -/
  | crashed (cause : Fault)
  /-- The arguments do not make sense. -/
  | misused
deriving DecidableEq, Repr

/-- The exit code that tells how a run ended. -/
def Outcome.exitCode : Outcome → Nat
  | finished _ => 0
  | failed _ => 1
  | misused => 2
  | crashed _ => 101

/-- Stores `data` as a new file, and tells how many bytes were written. -/
def storeFile (volume : Volume) (name : String) (data : Bytes) : ExceptT Refusal Transfer Nat := do
  let volume ← volume.create name data.length
  let file ← volume.open name
  let (written, _) ← file.writeAt volume 0 data
  return written

/-- The bytes of a file. -/
def contents (volume : Volume) (name : String) : ExceptT Refusal Transfer Bytes := do
  let file ← volume.open name
  file.readBytes 0 (← file.length)

/-- The line that reports a stored file. -/
def copyReport (written : Nat) (source name : String) : String :=
  s!"copied {written} bytes from {Quoted.encode source} to {Quoted.encode name}\n"

/-- What a command does on the image, and what it prints. The clock gives the times of changes, and
`read` looks up files of the host. -/
def Command.transfer (command : Command) (numSectors : Nat) (clock : Clock)
    (read : String → Except PathFault Bytes) : ExceptT Failure Transfer Bytes := do
  match command with
  | .format => do
    let _ ← (Volume.format numSectors).adapt .refused
    return []
  | .copyIn source name => do
    let volume ← mount
    match read source with
    | .error cause => throw (.unreached cause)
    | .ok data => do
      let written ← (storeFile volume name data).adapt .refused
      return Utf8.encode (copyReport written source name)
  | .show name => do (contents (← mount) name).adapt .refused
  | .names => do
    let volume ← mount
    return volume.names.flatMap fun name => Utf8.encode name ++ Utf8.encode "\n"
  | .remove name => do
    let _ ← ((← mount).remove name).adapt .refused
    return []
  | .listing => do return Utf8.encode (← (← mount).listing)
where
  /-- The volume on the image, with the clock. -/
  mount : ExceptT Failure Transfer Volume := do
    return (← Volume.mount numSectors).withClock clock

/-- Sets the image file to its size, where it is there or may be made. -/
def openImage (invocation : Invocation) (host : Host) : Except PathFault ImageFile := do
  let old ← if invocation.command = .format then
      (host.place .making invocation.image).map fun _ => ImageFile.empty
    else
      host.file invocation.image
  return old.resize invocation.numSectors

/-- Carries out a run: how it ends, and the files of the host afterwards. -/
def Invocation.run (invocation : Invocation) (clock : Clock) (host : Host) : Outcome × Host :=
  match openImage invocation host with
  | .error cause => (.failed (.unreached cause), host)
  | .ok image =>
    let host := host.put invocation.image image
    let read path := (host.file path).map ImageFile.toBytes
    let transfer := (invocation.command.transfer invocation.numSectors clock read).run
    let (answer, image) := transfer.run image
    let outcome := match answer with
      | .ok (.ok output) => .finished output
      | .ok (.error cause) => .failed cause
      | .error cause => .crashed cause
    (outcome, host.put invocation.image image)

/-- Carries out the run that the arguments ask for. -/
def run (arguments : List String) (clock : Clock) (host : Host) : Outcome × Host :=
  match Invocation.ofArguments? arguments with
  | none => (.misused, host)
  | some invocation => invocation.run clock host

end SectorStore.CommandLine
