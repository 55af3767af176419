import Std.Time.DateTime.Timestamp
import SectorStore.Calendar
import SectorStore.CommandLine.Run

/-!
# The command line program

Reads the files of the host that a run names, carries out the run on them, and writes the image
back.
-/

namespace SectorStore.CommandLine

/-- The paths of the host's files that a run reads. -/
def Invocation.paths (invocation : Invocation) : List String :=
  match invocation.command with
  | .copyIn source _ => [invocation.image, source]
  | _ => [invocation.image]

/-- The files at the given paths, as far as they can be read. -/
def readHost (paths : List String) : IO Host := do
  let mut host : Host := { locate := fun _ _ path => .ok path, files := ∅ }
  for path in paths do
    try
      let contents ← IO.FS.readBinFile path
      host := host.put path (.ofBytes contents.toList)
    catch _ => pure ()
  return host

/-- The clock of the host, read once. -/
def hostClock : IO Clock := do
  let now ← Std.Time.Timestamp.now
  let text := Calendar.stamp now.toSecondsSinceUnixEpoch.val.toNat
  return { readings := fun _ => text }

/-- What is told to the user about a run that was not carried out. -/
def Outcome.complaint : Outcome → String
  | finished _ => ""
  | failed (.refused cause) => cause.message
  | failed (.unreached cause) => cause.message
  | crashed cause => cause.message?.getD "internal error"
  | misused => "usage: [--image PATH] [--sectors N] COMMAND\n" ++
      "commands: format, cp SOURCE NAME, cat NAME, ls, rm NAME, dump"

/-- Reports how a run ended, and gives its exit code. -/
def report (outcome : Outcome) : IO UInt32 := do
  match outcome with
  | .finished output => do
    (← IO.getStdout).write output.toByteArray
  | _ => IO.eprintln outcome.complaint
  return .ofNat outcome.exitCode

/-- Carries out a run on the files of the host. -/
def Invocation.runOnHost (invocation : Invocation) : IO UInt32 := do
  let (outcome, host) := invocation.run (← hostClock) (← readHost invocation.paths)
  if let .ok image := host.file invocation.image then
    try
      IO.FS.writeBinFile invocation.image image.toBytes.toByteArray
    catch _ => return ← report (.failed (.unreached .missing))
  report outcome

end SectorStore.CommandLine

open SectorStore.CommandLine in
/-- Carries out the run that the arguments ask for. -/
def main (arguments : List String) : IO UInt32 :=
  match Invocation.ofArguments? arguments with
  | none => report .misused
  | some invocation => invocation.runOnHost
