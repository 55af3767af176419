import Std.Data.TreeMap
import SectorStore.Session.Request
import SectorStore.Volume.Listing

/-!
# Sessions

A session carries out requests one after another. Files and pipes stay with the volume on which they
were opened, whatever becomes of its slot, so the session keeps every volume that it ever took up.
Pipes are numbered through the whole session.

`Session.perform` carries out one request, `Session.performAll` a list of them.
-/

namespace SectorStore

/-- Something that belongs to a volume. -/
structure Attached (α : Type) where
  /-- The number of the volume in the session. -/
  volume : Nat
  /-- The thing itself. -/
  item : α

/-- The state of a session. -/
structure Session where
  /-- Every volume taken up so far. -/
  volumes : Array Volume
  /-- The numbers of the volumes in the slots. -/
  mounted : Std.TreeMap Slot Nat
  /-- The open files in the slots. -/
  files : Std.TreeMap Slot (Attached OpenFile)
  /-- The pipes in the slots. -/
  pipes : Std.TreeMap Slot (Attached Pipe)
  /-- The number of the pipe to be made next. -/
  nextPipe : Nat

namespace Session

/-- The session in which nothing was done. -/
def start : Session where
  volumes := #[]
  mounted := ∅
  files := ∅
  pipes := ∅
  nextPipe := 0

/-- The volume in a slot, with its number. -/
def volumeIn? (session : Session) (slot : Slot) : Option (Nat × Volume) := do
  let number ← session.mounted[slot]?
  let volume ← session.volumes[number]?
  return (number, volume)

/-- The open file in a slot, with its volume. -/
def fileIn? (session : Session) (slot : Slot) : Option (Attached OpenFile × Volume) := do
  let file ← session.files[slot]?
  let volume ← session.volumes[file.volume]?
  return (file, volume)

/-- The pipe in a slot, with its volume. -/
def pipeIn? (session : Session) (slot : Slot) : Option (Attached Pipe × Volume) := do
  let pipe ← session.pipes[slot]?
  let volume ← session.volumes[pipe.volume]?
  return (pipe, volume)

/-- Puts a volume that was taken up just now into a slot. -/
def addVolume (session : Session) (slot : Slot) (volume : Volume) : Session :=
  { session with
    volumes := session.volumes.push volume
    mounted := session.mounted.insert slot session.volumes.size }

/-- Records the new state of a volume. -/
def setVolume (session : Session) (number : Nat) (volume : Volume) : Session :=
  { session with volumes := session.volumes.setIfInBounds number volume }

/-- Puts an open file into a slot. -/
def setFile (session : Session) (slot : Slot) (file : Attached OpenFile) : Session :=
  { session with files := session.files.insert slot file }

/-- Puts a pipe into a slot. -/
def setPipe (session : Session) (slot : Slot) (pipe : Attached Pipe) : Session :=
  { session with pipes := session.pipes.insert slot pipe }

/-- Records the new states of a pipe and of its volume. -/
def updatePipe (session : Session) (slot : Slot) (old : Attached Pipe) (pipe : Pipe)
    (volume : Volume) : Session :=
  (session.setVolume old.volume volume).setPipe slot { old with item := pipe }

/-- Drops a pipe that is in no slot any more. -/
def discard (session : Session) (pipe : Attached Pipe) : Transfer Session := do
  match session.volumes[pipe.volume]? with
  | none => return session
  | some volume => return session.setVolume pipe.volume (← pipe.item.drop volume)

/-- Does something with the volume in a slot. -/
def onVolume (session : Session) (slot : Slot)
    (act : Nat → Volume → Transfer (Answer × Session)) : Transfer (Answer × Session) :=
  match session.volumeIn? slot with
  | some (number, volume) => act number volume
  | none => return (.noVolume, session)

/-- Does something with the file in a slot. -/
def onFile (session : Session) (slot : Slot)
    (act : Attached OpenFile → Volume → Transfer (Answer × Session)) :
    Transfer (Answer × Session) :=
  match session.fileIn? slot with
  | some (file, volume) => act file volume
  | none => return (.noHandle, session)

/-- Does something with the pipe in a slot. -/
def onPipe (session : Session) (slot : Slot)
    (act : Attached Pipe → Volume → Transfer (Answer × Session)) :
    Transfer (Answer × Session) :=
  match session.pipeIn? slot with
  | some (pipe, volume) => act pipe volume
  | none => return (.noHandle, session)

/-- Changes the volume in a slot, or refuses to. -/
def changeVolume (session : Session) (slot : Slot)
    (change : Volume → ExceptT Refusal Transfer Volume) : Transfer (Answer × Session) :=
  session.onVolume slot fun number volume => do
    match ← (change volume).run with
    | .ok volume => return (.done, session.setVolume number volume)
    | .error cause => return (.refused cause, session)

/-- Makes a pipe on the volume in a slot. -/
def makePipe (session : Session) (slot pipeSlot : Slot) (size : Nat) :
    Transfer (Answer × Session) :=
  session.onVolume slot fun number volume => do
    let (answer, nextPipe) ← Pipe.make volume session.nextPipe size
    let session := { session with nextPipe }
    match answer with
    | .error cause => return (.refused cause, session)
    | .ok (pipe, volume) => do
      let old := session.pipes[pipeSlot]?
      let session := (session.setVolume number volume).setPipe pipeSlot ⟨number, pipe⟩
      match old with
      | none => return (.text pipe.name, session)
      | some old => return (.text pipe.name, ← session.discard old)

/-- Carries out a request. -/
def perform (session : Session) : Request → Transfer (Answer × Session)
  | .format slot numSectors => do
    match ← (Volume.format numSectors).run with
    | .ok volume => return (.done, session.addVolume slot volume)
    | .error cause => return (.refused cause, session)
  | .mount slot numSectors => do
    return (.done, session.addVolume slot (← Volume.mount numSectors))
  | .unmount slot => return (.done, { session with mounted := session.mounted.erase slot })
  | .setClock slot clock => session.changeVolume slot fun volume => return volume.withClock clock
  | .create slot name size => session.changeVolume slot (·.create name size)
  | .remove slot name => session.changeVolume slot (·.remove name)
  | .names slot => session.onVolume slot fun _ volume => return (.names volume.names, session)
  | .listing slot =>
    session.onVolume slot fun _ volume => return (.text (← volume.listing), session)
  | .openFile slot fileSlot name =>
    session.onVolume slot fun number volume =>
      match volume.open name with
      | .ok file => return (.done, session.setFile fileSlot ⟨number, file⟩)
      | .error cause => return (.refused cause, session)
  | .readAt slot offset buffer =>
    session.onFile slot fun file _ =>
      return (.filled (← file.item.readAt offset buffer), session)
  | .read slot buffer =>
    session.onFile slot fun file _ => do
      let (filling, item) ← file.item.read buffer
      return (.filled filling, session.setFile slot { file with item })
  | .writeAt slot offset data =>
    session.onFile slot fun file volume => do
      let (count, volume) ← file.item.writeAt volume offset data
      return (.count count, session.setVolume file.volume volume)
  | .write slot data =>
    session.onFile slot fun file volume => do
      let (count, item, volume) ← file.item.write volume data
      return (.count count, (session.setVolume file.volume volume).setFile slot { file with item })
  | .seek slot position =>
    session.onFile slot fun file _ =>
      return (.done, session.setFile slot { file with item := file.item.seek position })
  | .close slot =>
    session.onFile slot fun _ _ =>
      return (.done, { session with files := session.files.erase slot })
  | .length slot =>
    session.onFile slot fun file _ => return (.count (← file.item.length), session)
  | .headerSector slot =>
    session.onFile slot fun file _ => return (.count file.item.headerSector.toNat, session)
  | .header slot =>
    session.onFile slot fun file _ => return (.header (← file.item.header), session)
  | .makePipe slot pipeSlot size => session.makePipe slot pipeSlot size
  | .stepPipe slot step =>
    session.onPipe slot fun old volume => do
      let (answer, pipe, volume) ← old.item.step volume step
      return (.stepped answer, session.updatePipe slot old pipe volume)
  | .readWaiting slot buffer peer =>
    session.onPipe slot fun old volume => do
      let waited ← old.item.readWaiting volume buffer peer
      return (.readWaited waited.answer waited.peer,
        session.updatePipe slot old waited.pipe waited.volume)
  | .writeWaiting slot data peer =>
    session.onPipe slot fun old volume => do
      let waited ← old.item.writeWaiting volume data peer
      return (.wroteWaited waited.answer waited.peer,
        session.updatePipe slot old waited.pipe waited.volume)
  | .dropPipe slot =>
    session.onPipe slot fun pipe _ => do
      let session := { session with pipes := session.pipes.erase slot }
      return (.done, ← session.discard pipe)

/-- Carries out requests one after another. -/
def performAll (session : Session) : List Request → Transfer (List Answer × Session)
  | [] => return ([], session)
  | request :: others => do
    let (answer, session) ← session.perform request
    let (answers, session) ← session.performAll others
    return (answer :: answers, session)

end Session

end SectorStore
