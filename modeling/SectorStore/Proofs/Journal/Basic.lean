import SectorStore.Proofs.Transfer.Yields
import SectorStore.Session.Basic

/-!
# Journals

A journal lists what has happened to the files of a volume: that a file was made, or that a write
has changed one. Whether a write has changed its file is told by what can be seen of it: bytes were
written, or the file has another length than before. The clock has no part in this.

A `Journaling` transfer keeps a journal on the way. What may write files is repeated here with a
journal, down to the single write, so that each part of a write that goes around the end of a ring
is an event of its own; all other requests are carried out as they are (`Session.journal`). That a
journaling transfer does the same as the one that it repeats is a matter of proof: `x.Records y`
says so, and what holds of the answer, the journal and the disk afterwards.
-/

namespace SectorStore

/-- Something that has happened to a file, which is known by the sector of its header. -/
inductive Event where
  /-- The file was made under a name. -/
  | made (sector : SectorId) (name : String)
  /-- The file was changed by a write. -/
  | changed (sector : SectorId)
deriving DecidableEq

/-- Events in the order in which they have happened. -/
abbrev Journal := List Event

/-- A transfer that keeps a journal. -/
abbrev Journaling := StateT Journal Transfer

namespace Journaling

/-- Adds events to the journal. -/
def note (events : List Event) : Journaling Unit :=
  modify (· ++ events)

/-! ## Files and pipes -/

/-- Writes to a file, and notes whether that has changed it. -/
def writeAt (file : OpenFile) (volume : Volume) (offset : Nat) (data : Bytes) :
    Journaling (Nat × Volume) := do
  -- what has changed is seen from outside, without a look at the header's times
  let before ← file.length
  let (written, volume) ← file.writeAt volume offset data
  let after ← file.length
  note (if 0 < written ∨ after ≠ before then [.changed file.headerSector] else [])
  return (written, volume)

/-- Writes to a pipe as `Pipe.write` does. -/
def writePipe (pipe : Pipe) (volume : Volume) (data : Bytes) :
    Journaling (Nat × Pipe × Volume) :=
  let count := min data.length pipe.room
  let first := min count (pipe.ringSize - pipe.tail)
  if count = 0 then
    return (0, pipe, volume)
  else do
    let (front, volume) ← writeAt pipe.file volume pipe.tail (data.take first)
    let (back, volume) ←
      if first < count then writeAt pipe.file volume 0 (data.slice first (count - first))
      else pure (0, volume)
    let moved := front + back
    return (moved, { pipe with tail := (pipe.tail + moved) % pipe.ringSize }, volume)

/-- Takes one step on a pipe as `Pipe.step` does. -/
def step (pipe : Pipe) (volume : Volume) :
    Pipe.PeerStep → Journaling (Pipe.PeerAnswer × Pipe × Volume)
  | .read buffer => do
    let (filling, pipe) ← pipe.read buffer
    return (.filled filling, pipe, volume)
  | .write data => do
    let (count, pipe, volume) ← writePipe pipe volume data
    return (.wrote count, pipe, volume)
  | .inspect => return (.state pipe, pipe, volume)

/-- Lets the peer take a step as `Pipe.letPeer` does. -/
def letPeer {α : Type} (pipe : Pipe) (volume : Volume) (peerStep : Pipe.PeerStep)
    (next : Pipe → Volume → Journaling (Pipe.Waited α)) : Journaling (Pipe.Waited α) := do
  let (answer, pipe, volume) ← step pipe volume peerStep
  let waited ← next pipe volume
  return { waited with peer := answer :: waited.peer }

/-- Tries to read as `Pipe.readWhenReady` does. -/
def readWhenReady (buffer : Bytes) :
    (peer : List Pipe.PeerStep) → Pipe → Volume → Journaling (Pipe.Waited Filling)
  | peer, pipe, volume => do
    let (filling, pipe) ← pipe.read buffer
    if 0 < filling.count then
      return { answer := some filling, peer := [], pipe, volume }
    else match peer with
      | [] => return .givenUp pipe volume
      | peerStep :: peer => letPeer pipe volume peerStep (readWhenReady buffer peer)

/-- Waits for something to read as `Pipe.readWaiting` does. -/
def readWaiting (pipe : Pipe) (volume : Volume) (buffer : Bytes) (peer : List Pipe.PeerStep) :
    Journaling (Pipe.Waited Filling) :=
  if buffer.isEmpty then
    return { answer := some ⟨0, buffer⟩, peer := [], pipe, volume }
  else
    readWhenReady buffer peer pipe volume

/-- Writes as much as there is room for, as `Pipe.writeFully` does. -/
def writeFully : (rounds : Nat) → Bytes → Pipe → Volume → Journaling (Bytes × Pipe × Volume)
  | 0, data, pipe, volume => return (data, pipe, volume)
  | rounds + 1, data, pipe, volume =>
    if data.isEmpty then
      return (data, pipe, volume)
    else do
      let (count, pipe, volume) ← writePipe pipe volume data
      if count = 0 then
        return (data, pipe, volume)
      else
        writeFully rounds (data.drop count) pipe volume

/-- Writes all of `data` as `Pipe.writeWhenReady` does. -/
def writeWhenReady (total : Nat) :
    (peer : List Pipe.PeerStep) → (data : Bytes) → Pipe → Volume → Journaling (Pipe.Waited Nat)
  | peer, data, pipe, volume => do
    let (rest, pipe, volume) ← writeFully data.length data pipe volume
    if rest.isEmpty then
      return { answer := some total, peer := [], pipe, volume }
    else match peer with
      | [] => return .givenUp pipe volume
      | peerStep :: peer => letPeer pipe volume peerStep (writeWhenReady total peer rest)

/-- Writes all of `data` as `Pipe.writeWaiting` does. -/
def writeWaiting (pipe : Pipe) (volume : Volume) (data : Bytes) (peer : List Pipe.PeerStep) :
    Journaling (Pipe.Waited Nat) :=
  writeWhenReady data.length peer data pipe volume

end Journaling

/-! ## Sessions -/

/-- The slot of the volume on which a request has made a file, and the name of the file. -/
def Request.made? : Request → Answer → Option (Slot × String)
  | .create slot name _, .done => some (slot, name)
  | .makePipe slot _ _, .text name => some (slot, name)
  | _, _ => none

namespace Session

open Journaling

/-- The sector in which the header of the next file on a volume will be. -/
def nextHeader? (session : Session) (slot : Slot) : Option SectorId := do
  let (_, volume) ← session.volumeIn? slot
  let (sector, _) ← volume.freeMap.take?
  return sector

/-- The making of a file by a request, if its answer tells of one. -/
def made (session : Session) (request : Request) (answer : Answer) : List Event :=
  match request.made? answer with
  | some (slot, name) => (session.nextHeader? slot).toList.map (.made · name)
  | none => []

/-- Carries out a request as `Session.perform` does, and notes what happens to files. -/
def journal (session : Session) (request : Request) : Journaling (Answer × Session) :=
  match request with
  | .writeAt slot offset data =>
    match session.fileIn? slot with
    | none => return (.noHandle, session)
    | some (file, volume) => do
      let (count, volume) ← writeAt file.item volume offset data
      return (.count count, session.setVolume file.volume volume)
  | .write slot data =>
    match session.fileIn? slot with
    | none => return (.noHandle, session)
    | some (file, volume) => do
      let (count, volume) ← writeAt file.item volume file.item.position data
      let item := { file.item with position := file.item.position + count }
      return (.count count, (session.setVolume file.volume volume).setFile slot { file with item })
  | .stepPipe slot peerStep =>
    match session.pipeIn? slot with
    | none => return (.noHandle, session)
    | some (old, volume) => do
      let (answer, pipe, volume) ← step old.item volume peerStep
      return (.stepped answer, session.updatePipe slot old pipe volume)
  | .readWaiting slot buffer peer =>
    match session.pipeIn? slot with
    | none => return (.noHandle, session)
    | some (old, volume) => do
      let waited ← readWaiting old.item volume buffer peer
      return (.readWaited waited.answer waited.peer,
        session.updatePipe slot old waited.pipe waited.volume)
  | .writeWaiting slot data peer =>
    match session.pipeIn? slot with
    | none => return (.noHandle, session)
    | some (old, volume) => do
      let waited ← writeWaiting old.item volume data peer
      return (.wroteWaited waited.answer waited.peer,
        session.updatePipe slot old waited.pipe waited.volume)
  -- nothing else writes to a file that is there already
  | request => do
    let outcome ← session.perform request
    note (session.made request outcome.1)
    return outcome

end Session

/-! ## Doing the same -/

namespace Journaling

variable {α β : Type} {x : Journaling α} {y : Transfer α} {disk : Disk} {journal : Journal}

/-- The journaling transfer does on the disk what the transfer does: both run through with the same
answer and leave the same disk, and `post` holds of these and of the journal. -/
def Records (x : Journaling α) (y : Transfer α) (disk : Disk) (journal : Journal)
    (post : α → Journal → Disk → Prop) : Prop :=
  ∃ a journal' disk', (x.run journal).run disk = (.ok (a, journal'), disk') ∧
    y.run disk = (.ok a, disk') ∧ post a journal' disk'

theorem Records.mono {post post' : α → Journal → Disk → Prop} (h : Records x y disk journal post)
    (himp : ∀ a journal' disk', post a journal' disk' → post' a journal' disk') :
    Records x y disk journal post' := by
  obtain ⟨a, journal', disk', hx, hy, hpost⟩ := h
  exact ⟨a, journal', disk', hx, hy, himp a journal' disk' hpost⟩

theorem records_pure {a : α} {post : α → Journal → Disk → Prop} (h : post a journal disk) :
    Records (pure a) (pure a) disk journal post :=
  ⟨a, journal, disk, rfl, rfl, h⟩

/-- What follows is done with the journal and on the disk as they were left. -/
theorem Records.bind {f : α → Journaling β} {g : α → Transfer β}
    {mid : α → Journal → Disk → Prop} {post : β → Journal → Disk → Prop}
    (h : Records x y disk journal mid)
    (hnext : ∀ a journal' disk', mid a journal' disk' →
      Records (f a) (g a) disk' journal' post) :
    Records (x >>= f) (y >>= g) disk journal post := by
  obtain ⟨a, journal₁, disk₁, hx, hy, hmid⟩ := h
  obtain ⟨b, journal₂, disk₂, hx', hy', hpost⟩ := hnext a journal₁ disk₁ hmid
  refine ⟨b, journal₂, disk₂, ?_, ?_, hpost⟩
  · rw [StateT.run_bind, Transfer.run_bind, hx]
    exact hx'
  · rw [Transfer.run_bind, hy]
    exact hy'

/-- A transfer that is carried out as it is leaves the journal alone. -/
theorem records_lift {post : α → Journal → Disk → Prop}
    (h : y.Yields disk fun a disk' => post a journal disk') :
    Records (liftM y) y disk journal post := by
  obtain ⟨a, disk', hrun, hpost⟩ := h
  refine ⟨a, journal, disk', ?_, hrun, hpost⟩
  show ((y >>= fun a => pure (a, journal) : Transfer (α × Journal))).run disk = _
  rw [Transfer.run_bind, hrun]
  rfl

section Device

variable {δ : Type} [BlockDevice δ] [LawfulBlockDevice δ] {device : δ} {count : Nat}
  {post : α → Journal → Disk → Prop}

/-- What the two do on the image of a device they do on the device. -/
theorem Records.exists_run (h : Records x y (Disk.image device count) journal post)
    (hblocks : HasBlocks device count) :
    ∃ a journal' device', ((x.run journal).run device).1 = .ok (a, journal') ∧
      y.run device = (.ok a, device') ∧ HasBlocks device' count ∧
      post a journal' (Disk.image device' count) := by
  obtain ⟨a, journal', disk', hx, hy, hpost⟩ := h
  obtain ⟨device₁, hx', -, -⟩ := Transfer.exists_run_of_image hblocks hx
  obtain ⟨device', hy', hblocks', rfl⟩ := Transfer.exists_run_of_image hblocks hy
  exact ⟨a, journal', device', by rw [hx'], hy', hblocks', hpost⟩

/-- The two have done on a device what they do on its image. -/
theorem Records.of_run {a : α} {journal' : Journal} {device' : δ}
    (h : Records x y (Disk.image device count) journal post) (hblocks : HasBlocks device count)
    (hy : y.run device = (.ok a, device'))
    (hx : ((x.run journal).run device).1 = .ok (a, journal')) :
    post a journal' (Disk.image device' count) := by
  obtain ⟨b, journal₁, device₁, hx', hy', -, hpost⟩ := h.exists_run hblocks
  rw [hy, Prod.mk.injEq, Except.ok.injEq] at hy'
  obtain ⟨rfl, rfl⟩ := hy'
  rw [hx, Except.ok.injEq, Prod.mk.injEq] at hx'
  obtain ⟨-, rfl⟩ := hx'
  exact hpost

end Device

end Journaling

end SectorStore
