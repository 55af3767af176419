import SectorStore.Pipe.Basic

/-!
# Waiting for a pipe

A reader may wait until there is something to read, and a writer until everything is written. What
happens while one side waits is the work of its peer on the same pipe, given as a list of steps: one
of them is taken each time the waiting side can do nothing. If no step is left then, the wait is
given up, and what was moved by then stays moved.
-/

namespace SectorStore.Pipe

/-- What a peer may do on the pipe. -/
inductive PeerStep where
  /-- Reads into a buffer. -/
  | read (buffer : Bytes)
  /-- Writes bytes. -/
  | write (data : Bytes)
  /-- Looks at the state of the pipe. -/
  | inspect
deriving DecidableEq

/-- What a step of a peer answers. -/
inductive PeerAnswer where
  /-- The outcome of a read. -/
  | filled (filling : Filling)
  /-- The number of bytes written. -/
  | wrote (count : Nat)
  /-- The pipe as it was at that moment. -/
  | state (pipe : Pipe)
deriving DecidableEq

/-- Takes one step on a pipe. -/
def step (pipe : Pipe) (volume : Volume) : PeerStep → Transfer (PeerAnswer × Pipe × Volume)
  | .read buffer => do
    let (filling, pipe) ← pipe.read buffer
    return (.filled filling, pipe, volume)
  | .write data => do
    let (count, pipe, volume) ← pipe.write volume data
    return (.wrote count, pipe, volume)
  | .inspect => return (.state pipe, pipe, volume)

/-- The end of a wait. -/
structure Waited (α : Type) where
  /-- The answer that was waited for; `none` if the wait was given up. -/
  answer : Option α
  /-- The answers of the steps that the peer took, in order. -/
  peer : List PeerAnswer
  /-- The pipe afterwards. -/
  pipe : Pipe
  /-- The volume afterwards. -/
  volume : Volume

/-- The wait that was given up. -/
def Waited.givenUp {α : Type} (pipe : Pipe) (volume : Volume) : Waited α where
  answer := none
  peer := []
  pipe
  volume

/-- Lets the peer take a step, and goes on waiting. -/
def letPeer {α : Type} (pipe : Pipe) (volume : Volume) (step : PeerStep)
    (next : Pipe → Volume → Transfer (Waited α)) : Transfer (Waited α) := do
  let (answer, pipe, volume) ← pipe.step volume step
  let waited ← next pipe volume
  return { waited with peer := answer :: waited.peer }

/-- Tries to read until there is something to read. -/
def readWhenReady (buffer : Bytes) :
    (peer : List PeerStep) → Pipe → Volume → Transfer (Waited Filling)
  | peer, pipe, volume => do
    let (filling, pipe) ← pipe.read buffer
    if 0 < filling.count then
      return { answer := some filling, peer := [], pipe, volume }
    else match peer with
      | [] => return .givenUp pipe volume
      | step :: peer => pipe.letPeer volume step (readWhenReady buffer peer)

/-- Waits until there is something to read, and reads what there is and fits. A buffer of no bytes
is not waited for. -/
def readWaiting (pipe : Pipe) (volume : Volume) (buffer : Bytes) (peer : List PeerStep) :
    Transfer (Waited Filling) :=
  if buffer.isEmpty then
    return { answer := some ⟨0, buffer⟩, peer := [], pipe, volume }
  else
    readWhenReady buffer peer pipe volume

/-- Writes until the pipe takes no more or nothing is left, in at most `rounds` writes, and gives
what is left. -/
def writeFully : (rounds : Nat) → Bytes → Pipe → Volume → Transfer (Bytes × Pipe × Volume)
  | 0, data, pipe, volume => return (data, pipe, volume)
  | rounds + 1, data, pipe, volume =>
    if data.isEmpty then
      return (data, pipe, volume)
    else do
      let (count, pipe, volume) ← pipe.write volume data
      -- a write that moves nothing is the sign to stop; any other leaves fewer bytes
      if count = 0 then
        return (data, pipe, volume)
      else
        writeFully rounds (data.drop count) pipe volume

/-- Writes all of `data`, of which `total` bytes were to be written at first, waiting where the pipe
takes no more. -/
def writeWhenReady (total : Nat) :
    (peer : List PeerStep) → (data : Bytes) → Pipe → Volume → Transfer (Waited Nat)
  | peer, data, pipe, volume => do
    let (rest, pipe, volume) ← writeFully data.length data pipe volume
    if rest.isEmpty then
      return { answer := some total, peer := [], pipe, volume }
    else match peer with
      | [] => return .givenUp pipe volume
      | step :: peer => pipe.letPeer volume step (writeWhenReady total peer rest)

/-- Writes all of `data`, waiting where the pipe takes no more. -/
def writeWaiting (pipe : Pipe) (volume : Volume) (data : Bytes) (peer : List PeerStep) :
    Transfer (Waited Nat) :=
  writeWhenReady data.length peer data pipe volume

end SectorStore.Pipe
