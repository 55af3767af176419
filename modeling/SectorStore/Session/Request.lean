import SectorStore.Pipe.Waiting

/-!
# Requests

A session works on one disk through numbered slots: slots for mounted volumes, for open files and
for pipes. A `Request` is one thing to be done in a session, an `Answer` is what comes of it.
-/

namespace SectorStore

/-- The number of a slot. -/
abbrev Slot := Nat

/-- One thing to be done in a session. -/
inductive Request where
  /-- Lays out the disk and puts the new volume into a slot. -/
  | format (volume : Slot) (numSectors : Nat)
  /-- Takes up the disk and puts the volume into a slot. -/
  | mount (volume : Slot) (numSectors : Nat)
  /-- Empties a slot for volumes. -/
  | unmount (volume : Slot)
  /-- Gives a volume another clock. -/
  | setClock (volume : Slot) (clock : Clock)
  /-- Makes a file. -/
  | create (volume : Slot) (name : String) (size : Nat)
  /-- Removes a file. -/
  | remove (volume : Slot) (name : String)
  /-- Names the files. -/
  | names (volume : Slot)
  /-- Lists the volume. -/
  | listing (volume : Slot)
  /-- Opens a file and puts it into a slot. -/
  | openFile (volume file : Slot) (name : String)
  /-- Reads from an offset on. -/
  | readAt (file : Slot) (offset : Nat) (buffer : Bytes)
  /-- Reads from the position on. -/
  | read (file : Slot) (buffer : Bytes)
  /-- Writes from an offset on. -/
  | writeAt (file : Slot) (offset : Nat) (data : Bytes)
  /-- Writes from the position on. -/
  | write (file : Slot) (data : Bytes)
  /-- Moves the position. -/
  | seek (file : Slot) (position : Nat)
  /-- Empties a slot for files. -/
  | close (file : Slot)
  /-- Tells the length of a file. -/
  | length (file : Slot)
  /-- Tells the sector of the header of a file. -/
  | headerSector (file : Slot)
  /-- Tells the header of a file. -/
  | header (file : Slot)
  /-- Makes a pipe and puts it into a slot; a pipe that was in it is dropped afterwards. -/
  | makePipe (volume pipe : Slot) (size : Nat)
  /-- Takes a step on a pipe. -/
  | stepPipe (pipe : Slot) (step : Pipe.PeerStep)
  /-- Waits until a pipe has something to read, and reads it. -/
  | readWaiting (pipe : Slot) (buffer : Bytes) (peer : List Pipe.PeerStep)
  /-- Writes to a pipe, waiting until it has taken everything. -/
  | writeWaiting (pipe : Slot) (data : Bytes) (peer : List Pipe.PeerStep)
  /-- Drops a pipe. -/
  | dropPipe (pipe : Slot)

/-- What comes of a request. -/
inductive Answer where
  /-- It was done. -/
  | done
  /-- It was turned down. -/
  | refused (cause : Refusal)
  /-- The slot for a file or a pipe is empty. -/
  | noHandle
  /-- The slot for a volume is empty. -/
  | noVolume
  /-- A number. -/
  | count (n : Nat)
  /-- A text. -/
  | text (text : String)
  /-- A list of names. -/
  | names (names : List String)
  /-- The outcome of a read. -/
  | filled (filling : Filling)
  /-- A header. -/
  | header (header : FileHeader)
  /-- The answer to a step on a pipe. -/
  | stepped (answer : Pipe.PeerAnswer)
  /-- The outcome of a wait for something to read, and what the peer did meanwhile. -/
  | readWaited (filling : Option Filling) (peer : List Pipe.PeerAnswer)
  /-- The outcome of a wait to write, and what the peer did meanwhile. -/
  | wroteWaited (count : Option Nat) (peer : List Pipe.PeerAnswer)
deriving DecidableEq

end SectorStore
