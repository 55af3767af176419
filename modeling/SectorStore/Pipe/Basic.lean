import SectorStore.OpenFile

/-!
# Pipes

A pipe is a queue of bytes of bounded length, kept as a ring in a file of its own. The ring has one
byte more than the pipe may hold, so that a full pipe and an empty one differ: `head` is the place
of the next byte to be read, `tail` that of the next byte to be written, and the pipe is empty where
the two agree. A transfer that reaches the end of the ring goes on at its start.

Reading and writing move as many bytes as they can and never wait.
-/

namespace SectorStore

/-- A pipe, with the file that keeps its bytes. -/
structure Pipe where
  /-- The name of the file. -/
  name : String
  /-- The file. -/
  file : OpenFile
  /-- The place of the next byte to be read. -/
  head : Nat
  /-- The place of the next byte to be written. -/
  tail : Nat
  /-- The number of places in the ring. -/
  ringSize : Nat
deriving DecidableEq, Repr

namespace Pipe

/-- The number of bytes that a pipe holds at most where no other size is asked for. -/
def defaultSize : Nat := sectorSize

/-- The name of the file of a pipe: the size of its ring and its number make it its own. -/
def fileName (ringSize number : Nat) : String :=
  s!"__pipe_{ringSize}_{number}__"

/-- Makes a pipe for `size` bytes. The number of the pipe to be made next comes back with the
answer: a pipe without room uses up no number, any other attempt uses up one, also where it is
refused. -/
def make (volume : Volume) (number size : Nat) :
    Transfer (Except Refusal (Pipe × Volume) × Nat) :=
  if size = 0 then
    return (.error .zeroSizedPipe, number)
  else do
    let ringSize ← checkedAdd size 1
    let name := fileName ringSize number
    let answer ← ExceptT.run do
      let volume ← volume.create name ringSize
      -- no zero byte is in the name, so the file is found and none is left without its pipe
      let file ← volume.open name
      return ({ name, file, head := 0, tail := 0, ringSize : Pipe }, volume)
    return (answer, number + 1)

/-- Removes the pipe's file; that it is gone already is no matter. -/
def drop (pipe : Pipe) (volume : Volume) : Transfer Volume := do
  match ← (volume.remove pipe.name).run with
  | .ok volume => return volume
  | .error _ => return volume

/-- The number of bytes in the pipe. -/
def count (pipe : Pipe) : Nat :=
  (pipe.tail + pipe.ringSize - pipe.head) % pipe.ringSize

/-- The largest number of bytes in the pipe. -/
def capacity (pipe : Pipe) : Nat :=
  pipe.ringSize - 1

/-- The number of bytes for which there is room. -/
def room (pipe : Pipe) : Nat :=
  pipe.capacity - pipe.count

/-- Whether there is no byte in the pipe. -/
def isEmpty (pipe : Pipe) : Bool :=
  pipe.count == 0

/-- Whether there is no room for a byte. -/
def isFull (pipe : Pipe) : Bool :=
  pipe.room == 0

/-- Reads into a buffer as many bytes as there are and fit. -/
def read (pipe : Pipe) (buffer : Bytes) : Transfer (Filling × Pipe) :=
  let count := min buffer.length pipe.count
  -- what lies between the head and the end of the ring comes first
  let first := min count (pipe.ringSize - pipe.head)
  if count = 0 then
    return (⟨0, buffer⟩, pipe)
  else do
    let front ← pipe.file.readBytes pipe.head first
    let back ← if first < count then pipe.file.readBytes 0 (count - first) else pure []
    let moved := front.length + back.length
    let buffer := (buffer.splice 0 front).splice first back
    return (⟨moved, buffer⟩, { pipe with head := (pipe.head + moved) % pipe.ringSize })

/-- Writes as many of the bytes `data` as there is room for, and tells how many that were. -/
def write (pipe : Pipe) (volume : Volume) (data : Bytes) : Transfer (Nat × Pipe × Volume) :=
  let count := min data.length pipe.room
  -- what fits between the tail and the end of the ring comes first
  let first := min count (pipe.ringSize - pipe.tail)
  if count = 0 then
    return (0, pipe, volume)
  else do
    let (front, volume) ← pipe.file.writeAt volume pipe.tail (data.take first)
    let (back, volume) ←
      if first < count then pipe.file.writeAt volume 0 (data.slice first (count - first))
      else pure (0, volume)
    let moved := front + back
    return (moved, { pipe with tail := (pipe.tail + moved) % pipe.ringSize }, volume)

/-- The bytes in a pipe and the bytes for which it has room make up what it can hold. -/
theorem count_add_room (pipe : Pipe) (h : 0 < pipe.ringSize) :
    pipe.count + pipe.room = pipe.capacity := by
  have : pipe.count < pipe.ringSize := Nat.mod_lt _ h
  simp only [room, capacity]
  omega

end Pipe

end SectorStore
