import SectorStore.Pipe.Waiting

/-!
# Queues of bytes

What a pipe does, told without a ring and a file: a queue takes bytes at its end as long as there is
room, and gives them back at its front. It keeps a record of all bytes that it ever accepted and
returned; in a queue whose books are in order these differ by the bytes in the queue
(`Queue.Books`), and every step keeps them so.
-/

namespace SectorStore

/-- The bytes that were transferred to a buffer. -/
def Filling.moved (filling : Filling) : Bytes :=
  filling.buffer.take filling.count

/-- What was moved to the front of a buffer are the bytes put there. -/
theorem Filling.moved_front (buffer bytes : Bytes) : (front buffer bytes).moved = bytes := by
  simp [moved, front, Bytes.splice]

/-- A queue of bounded length, with a record of its traffic. -/
structure Queue where
  /-- The largest number of bytes in the queue. -/
  capacity : Nat
  /-- The bytes in the queue, oldest first. -/
  bytes : Bytes
  /-- All bytes accepted so far, in the order in which they were. -/
  accepted : Bytes
  /-- All bytes returned so far, in the order in which they were. -/
  returned : Bytes

namespace Queue

open Pipe (PeerStep)

/-- The queue in which nothing ever was. -/
def empty (capacity : Nat) : Queue where
  capacity
  bytes := []
  accepted := []
  returned := []

/-- The number of bytes for which there is room. -/
def room (queue : Queue) : Nat :=
  queue.capacity - queue.bytes.length

/-- Returns as many bytes as there are and fit into a buffer. -/
def read (queue : Queue) (buffer : Bytes) : Filling × Queue :=
  let moved := queue.bytes.take buffer.length
  (.front buffer moved, { queue with
    bytes := queue.bytes.drop buffer.length
    returned := queue.returned ++ moved })

/-- Accepts as many bytes as there is room for. -/
def write (queue : Queue) (data : Bytes) : Nat × Queue :=
  let moved := data.take queue.room
  (moved.length, { queue with
    bytes := queue.bytes ++ moved
    accepted := queue.accepted ++ moved })

/-- What a step on a queue answers. -/
inductive Answer where
  /-- The outcome of a read. -/
  | filled (filling : Filling)
  /-- The number of bytes written. -/
  | wrote (count : Nat)
  /-- The number of bytes in the queue, and how many there can be. -/
  | state (count capacity : Nat)
deriving DecidableEq

/-- The bytes that an answer hands out. -/
def Answer.received : Answer → Bytes
  | .filled filling => filling.moved
  | _ => []

/-- Takes one step on a queue. -/
def step (queue : Queue) : PeerStep → Answer × Queue
  | .read buffer => (.filled (queue.read buffer).1, (queue.read buffer).2)
  | .write data => (.wrote (queue.write data).1, (queue.write data).2)
  | .inspect => (.state queue.bytes.length queue.capacity, queue)

/-- The end of a wait. -/
structure Waited (α : Type) where
  /-- The answer that was waited for; `none` if the wait was given up. -/
  answer : Option α
  /-- The answers of the steps that the peer took, in order. -/
  peer : List Answer
  /-- The queue afterwards. -/
  queue : Queue

/-- Lets the peer take a step, and goes on waiting. -/
def letPeer {α : Type} (queue : Queue) (step : PeerStep) (next : Queue → Waited α) : Waited α :=
  let waited := next (queue.step step).2
  { waited with peer := (queue.step step).1 :: waited.peer }

/-- Tries to read until there is something to read. -/
def readWhenReady (buffer : Bytes) : (peer : List PeerStep) → Queue → Waited Filling
  | peer, queue =>
    if 0 < (queue.read buffer).1.count then
      ⟨some (queue.read buffer).1, [], (queue.read buffer).2⟩
    else match peer with
      | [] => ⟨none, [], (queue.read buffer).2⟩
      | step :: peer => (queue.read buffer).2.letPeer step (readWhenReady buffer peer)

/-- Waits until there is something to read. A buffer of no bytes is not waited for. -/
def readWaiting (queue : Queue) (buffer : Bytes) (peer : List PeerStep) : Waited Filling :=
  if buffer.isEmpty then ⟨some ⟨0, buffer⟩, [], queue⟩ else readWhenReady buffer peer queue

/-- Writes all of `data`, of which `total` bytes were to be written at first. -/
def writeWhenReady (total : Nat) : (peer : List PeerStep) → (data : Bytes) → Queue → Waited Nat
  | peer, data, queue =>
    if (data.drop (queue.write data).1).isEmpty then ⟨some total, [], (queue.write data).2⟩
    else match peer with
      | [] => ⟨none, [], (queue.write data).2⟩
      | step :: peer => (queue.write data).2.letPeer step
          (writeWhenReady total peer (data.drop (queue.write data).1))

/-- Writes all of `data`, waiting where the queue takes no more. -/
def writeWaiting (queue : Queue) (data : Bytes) (peer : List PeerStep) : Waited Nat :=
  writeWhenReady data.length peer data queue

/-- Of the bytes that were left over, none is accepted. -/
theorem write_drop (queue : Queue) (data : Bytes) :
    (queue.write data).2.write (data.drop (queue.write data).1) = (0, (queue.write data).2) := by
  have hnone : (data.drop (data.take queue.room).length).take
      (queue.capacity - (queue.bytes ++ data.take queue.room).length) = [] := by
    rw [← List.length_eq_zero_iff]
    simp only [List.length_take, List.length_drop, List.length_append, room]
    omega
  simp only [write, room] at hnone ⊢
  rw [hnone]
  simp

theorem write_nil (queue : Queue) : queue.write [] = (0, queue) := by
  simp [write]

/-! ## What is returned -/

/-- What a read gives is added to what was returned. -/
theorem returned_read (queue : Queue) (buffer : Bytes) :
    (queue.read buffer).2.returned = queue.returned ++ (queue.read buffer).1.moved := by
  rw [read, Filling.moved_front]

/-- What another party receives is added to what was returned. -/
theorem returned_step (queue : Queue) (step : PeerStep) :
    (queue.step step).2.returned = queue.returned ++ (queue.step step).1.received := by
  cases step with
  | read buffer => exact queue.returned_read buffer
  | write data => exact (List.append_nil _).symm
  | inspect => exact (List.append_nil _).symm

/-- A read that moves nothing leaves the queue as it was. -/
theorem read_of_count_eq_zero {queue : Queue} {buffer : Bytes}
    (h : (queue.read buffer).1.count = 0) : (queue.read buffer).2.returned = queue.returned := by
  have hnone : queue.bytes.take buffer.length = [] := List.length_eq_zero_iff.1 h
  rw [read, hnone, List.append_nil]

/-- The bytes that a wait for something to read hands out, those of the peer first. -/
def Waited.received (waited : Waited Filling) : Bytes :=
  waited.peer.flatMap Answer.received ++ (waited.answer.map Filling.moved).getD []

/-- What a waiting reader and the others receive is added to what was returned. -/
theorem returned_readWhenReady (queue : Queue) (buffer : Bytes) (peer : List PeerStep) :
    (queue.readWhenReady buffer peer).queue.returned =
      queue.returned ++ (queue.readWhenReady buffer peer).received := by
  induction peer generalizing queue with
  | nil =>
    rw [readWhenReady]
    split
    · exact queue.returned_read buffer
    · next hnone =>
      have hsame := read_of_count_eq_zero (Nat.eq_zero_of_not_pos hnone)
      exact hsame.trans (List.append_nil _).symm
  | cons step peer ih =>
    rw [readWhenReady]
    split
    · exact queue.returned_read buffer
    · next hnone =>
      refine (ih _).trans ?_
      rw [returned_step, read_of_count_eq_zero (Nat.eq_zero_of_not_pos hnone)]
      simp [letPeer, Waited.received]

/-- What a reader and the others receive is added to what was returned. -/
theorem returned_readWaiting (queue : Queue) (buffer : Bytes) (peer : List PeerStep) :
    (queue.readWaiting buffer peer).queue.returned =
      queue.returned ++ (queue.readWaiting buffer peer).received := by
  rw [readWaiting]
  split
  · simp [Waited.received, Filling.moved]
  · exact queue.returned_readWhenReady buffer peer

/-- While a writer waits, what the others receive is added to what was returned. -/
theorem returned_writeWhenReady (queue : Queue) (total : Nat) (peer : List PeerStep)
    (data : Bytes) : (queue.writeWhenReady total peer data).queue.returned =
      queue.returned ++ (queue.writeWhenReady total peer data).peer.flatMap Answer.received := by
  induction peer generalizing queue data with
  | nil =>
    rw [writeWhenReady]
    split
    · exact (List.append_nil _).symm
    · exact (List.append_nil _).symm
  | cons step peer ih =>
    rw [writeWhenReady]
    split
    · exact (List.append_nil _).symm
    · refine (ih _ _).trans ?_
      rw [returned_step]
      simp [letPeer, write]

/-- While a writer is at work, what the others receive is added to what was returned. -/
theorem returned_writeWaiting (queue : Queue) (data : Bytes) (peer : List PeerStep) :
    (queue.writeWaiting data peer).queue.returned =
      queue.returned ++ (queue.writeWaiting data peer).peer.flatMap Answer.received :=
  queue.returned_writeWhenReady _ peer data

/-! ## Books -/

/-- The books of a queue for `size` bytes are in order: it is not overfull, and what was accepted is
what was returned, followed by what is in the queue. -/
structure Books (queue : Queue) (size : Nat) : Prop where
  /-- The queue is for `size` bytes. -/
  capacity_eq : queue.capacity = size
  /-- There are no more bytes than there can be. -/
  length_le : queue.bytes.length ≤ size
  /-- No byte is lost, made up or moved before another. -/
  returned_append : queue.returned ++ queue.bytes = queue.accepted

variable {queue : Queue} {size : Nat}

/-- The books of a queue without bytes are in order. -/
theorem books_empty (size : Nat) : (empty size).Books size :=
  ⟨rfl, Nat.zero_le _, rfl⟩

namespace Books

/-- What was returned is in front of what was accepted. -/
theorem returned_isPrefix (h : queue.Books size) : queue.returned <+: queue.accepted :=
  ⟨queue.bytes, h.returned_append⟩

/-- A read keeps the books in order. -/
theorem read (h : queue.Books size) (buffer : Bytes) : (queue.read buffer).2.Books size where
  capacity_eq := h.capacity_eq
  length_le := by
    show (queue.bytes.drop buffer.length).length ≤ size
    rw [List.length_drop]
    exact Nat.le_trans (Nat.sub_le _ _) h.length_le
  returned_append := by
    show (queue.returned ++ queue.bytes.take _) ++ queue.bytes.drop _ = queue.accepted
    rw [List.append_assoc, List.take_append_drop, h.returned_append]

/-- A write keeps the books in order. -/
theorem write (h : queue.Books size) (data : Bytes) : (queue.write data).2.Books size where
  capacity_eq := h.capacity_eq
  length_le := by
    have hle := h.length_le
    show (queue.bytes ++ data.take queue.room).length ≤ size
    rw [List.length_append, List.length_take, room, h.capacity_eq]
    omega
  returned_append := by
    show queue.returned ++ (queue.bytes ++ data.take _) = queue.accepted ++ data.take _
    rw [← List.append_assoc, h.returned_append]

/-- What another party does keeps the books in order. -/
theorem step (h : queue.Books size) (step : PeerStep) : (queue.step step).2.Books size := by
  cases step with
  | read buffer => exact h.read buffer
  | write data => exact h.write data
  | inspect => exact h

theorem readWhenReady (h : queue.Books size) (buffer : Bytes) (peer : List PeerStep) :
    (queue.readWhenReady buffer peer).queue.Books size := by
  induction peer generalizing queue with
  | nil =>
    rw [Queue.readWhenReady]
    split
    · exact h.read buffer
    · exact h.read buffer
  | cons step peer ih =>
    rw [Queue.readWhenReady]
    split
    · exact h.read buffer
    · exact ih ((h.read buffer).step step)

/-- A read that may wait keeps the books in order. -/
theorem readWaiting (h : queue.Books size) (buffer : Bytes) (peer : List PeerStep) :
    (queue.readWaiting buffer peer).queue.Books size := by
  rw [Queue.readWaiting]
  split
  · exact h
  · exact h.readWhenReady buffer peer

theorem writeWhenReady (h : queue.Books size) (total : Nat) (peer : List PeerStep)
    (data : Bytes) : (queue.writeWhenReady total peer data).queue.Books size := by
  induction peer generalizing queue data with
  | nil =>
    rw [Queue.writeWhenReady]
    split
    · exact h.write data
    · exact h.write data
  | cons step peer ih =>
    rw [Queue.writeWhenReady]
    split
    · exact h.write data
    · exact ih ((h.write data).step step) _

/-- A write that may wait keeps the books in order. -/
theorem writeWaiting (h : queue.Books size) (data : Bytes) (peer : List PeerStep) :
    (queue.writeWaiting data peer).queue.Books size :=
  h.writeWhenReady _ peer data

end Books

end Queue

end SectorStore
