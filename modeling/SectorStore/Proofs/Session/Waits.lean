import SectorStore.Proofs.Pipe.Waits
import SectorStore.Proofs.Session.Queueing

/-!
# Waits last as long as needed

`PipeHistory.waits_as_needed` says what comes of a wait on a pipe of a session, in any state to
which the pipe may have come. The wait runs through, moment by moment as `Pipe.ReadsWaiting` and
`Pipe.WritesWaiting` tell, so that the peer's steps are run only while the pipe is empty, or full,
and each of them once. What was accepted meanwhile is what both sides put in, in the order in which
they did; and the pipe stays first in, first out, so that nothing of this is lost or comes twice.
-/

namespace SectorStore.Session

open Pipe (PeerStep ReadsWaiting WritesWaiting Placed Waited)

variable {δ : Type} [BlockDevice δ] {session : Session} {device device' : δ} {slot : Slot}
  {size numSectors : Nat} {received : Bytes} {queue : Queue} {pipe : Pipe} {volume : Volume}

/-- The session after a wait on the pipe in a slot. -/
def afterWait {α : Type} (session : Session) (slot : Slot) (pipe : Pipe) (waited : Waited α) :
    Session :=
  session.updatePipe slot ⟨0, pipe⟩ waited.pipe waited.volume

/-- What comes of a wait for something to read. -/
structure WaitsToRead (session : Session) (device : δ) (slot : Slot) (size : Nat)
    (received : Bytes) (queue : Queue) (pipe : Pipe) (volume : Volume) (buffer : Bytes)
    (peer : List PeerStep) (waited : Waited Filling) (device' : δ) : Prop where
  /-- The wait runs through and answers how it ended. -/
  run_eq : (session.perform (.readWaiting slot buffer peer)).run device =
    (.ok (.readWaited waited.answer waited.peer, session.afterWait slot pipe waited), device')
  /-- The peer takes steps while the pipe is empty, and then there is something to read. -/
  readsWaiting : ReadsWaiting buffer ⟨device, pipe, volume⟩ peer waited device'
  /-- No more steps are taken than there are. -/
  length_le : waited.peer.length ≤ peer.length
  /-- The wait ends with bytes, or with an empty pipe after all steps of the peer. -/
  answer_cases : (∃ filling, waited.answer = some filling ∧ 0 < filling.count) ∨
    waited.answer = none ∧ waited.peer.length = peer.length ∧ waited.pipe.isEmpty = true
  /-- What was accepted meanwhile is what the peer put in. -/
  accepted_eq : (queue.after (.readWaiting slot buffer peer)).accepted =
    queue.accepted ++ (List.zipWith PeerStep.accepted peer waited.peer).flatten
  /-- What the peer and then the wait have handed out came from the front. -/
  isFifo : (session.afterWait slot pipe waited).IsFifo device' slot size
    (received ++ (Answer.readWaited waited.answer waited.peer).received)
    (queue.after (.readWaiting slot buffer peer)) waited.pipe

/-- What comes of a wait to write. -/
structure WaitsToWrite (session : Session) (device : δ) (slot : Slot) (size : Nat)
    (received : Bytes) (queue : Queue) (pipe : Pipe) (volume : Volume) (data : Bytes)
    (peer : List PeerStep) (placed : List Placed) (waited : Waited Nat) (device' : δ) : Prop where
  /-- The wait runs through and answers how it ended. -/
  run_eq : (session.perform (.writeWaiting slot data peer)).run device =
    (.ok (.wroteWaited waited.answer waited.peer, session.afterWait slot pipe waited), device')
  /-- The peer takes steps while the pipe is full and bytes are left. -/
  writesWaiting : WritesWaiting data.length ⟨device, pipe, volume⟩ data peer placed waited device'
  /-- No more steps are taken than there are. -/
  length_le : waited.peer.length ≤ peer.length
  /-- A beginning of the data was accepted: all of it, or the wait was given up at a full pipe after
  all steps of the peer. -/
  answer_cases : ∃ left, placed.flatMap Placed.ownBytes ++ left = data ∧
    (left = [] ∧ waited.answer = some data.length ∨
      left ≠ [] ∧ waited.answer = none ∧ waited.peer.length = peer.length ∧
        waited.pipe.isFull = true)
  /-- The bytes of the peer are those that its steps put in, in their order. -/
  peerBytes_eq : placed.flatMap Placed.peerBytes =
    (List.zipWith PeerStep.accepted peer waited.peer).flatten
  /-- What was accepted meanwhile is what both sides put in, in the order in which they did. -/
  accepted_eq : (queue.after (.writeWaiting slot data peer)).accepted =
    queue.accepted ++ placed.flatMap Placed.bytes
  /-- What the peer has handed out came from the front, and the rest is in the pipe. -/
  isFifo : (session.afterWait slot pipe waited).IsFifo device' slot size
    (received ++ (Answer.wroteWaited waited.answer waited.peer).received)
    (queue.after (.writeWaiting slot data peer)) waited.pipe

namespace PipeHistory

variable [LawfulBlockDevice δ]

/-- The pipe that is found after a wait is the one that the wait has left. -/
theorem isFifo_afterWait {α : Type} {waited : Waited α}
    (h : PipeHistory numSectors slot size device (session.afterWait slot pipe waited) received
      queue) :
    (session.afterWait slot pipe waited).IsFifo device slot size received queue waited.pipe := by
  obtain ⟨volume, lost, i, pipe', hsound, hruns, hbooks, rfl⟩ := h.exists_runsQueue
  have hpipe := hruns.pipes_eq
  rw [afterWait, getElem?_pipes_updatePipe, Option.some.injEq, Attached.mk.injEq] at hpipe
  exact hpipe.2 ▸ hruns.isFifo hsound hbooks

/-- In any state of a pipe, a wait without room for a byte to read is over at once. Any other wait
to read has the peer's steps run while the pipe is empty, and hands out what there is and fits at
the first moment at which it is not; a wait to write has them run while the pipe is full, until all
bytes are accepted. A wait is given up only if it cannot go on and no step is left. -/
theorem waits_as_needed (h : PipeHistory numSectors slot size device session received queue) :
    ∃ pipe volume, session.pipeIn? slot = some (⟨0, pipe⟩, volume) ∧
      (∀ peer, (session.perform (.readWaiting slot [] peer)).run device =
        (.ok (.readWaited (some ⟨0, []⟩) [], session.updatePipe slot ⟨0, pipe⟩ pipe volume),
          device)) ∧
      (∀ buffer peer, buffer ≠ [] → ∃ waited device',
        session.WaitsToRead device slot size received queue pipe volume buffer peer waited
          device') ∧
      (∀ data peer, ∃ placed waited device',
        session.WaitsToWrite device slot size received queue pipe volume data peer placed waited
          device') := by
  obtain ⟨volume, lost, i, pipe, hsound, hruns, -, -⟩ := h.exists_runsQueue
  have hin := hruns.pipeIn?_eq
  have hbacks : (Pipe.Moment.mk device pipe volume).Backs numSectors lost i queue :=
    ⟨hsound.hasBlocks, hruns.backs⟩
  refine ⟨pipe, volume, hin, ?atOnce, ?read, ?write⟩
  case atOnce =>
    intro peer
    simp only [perform, onPipe, hin]
    rfl
  case read =>
    intro buffer peer hbuffer
    obtain ⟨waited, device', hwait, hreads, haccepted⟩ :=
      hbacks.exists_readWhenReady hbuffer peer
    have hempty : ¬ buffer.isEmpty = true := by rwa [List.isEmpty_iff]
    have hrun : (session.perform (.readWaiting slot buffer peer)).run device =
        (.ok (.readWaited waited.answer waited.peer, session.afterWait slot pipe waited),
          device') := by
      simp only [perform, onPipe, hin, Pipe.readWaiting, if_neg hempty, Transfer.run_bind, hwait]
      rfl
    -- a wait is a use of the pipe, so its history goes on
    have huses : (Request.readWaiting slot buffer peer).UsesPipe slot := rfl
    have hused := h.use huses hrun
    refine ⟨waited, device', hrun, hreads, hreads.length_le, hreads.answer_cases, ?_,
      hused.isFifo_afterWait⟩
    rw [← haccepted, Queue.after, Queue.readWaiting, if_neg hempty]
  case write =>
    intro data peer
    obtain ⟨waited, device', placed, hwait, hwrites, haccepted⟩ :=
      hbacks.exists_writeWhenReady data.length data peer
    have hrun : (session.perform (.writeWaiting slot data peer)).run device =
        (.ok (.wroteWaited waited.answer waited.peer, session.afterWait slot pipe waited),
          device') := by
      simp only [perform, onPipe, hin, Pipe.writeWaiting, Transfer.run_bind, hwait]
      rfl
    have huses : (Request.writeWaiting slot data peer).UsesPipe slot := rfl
    have hused := h.use huses hrun
    exact ⟨placed, waited, device', hrun, hwrites, hwrites.length_le, hwrites.answer_cases,
      hwrites.peerBytes_eq, haccepted, hused.isFifo_afterWait⟩

/-- Two bytes are written to a pipe for one byte, from which the peer reads, with a step left. -/
theorem waits_as_needed_of_one_byte :
    ∃ (session : Session) (device device' : RamDisk sectorSize) (pipe : Pipe) (volume : Volume)
        (placed : List Placed) (waited : Waited Nat),
      (start.performAll [.format 0 20, .makePipe 0 0 1]).run (RamDisk.zeroed 20 sectorSize) =
        (.ok ([.done, .text "__pipe_2_0__"], session), device) ∧
      session.WaitsToWrite device 0 1 [] (.empty 1) pipe volume [7, 8] [.read [0], .write [9]]
        placed waited device' ∧
      waited.answer = some 2 ∧ waited.peer = [.filled ⟨1, [7]⟩] := by
  have hanswers : answers? ((start.performAll [.format 0 20, .makePipe 0 0 1,
      .writeWaiting 0 [7, 8] [.read [0], .write [9]]]).run (RamDisk.zeroed 20 sectorSize)) =
        some [.done, .text "__pipe_2_0__", .wroteWaited (some 2) [.filled ⟨1, [7]⟩]] := by
    decide +kernel
  obtain ⟨session', device', hrun⟩ := exists_of_answers? hanswers
  obtain ⟨session₁, device₁, hformat, hrest⟩ := run_performAll_cons hrun
  obtain ⟨session₂, device₂, hmake, hrest⟩ := run_performAll_cons hrest
  obtain ⟨session₃, device₃, hwrite, -⟩ := run_performAll_cons hrest
  have hblocks : HasBlocks (RamDisk.zeroed 20 sectorSize) 20 := RamDisk.hasBlocks _
  have hmade := PipeHistory.made (Reachable.format hblocks hformat) hmake
  obtain ⟨pipe, volume, -, -, -, hwrites⟩ := waits_as_needed hmade
  obtain ⟨placed, waited, device₄, hwaits⟩ := hwrites [7, 8] [.read [0], .write [9]]
  have hsame := hwaits.run_eq
  rw [hwrite] at hsame
  simp only [Prod.mk.injEq, Except.ok.injEq, Answer.wroteWaited.injEq] at hsame
  obtain ⟨⟨⟨hanswer, hpeer⟩, -⟩, -⟩ := hsame
  refine ⟨session₂, device₂, device₄, pipe, volume, placed, waited, ?_, hwaits, hanswer.symm,
    hpeer.symm⟩
  simp only [performAll, Transfer.run_bind, hformat, hmake, Transfer.run_pure]

end PipeHistory

end SectorStore.Session
