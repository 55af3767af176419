import SectorStore.Proofs.Pipe.Backs
import SectorStore.Proofs.Session.Reachable

/-!
# Pipes of a session are queues

`PipeHistory` follows a pipe from its making on: through reads, writes and waits on it, and through
any requests that are about other files and pipes (`Spares`). It collects all bytes that the pipe
has handed out, and keeps a `Queue` for which the same has been done. Whatever the order of all
this, the pipe runs as the queue does (`PipeHistory.exists_runsQueue`), and so it hands out the
bytes that it accepted, in that order.
-/

namespace SectorStore

/-- The bytes of pipes that an answer hands out. -/
def Answer.received : Answer → Bytes
  | .stepped answer => answer.view.received
  | .readWaited filling peer =>
    (peer.map Pipe.PeerAnswer.view).flatMap Queue.Answer.received ++
      (filling.map Filling.moved).getD []
  | .wroteWaited _ peer => (peer.map Pipe.PeerAnswer.view).flatMap Queue.Answer.received
  | _ => []

/-- The queue after what a request does to a pipe. -/
def Queue.after (queue : Queue) : Request → Queue
  | .stepPipe _ step => (queue.step step).2
  | .readWaiting _ buffer peer => (queue.readWaiting buffer peer).queue
  | .writeWaiting _ data peer => (queue.writeWaiting data peer).queue
  | _ => queue

/-- The answer to a request on a pipe is what a queue would answer. -/
def Queue.Expects (queue : Queue) : Request → SectorStore.Answer → Prop
  | .stepPipe _ step, .stepped answer => answer.view = (queue.step step).1
  | .readWaiting _ buffer peer, .readWaited filling answers =>
    filling = (queue.readWaiting buffer peer).answer ∧
      answers.map Pipe.PeerAnswer.view = (queue.readWaiting buffer peer).peer
  | .writeWaiting _ data peer, .wroteWaited count answers =>
    count = (queue.writeWaiting data peer).answer ∧
      answers.map Pipe.PeerAnswer.view = (queue.writeWaiting data peer).peer
  | _, _ => False

namespace Queue

variable {queue : Queue} {request : Request} {answer : SectorStore.Answer}

theorem Books.after {size : Nat} (h : queue.Books size) (request : Request) :
    (queue.after request).Books size := by
  cases request with
  | stepPipe other step => exact h.step step
  | readWaiting other buffer peer => exact h.readWaiting buffer peer
  | writeWaiting other data peer => exact h.writeWaiting data peer
  | _ => exact h

/-- What an expected answer hands out is what the queue returns. -/
theorem Expects.returned_after (h : queue.Expects request answer) :
    (queue.after request).returned = queue.returned ++ answer.received := by
  cases request with
  | stepPipe other step =>
    cases answer with
    | stepped answer =>
      have hanswer : answer.view = (queue.step step).1 := h
      exact (queue.returned_step step).trans (by rw [SectorStore.Answer.received, hanswer])
    | _ => exact h.elim
  | readWaiting other buffer peer =>
    cases answer with
    | readWaited filling answers =>
      obtain ⟨hfilling, hpeer⟩ := h
      exact (queue.returned_readWaiting buffer peer).trans
        (by rw [SectorStore.Answer.received, hfilling, hpeer, Waited.received])
    | _ => exact h.elim
  | writeWaiting other data peer =>
    cases answer with
    | wroteWaited count answers =>
      obtain ⟨-, hpeer⟩ := h
      exact (queue.returned_writeWaiting data peer).trans
        (by rw [SectorStore.Answer.received, hpeer])
    | _ => exact h.elim
  | _ => exact h.elim

/-- The expected answer to a step. -/
theorem Expects.exists_stepped {slot : Slot} {step : Pipe.PeerStep}
    (h : queue.Expects (.stepPipe slot step) answer) :
    ∃ reply, answer = .stepped reply ∧ reply.view = (queue.step step).1 := by
  cases answer with
  | stepped reply => exact ⟨reply, rfl, h⟩
  | _ => exact h.elim

end Queue

namespace Pipe.PeerAnswer

variable {reply : PeerAnswer}

theorem eq_filled_of_view {filling : Filling} (h : reply.view = .filled filling) :
    reply = .filled filling := by
  cases reply with
  | filled filling' =>
    rw [view, Queue.Answer.filled.injEq] at h
    rw [h]
  | _ => cases h

theorem eq_wrote_of_view {count : Nat} (h : reply.view = .wrote count) : reply = .wrote count := by
  cases reply with
  | wrote count' =>
    rw [view, Queue.Answer.wrote.injEq] at h
    rw [h]
  | _ => cases h

end Pipe.PeerAnswer

namespace Session

/-- The request is not about the pipe in a slot: it does not take it out of its slot or read or
write it, and neither removes nor writes its file. -/
def Spares (session : Session) (slot : Slot) (pipe : Pipe) : Request → Prop
  | .remove _ name => name ≠ pipe.name
  | .writeAt fileSlot .. | .write fileSlot _ =>
    ∀ file volume, session.fileIn? fileSlot = some (file, volume) →
      file.item.headerSector ≠ pipe.file.headerSector
  | request => request.pipeSlot? ≠ some slot

/-- The pipe in a slot does what a queue does, and the file in entry `i` is its own. -/
structure RunsQueue (session : Session) (volume : Volume) (disk : Disk) (lost : List SectorId)
    (slot : Slot) (i : Fin numEntries) (pipe : Pipe) (queue : Queue) : Prop where
  /-- There is one volume. -/
  volumes_eq : session.volumes = #[volume]
  /-- The pipe is in the slot. -/
  pipes_eq : session.pipes[slot]? = some ⟨0, pipe⟩
  /-- The file has the name of the pipe. -/
  name_eq : (volume.directory.entry i).name = pipe.name
  /-- The file holds the bytes of the queue. -/
  backs : pipe.Backs volume disk lost i queue

variable {session session' : Session} {volume volume' : Volume} {disk disk' : Disk}
  {lost lost' : List SectorId} {slot : Slot} {i : Fin numEntries} {pipe pipe' : Pipe}
  {queue queue' : Queue} {request : Request} {size : Nat}

/-- A new pipe is an empty queue. -/
theorem HasNewPipe.runsQueue (h : session.HasNewPipe volume disk slot size i pipe)
    (hsound : session.Sound volume disk lost)
    (hrings : session.AllHave (fun _ => True) Pipe.InRing) :
    session.RunsQueue volume disk lost slot i pipe (.empty size) where
  volumes_eq := hsound.volumes_eq
  pipes_eq := h.pipes_eq
  name_eq := h.name_eq
  backs := by
    have hpipe := h.pipe_eq
    have hin : pipe.InRing := hrings.pipe slot _ h.pipes_eq
    refine ⟨⟨hsound.intact, h.lists, hin⟩, ⟨_, h.contents?_eq, ?_⟩, by rw [hpipe]; rfl⟩
    apply Pipe.Holds.empty
    · rw [hpipe]
    · rw [hpipe]
    · rw [hpipe]
      exact Nat.succ_pos size
    · rw [hpipe, List.length_replicate]

namespace RunsQueue

theorem pipeIn?_eq (h : session.RunsQueue volume disk lost slot i pipe queue) :
    session.pipeIn? slot = some (⟨0, pipe⟩, volume) :=
  pipeIn?_of_eq h.volumes_eq h.pipes_eq

/-- The pipe is good for use. -/
theorem pipeIsListed (h : session.RunsQueue volume disk lost slot i pipe queue) :
    session.PipeIsListed slot := by
  intro attached volume₁ hin
  rw [h.pipeIn?_eq] at hin
  simp only [Option.some.injEq, Prod.mk.injEq] at hin
  obtain ⟨rfl, rfl⟩ := hin
  exact ⟨i, h.backs.onFile.lists, h.name_eq⟩

theorem permits (h : session.RunsQueue volume disk lost slot i pipe queue)
    (huses : request.UsesPipe slot) (allowed : String → Prop) :
    session.Permits allowed request := by
  cases request with
  | stepPipe other step =>
    obtain rfl : other = slot := huses
    exact h.pipeIsListed
  | readWaiting other buffer peer =>
    obtain rfl : other = slot := huses
    exact h.pipeIsListed
  | writeWaiting other data peer =>
    obtain rfl : other = slot := huses
    exact h.pipeIsListed
  | _ => exact huses.elim

/-- A pipe that has moved on does what the queue does that has moved on. -/
theorem updatePipe {handed : Nat} (h : session.RunsQueue volume disk lost slot i pipe queue)
    (hmoved : pipe.Moved volume disk lost i handed pipe' volume' disk')
    (hbacks : pipe'.Backs volume' disk' lost i queue') :
    (session.updatePipe slot ⟨0, pipe⟩ pipe' volume').RunsQueue volume' disk' lost slot i pipe'
      queue' where
  volumes_eq := volumes_updatePipe h.volumes_eq rfl slot pipe' volume'
  pipes_eq := getElem?_pipes_updatePipe session slot ⟨0, pipe⟩ pipe' volume'
  name_eq := by
    rw [hmoved.changesOnly.directory_eq, hmoved.continues.name_eq]
    exact h.name_eq
  backs := hbacks

/-- A request on the pipe is answered as the queue would, and the pipe goes on as the queue does. -/
theorem yields_use (h : session.RunsQueue volume disk lost slot i pipe queue)
    (huses : request.UsesPipe slot) :
    (session.perform request).Yields disk fun answer disk' =>
      queue.Expects request answer.1 ∧ ∃ volume' pipe',
        answer.2.RunsQueue volume' disk' lost slot i pipe' (queue.after request) := by
  have honPipe : ∀ act, session.onPipe slot act = act ⟨0, pipe⟩ volume := by
    intro act
    rw [onPipe, h.pipeIn?_eq]
  cases request with
  | stepPipe other step =>
    obtain rfl : other = slot := huses
    rw [perform, honPipe]
    -- what the queue foretells, together with what the pipe does to its volume
    refine ((h.backs.yields_step step).and (h.backs.onFile.yields_step step)).bind ?_
    rintro ⟨answer, pipe', volume'⟩ disk' ⟨⟨hanswer, hbacks⟩, hmoved⟩
    exact Transfer.yields_pure.2 ⟨hanswer, volume', pipe', h.updatePipe hmoved hbacks⟩
  | readWaiting other buffer peer =>
    obtain rfl : other = slot := huses
    rw [perform, honPipe]
    refine ((h.backs.yields_readWaiting buffer peer).and
      (h.backs.onFile.yields_readWaiting buffer peer)).bind ?_
    rintro waited disk' ⟨hmatches, hmoved⟩
    exact Transfer.yields_pure.2 ⟨⟨hmatches.answer_eq, hmatches.peer_eq⟩, waited.volume,
      waited.pipe, h.updatePipe hmoved hmatches.backs⟩
  | writeWaiting other data peer =>
    obtain rfl : other = slot := huses
    rw [perform, honPipe]
    refine ((h.backs.yields_writeWaiting data peer).and
      (h.backs.onFile.yields_writeWaiting data peer)).bind ?_
    rintro waited disk' ⟨hmatches, hmoved⟩
    exact Transfer.yields_pure.2 ⟨⟨hmatches.answer_eq, hmatches.peer_eq⟩, waited.volume,
      waited.pipe, h.updatePipe hmoved hmatches.backs⟩
  | _ => exact huses.elim

/-- A request that spares the pipe does not remove its file. -/
theorem not_removes (h : session.RunsQueue volume disk lost slot i pipe queue)
    (hnumbered : session.Numbered) (hspares : session.Spares slot pipe request) :
    ¬ session.Removes request (volume.directory.entry i) := by
  have hname : ∀ {name : String}, (volume.directory.entry i).isFor name = true →
      name = pipe.name := by
    intro name hfor
    exact (DirEntry.isFor_iff.1 hfor).2.symm.trans h.name_eq
  have hother : ∀ {other : Slot}, some other ≠ some slot →
      ¬ ∃ p, session.pipes[other]? = some p ∧
        (volume.directory.entry i).isFor p.item.name = true := by
    rintro other hne ⟨p, hp, hfor⟩
    exact hne (congrArg some (hnumbered.slot_eq other slot p ⟨0, pipe⟩ hp h.pipes_eq (hname hfor)))
  cases request with
  | remove other name => exact fun hfor => hspares (hname hfor)
  | makePipe other pipeSlot size => exact hother hspares
  | dropPipe other => exact hother hspares
  | _ => exact id

/-- A request that spares the pipe does not write its file. -/
theorem not_writes (h : session.RunsQueue volume disk lost slot i pipe queue)
    (hsound : session.Sound volume disk lost) (hnumbered : session.Numbered)
    {allowed : String → Prop} (hpermits : session.Permits allowed request)
    (hspares : session.Spares slot pipe request) :
    ¬ session.Writes request (volume.directory.entry i) := by
  have hlists := h.backs.onFile.lists
  -- a pipe on the same file has the same name, and so it is the same pipe
  have hother : ∀ {other : Slot}, some other ≠ some slot → session.PipeIsListed other →
      ¬ ∃ p v, session.pipeIn? other = some (p, v) ∧
        (volume.directory.entry i).header = p.item.file.headerSector := by
    rintro other hne hlisted ⟨p, v, hin, hsector⟩
    rcases hp : session.pipes[other]? with _ | p₁
    · simp [pipeIn?, hp] at hin
    rw [hsound.pipeIn?_eq hp] at hin
    split_ifs at hin with hzero
    simp only [Option.some.injEq, Prod.mk.injEq] at hin
    obtain ⟨rfl, rfl⟩ := hin
    obtain ⟨j, hlists', hname⟩ := hsound.pipeIsListed_iff.1 hlisted p₁ hp hzero
    obtain rfl := hsound.intact.entry_inj hlists.1 hlists'.1 (hsector.trans hlists'.2.symm)
    have hsame : p₁.item.name = pipe.name := hname.symm.trans h.name_eq
    exact hne (congrArg some (hnumbered.slot_eq other slot p₁ ⟨0, pipe⟩ hp h.pipes_eq hsame))
  cases request with
  | writeAt fileSlot offset data =>
    rintro ⟨file, v, hin, hsector⟩
    exact hspares file v hin (hsector.symm.trans hlists.2)
  | write fileSlot data =>
    rintro ⟨file, v, hin, hsector⟩
    exact hspares file v hin (hsector.symm.trans hlists.2)
  | stepPipe other step => exact hother hspares hpermits
  | readWaiting other buffer peer => exact hother hspares hpermits
  | writeWaiting other data peer => exact hother hspares hpermits
  | _ => exact id

/-- A request that spares the pipe leaves it and its file as they are. -/
theorem of_advanced (h : session.RunsQueue volume disk lost slot i pipe queue)
    (hsound : session.Sound volume disk lost) (hnumbered : session.Numbered)
    {allowed : String → Prop} (hpermits : session.Permits allowed request)
    (hspares : session.Spares slot pipe request)
    (hadvanced : session.Advanced volume disk lost request session' volume' disk' lost') :
    session'.RunsQueue volume' disk' lost' slot i pipe queue := by
  have hlists := h.backs.onFile.lists
  have hkept := h.not_removes hnumbered hspares
  have hunwritten := h.not_writes hsound hnumbered hpermits hspares
  have hslot : request.pipeSlot? ≠ some slot := by
    cases request <;> first | exact hspares | exact nofun
  obtain ⟨ring, hring, hholds⟩ := h.backs.exists_ring
  refine ⟨hadvanced.volumes_eq, ?_, ?_, ?_, ⟨ring, ?_, hholds⟩, h.backs.ringSize_eq⟩
  · rw [hadvanced.pipes_eq slot hslot, h.pipes_eq]
  · rw [hadvanced.evolves.entry_eq i hlists.1 hkept, h.name_eq]
  · exact ⟨hadvanced.evolves.intact, hadvanced.evolves.lists hlists hkept, h.backs.onFile.inRing⟩
  · rw [hadvanced.evolves.contents?_eq i hlists.1 hkept hunwritten, hring]

end RunsQueue

/-! ## Histories of a pipe -/

section History

variable {δ : Type} [BlockDevice δ]

/-- A device and a session with a pipe for `size` bytes in a slot, all bytes that the pipe has
handed out since it was made, and the queue that has done the same. -/
inductive PipeHistory (numSectors : Nat) (slot : Slot) (size : Nat) :
    δ → Session → Bytes → Queue → Prop
  /-- The pipe was made just now. -/
  | made {device device' : δ} {session session' : Session} {volumeSlot : Slot} {name : String}
      (h : Reachable (fun _ => True) numSectors device session)
      (hrun : (session.perform (.makePipe volumeSlot slot size)).run device =
        (.ok (.text name, session'), device')) :
      PipeHistory numSectors slot size device' session' [] (.empty size)
  /-- The pipe was read, written or looked at, perhaps after a wait, perhaps after one given up. -/
  | use {device device' : δ} {session session' : Session} {received : Bytes} {queue : Queue}
      {request : Request} {answer : Answer}
      (h : PipeHistory numSectors slot size device session received queue)
      (huses : request.UsesPipe slot)
      (hrun : (session.perform request).run device = (.ok (answer, session'), device')) :
      PipeHistory numSectors slot size device' session' (received ++ answer.received)
        (queue.after request)
  /-- Something else was done. -/
  | other {device device' : δ} {session session' : Session} {received : Bytes} {queue : Queue}
      {request : Request} {answer : Answer} {pipe : Attached Pipe}
      (h : PipeHistory numSectors slot size device session received queue)
      (hpipe : session.pipes[slot]? = some pipe)
      (hpermits : session.Permits (fun _ => True) request)
      (hspares : session.Spares slot pipe.item request)
      (hrun : (session.perform request).run device = (.ok (answer, session'), device')) :
      PipeHistory numSectors slot size device' session' received queue

variable [LawfulBlockDevice δ] {numSectors : Nat} {device : δ} {received : Bytes}

namespace PipeHistory

/-- The invariant of histories: the pipe does what the queue does, the books of the queue are in
order, and it has returned what the pipe has handed out. -/
theorem exists_runsQueue (h : PipeHistory numSectors slot size device session received queue) :
    ∃ volume lost i pipe, session.SoundOn device numSectors volume lost ∧
      session.RunsQueue volume (Disk.image device numSectors) lost slot i pipe queue ∧
      queue.Books size ∧ received = queue.returned := by
  induction h with
  -- the pipe is new, so that it begins as the empty queue
  | @made _ _ session _ volumeSlot _ h hrun =>
    obtain ⟨volume, lost, hsound, -⟩ := h.exists_soundOn
    have hpermits : session.Permits (fun _ => True) (.makePipe volumeSlot slot size) := trivial
    obtain ⟨volume', lost', -, hsound'⟩ := hsound.exists_advanced hpermits hrun
    obtain ⟨-, -, hnew, -⟩ :=
      (hsound.sound.yields_makePipe (sumsFit_of_run hrun)).of_run hsound.hasBlocks hrun
    obtain ⟨volume₁, i, pipe, hvolumes, hpipe⟩ := hnew _ rfl hsound.numbered
    obtain rfl := eq_of_volumes_eq hsound'.sound.volumes_eq hvolumes
    exact ⟨volume', lost', i, pipe, hsound', hpipe.runsQueue hsound'.sound hsound'.rings,
      Queue.books_empty size, rfl⟩
  | use _ huses hrun ih =>
    obtain ⟨volume, lost, i, pipe, hsound, hruns, hbooks, rfl⟩ := ih
    have hpermits := hruns.permits huses fun _ => True
    obtain ⟨volume', lost', hadvanced, hsound'⟩ := hsound.exists_advanced hpermits hrun
    obtain ⟨-, hexpects, volume₁, pipe', hruns'⟩ :=
      (hruns.yields_use huses).of_run hsound.hasBlocks hrun
    obtain rfl := eq_of_volumes_eq hsound'.sound.volumes_eq hruns'.volumes_eq
    rw [hadvanced.lost_eq huses.isPlain] at hsound'
    exact ⟨volume', lost, i, pipe', hsound', hruns', hbooks.after _, hexpects.returned_after.symm⟩
  -- a request on something else spares the file of the pipe, so that the ring is as before
  | other _ hpipe hpermits hspares hrun ih =>
    obtain ⟨volume, lost, i, pipe, hsound, hruns, hbooks, hreceived⟩ := ih
    rw [hruns.pipes_eq, Option.some.injEq] at hpipe
    obtain rfl := hpipe
    obtain ⟨volume', lost', hadvanced, hsound'⟩ := hsound.exists_advanced hpermits hrun
    exact ⟨volume', lost', i, pipe, hsound',
      hruns.of_advanced hsound.sound hsound.numbered hpermits hspares hadvanced, hbooks, hreceived⟩

/-- The pipe may be used. -/
theorem permits (h : PipeHistory numSectors slot size device session received queue)
    (huses : request.UsesPipe slot) (allowed : String → Prop) :
    session.Permits allowed request := by
  obtain ⟨_, _, _, _, _, hruns, _⟩ := h.exists_runsQueue
  exact hruns.permits huses allowed

end PipeHistory

/-- The pipe is first in, first out: it has handed out a beginning of what it accepted, holds the
rest, and moves as much as there is and fits. -/
structure IsFifo (session : Session) (device : δ) (slot : Slot) (size : Nat) (received : Bytes)
    (queue : Queue) (pipe : Pipe) : Prop where
  /-- The pipe is in the slot. -/
  pipes_eq : session.pipes[slot]? = some ⟨0, pipe⟩
  /-- The pipe is for `size` bytes. -/
  capacity_eq : pipe.capacity = size
  /-- What was handed out is the beginning of what was accepted. -/
  received_isPrefix : received <+: queue.accepted
  /-- What was accepted and not handed out is in the pipe. -/
  count_add_length : pipe.count + received.length = queue.accepted.length
  /-- There are no more bytes than there can be. -/
  count_le : pipe.count ≤ size
  /-- The pipe says that it is empty if it is. -/
  isEmpty_iff : pipe.isEmpty = true ↔ pipe.count = 0
  /-- The pipe says that it is full if it is. -/
  isFull_iff : pipe.isFull = true ↔ pipe.count = size
  /-- A read hands out as many of the next bytes as there are and fit. -/
  exists_read : ∀ buffer, ∃ filling session' device',
    (session.perform (.stepPipe slot (.read buffer))).run device =
      (.ok (.stepped (.filled filling), session'), device') ∧
    filling.count = min buffer.length pipe.count ∧
    received ++ filling.moved <+: queue.accepted
  /-- A write accepts as many bytes as there is room for. -/
  exists_write : ∀ data, ∃ session' device',
    (session.perform (.stepPipe slot (.write data))).run device =
      (.ok (.stepped (.wrote (min data.length (size - pipe.count))), session'), device') ∧
    (queue.after (.stepPipe slot (.write data))).accepted =
      queue.accepted ++ data.take (size - pipe.count)
  /-- Reads, writes and waits are answered as by the queue. -/
  exists_use : ∀ request, request.UsesPipe slot → ∃ answer session' device',
    (session.perform request).run device = (.ok (answer, session'), device') ∧
    queue.Expects request answer

/-- A pipe that does what a queue does is first in, first out. -/
theorem RunsQueue.isFifo
    (h : session.RunsQueue volume (Disk.image device numSectors) lost slot i pipe queue)
    (hsound : session.SoundOn device numSectors volume lost) (hbooks : queue.Books size) :
    session.IsFifo device slot size queue.returned queue pipe := by
  have hcount := h.backs.count_eq
  have hcapacity := h.backs.capacity_eq.trans hbooks.capacity_eq
  have hle := hbooks.length_le
  have hroom : queue.room = size - pipe.count := by
    rw [Queue.room, hbooks.capacity_eq, hcount]
  -- every request on the pipe runs through; reads and writes are two cases of it
  have huse : ∀ request, request.UsesPipe slot → ∃ answer session' device',
      (session.perform request).run device = (.ok (answer, session'), device') ∧
        queue.Expects request answer := by
    intro request huses
    obtain ⟨⟨answer, session'⟩, device', hrun, -, hexpects, -⟩ :=
      (h.yields_use huses).exists_run hsound.hasBlocks
    exact ⟨answer, session', device', hrun, hexpects⟩
  constructor
  case pipes_eq => exact h.pipes_eq
  case capacity_eq => exact hcapacity
  case received_isPrefix => exact hbooks.returned_isPrefix
  case count_add_length =>
    rw [hcount, ← hbooks.returned_append, List.length_append, Nat.add_comm]
  case count_le => exact hcount ▸ hle
  case isEmpty_iff => rw [Pipe.isEmpty, beq_iff_eq]
  case isFull_iff =>
    rw [Pipe.isFull, beq_iff_eq, h.backs.room_eq, hroom]
    omega
  case exists_use => exact huse
  case exists_read =>
    -- reading hands out the next bytes in the order in which they were written
    intro buffer
    obtain ⟨answer, session', device', hrun, hexpects⟩ := huse (.stepPipe slot (.read buffer)) rfl
    obtain ⟨reply, rfl, hreply⟩ := hexpects.exists_stepped
    obtain rfl := Pipe.PeerAnswer.eq_filled_of_view hreply
    refine ⟨_, session', device', hrun, ?_, ?_⟩
    · show (queue.bytes.take buffer.length).length = _
      rw [List.length_take, hcount]
    · rw [← queue.returned_read buffer]
      exact (hbooks.read buffer).returned_isPrefix
  case exists_write =>
    intro data
    obtain ⟨answer, session', device', hrun, hexpects⟩ := huse (.stepPipe slot (.write data)) rfl
    obtain ⟨reply, rfl, hreply⟩ := hexpects.exists_stepped
    obtain rfl := Pipe.PeerAnswer.eq_wrote_of_view hreply
    refine ⟨session', device', ?_, by rw [← hroom]; rfl⟩
    rw [Queue.write, List.length_take, hroom, Nat.min_comm] at hrun
    exact hrun

/-- Through any history a pipe is first in, first out. -/
theorem PipeHistory.exists_isFifo
    (h : PipeHistory numSectors slot size device session received queue) :
    ∃ pipe, session.IsFifo device slot size received queue pipe := by
  obtain ⟨volume, lost, i, pipe, hsound, hruns, hbooks, rfl⟩ := h.exists_runsQueue
  exact ⟨pipe, hruns.isFifo hsound hbooks⟩

end History

/-- A pipe for 5 bytes on a memory disk of 20 blocks, into which 3 bytes were written and from which
2 were read after another file was made. -/
theorem PipeHistory.exists_isFifo_of_read :
    ∃ (session : Session) (device : RamDisk sectorSize) (queue : Queue) (pipe : Pipe),
      (start.performAll [.format 0 20, .makePipe 0 0 5, .stepPipe 0 (.write [1, 2, 3]),
        .create 0 "a" 200, .stepPipe 0 (.read [0, 0])]).run (RamDisk.zeroed 20 sectorSize) =
        (.ok ([.done, .text "__pipe_6_0__", .stepped (.wrote 3), .done,
          .stepped (.filled ⟨2, [1, 2]⟩)], session), device) ∧
      queue.accepted = [1, 2, 3] ∧ session.IsFifo device 0 5 [1, 2] queue pipe := by
  have hanswers : answers? ((start.performAll [.format 0 20, .makePipe 0 0 5,
      .stepPipe 0 (.write [1, 2, 3]), .create 0 "a" 200, .stepPipe 0 (.read [0, 0])]).run
      (RamDisk.zeroed 20 sectorSize)) = some [.done, .text "__pipe_6_0__", .stepped (.wrote 3),
        .done, .stepped (.filled ⟨2, [1, 2]⟩)] := by decide +kernel
  obtain ⟨session, device, hrun⟩ := exists_of_answers? hanswers
  obtain ⟨session₁, device₁, hformat, hrest⟩ := run_performAll_cons hrun
  obtain ⟨session₂, device₂, hmake, hrest⟩ := run_performAll_cons hrest
  obtain ⟨session₃, device₃, hwrite, hrest⟩ := run_performAll_cons hrest
  obtain ⟨session₄, device₄, hcreate, hrest⟩ := run_performAll_cons hrest
  obtain ⟨session₅, device₅, hread, hrest⟩ := run_performAll_cons hrest
  obtain ⟨-, rfl, rfl⟩ := run_performAll_nil hrest
  have hblocks : HasBlocks (RamDisk.zeroed 20 sectorSize) 20 := RamDisk.hasBlocks _
  have hmade := PipeHistory.made (Reachable.format hblocks hformat) hmake
  have huses : ∀ step, (Request.stepPipe 0 step).UsesPipe 0 := fun _ => rfl
  have hwritten := hmade.use (huses _) hwrite
  obtain ⟨pipe₃, hfifo₃⟩ := PipeHistory.exists_isFifo hwritten
  have hpermits : session₃.Permits (fun _ => True) (.create 0 "a" 200) := trivial
  have hspares : session₃.Spares 0 pipe₃ (.create 0 "a" 200) := by simp [Spares, Request.pipeSlot?]
  have hread := (hwritten.other hfifo₃.pipes_eq hpermits hspares hcreate).use (huses _) hread
  obtain ⟨pipe, hfifo⟩ := PipeHistory.exists_isFifo hread
  exact ⟨session, device, _, pipe, hrun, rfl, hfifo⟩

end Session

end SectorStore
