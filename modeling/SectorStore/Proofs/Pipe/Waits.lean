import SectorStore.Proofs.Pipe.Backs

/-!
# How long a pipe is waited for

A wait runs the steps of the peer one after another, and between them looks whether it can go on.
`ReadsWaiting` and `WritesWaiting` tell such a wait moment by moment, on the device: a wait to read
lets the peer take a step only at moments at which the pipe is empty, and ends at the first moment
at which it is not; a wait to write lets the peer take a step only at moments at which the pipe is
full and something is left to write. Each step is used once, in the order of the list.

Every wait on a pipe that backs a queue is of this kind, whatever the peer does
(`Moment.Backs.exists_readWhenReady`, `Moment.Backs.exists_writeWhenReady`), and what the queue
accepted meanwhile is what the two sides put in, in the order in which they did. For a wait to write
this order is kept in a list of `Placed` bytes.
-/

namespace SectorStore.Pipe

/-- The bytes that a step of the peer puts into a pipe, where it has the given answer. -/
def PeerStep.accepted : PeerStep → PeerAnswer → Bytes
  | .write data, .wrote count => data.take count
  | _, _ => []

/-- Bytes that were put into a pipe during a wait to write. -/
inductive Placed where
  /-- The side that waits has put them in. -/
  | own (bytes : Bytes)
  /-- The peer has put them in. -/
  | peer (bytes : Bytes)

namespace Placed

/-- The bytes, whoever has put them in. -/
def bytes : Placed → Bytes
  | own bytes => bytes
  | peer bytes => bytes

/-- The bytes of the side that waits. -/
def ownBytes : Placed → Bytes
  | own bytes => bytes
  | peer _ => []

/-- The bytes of the peer. -/
def peerBytes : Placed → Bytes
  | own _ => []
  | peer bytes => bytes

end Placed

/-- A pipe with its volume and its device at one moment. -/
structure Moment (δ : Type) where
  /-- The device. -/
  device : δ
  /-- The pipe. -/
  pipe : Pipe
  /-- The volume. -/
  volume : Volume

section Moments

variable {δ : Type} [BlockDevice δ]

/-- The step of the peer has the given answer and leads to the moment `m'`. -/
def Moment.Steps (m : Moment δ) (step : PeerStep) (answer : PeerAnswer) (m' : Moment δ) : Prop :=
  (m.pipe.step m.volume step).run m.device = (.ok (answer, m'.pipe, m'.volume), m'.device)

/-- Reading fills the buffer as given and leads to the moment `m'`. -/
def Moment.Reads (m : Moment δ) (buffer : Bytes) (filling : Filling) (m' : Moment δ) : Prop :=
  (m.pipe.read buffer).run m.device = (.ok (filling, m'.pipe), m'.device) ∧ m'.volume = m.volume

/-- Writing has the given number of bytes accepted and leads to the moment `m'`. -/
def Moment.Writes (m : Moment δ) (data : Bytes) (count : Nat) (m' : Moment δ) : Prop :=
  (m.pipe.write m.volume data).run m.device = (.ok (count, m'.pipe, m'.volume), m'.device)

/-- A wait to read, moment by moment. -/
inductive ReadsWaiting (buffer : Bytes) : Moment δ → List PeerStep → Waited Filling → δ → Prop
  /-- The pipe is not empty: as many bytes as there are and fit are read at once. -/
  | ready {m m' : Moment δ} {filling : Filling} (peer : List PeerStep)
      (hready : m.pipe.isEmpty = false) (hread : m.Reads buffer filling m')
      (hcount : filling.count = min buffer.length m.pipe.count) (hpositive : 0 < filling.count) :
      ReadsWaiting buffer m peer ⟨some filling, [], m'.pipe, m'.volume⟩ m'.device
  /-- The pipe is empty: the peer takes its next step. -/
  | relax {m m₁ : Moment δ} {step : PeerStep} {peer : List PeerStep} {answer : PeerAnswer}
      {waited : Waited Filling} {device' : δ} (hempty : m.pipe.isEmpty = true)
      (hstep : m.Steps step answer m₁) (h : ReadsWaiting buffer m₁ peer waited device') :
      ReadsWaiting buffer m (step :: peer) { waited with peer := answer :: waited.peer } device'
  /-- The pipe is empty and the peer does nothing more: the wait is given up. -/
  | givenUp {m : Moment δ} (hempty : m.pipe.isEmpty = true) :
      ReadsWaiting buffer m [] (.givenUp m.pipe m.volume) m.device

/-- A wait to write, moment by moment, with what was put into the pipe on the way. -/
inductive WritesWaiting (total : Nat) :
    Moment δ → Bytes → List PeerStep → List Placed → Waited Nat → δ → Prop
  /-- Some bytes are accepted. -/
  | wrote {m m₁ : Moment δ} {data : Bytes} {count : Nat} {peer : List PeerStep}
      {placed : List Placed} {waited : Waited Nat} {device' : δ} (hpositive : 0 < count)
      (hwrite : m.Writes data count m₁)
      (h : WritesWaiting total m₁ (data.drop count) peer placed waited device') :
      WritesWaiting total m data peer (.own (data.take count) :: placed) waited device'
  /-- Bytes are left and the pipe is full: the peer takes its next step. -/
  | relax {m m₁ : Moment δ} {data : Bytes} {step : PeerStep} {peer : List PeerStep}
      {answer : PeerAnswer} {placed : List Placed} {waited : Waited Nat} {device' : δ}
      (hleft : data ≠ []) (hfull : m.pipe.isFull = true) (hstep : m.Steps step answer m₁)
      (h : WritesWaiting total m₁ data peer placed waited device') :
      WritesWaiting total m data (step :: peer) (.peer (step.accepted answer) :: placed)
        { waited with peer := answer :: waited.peer } device'
  /-- No bytes are left. -/
  | done {m : Moment δ} (peer : List PeerStep) :
      WritesWaiting total m [] peer [] ⟨some total, [], m.pipe, m.volume⟩ m.device
  /-- Bytes are left, the pipe is full and the peer does nothing more: the wait is given up. -/
  | givenUp {m : Moment δ} {data : Bytes} (hleft : data ≠ []) (hfull : m.pipe.isFull = true) :
      WritesWaiting total m data [] [] (.givenUp m.pipe m.volume) m.device

end Moments

/-! ## What follows from the moments -/

section Consequences

variable {δ : Type} [BlockDevice δ] {m : Moment δ} {buffer data : Bytes} {peer : List PeerStep}
  {device' : δ}

namespace ReadsWaiting

variable {waited : Waited Filling}

/-- The peer has taken as many steps as there are answers of it, and no more than it was to take. -/
theorem length_le (h : ReadsWaiting buffer m peer waited device') :
    waited.peer.length ≤ peer.length := by
  induction h with
  | ready peer => exact Nat.zero_le _
  | relax hempty hstep h ih => exact Nat.succ_le_succ ih
  | givenUp hempty => exact Nat.le_refl _

/-- The wait ends with bytes, or else the peer has done all it was to do and the pipe is empty. -/
theorem answer_cases (h : ReadsWaiting buffer m peer waited device') :
    (∃ filling, waited.answer = some filling ∧ 0 < filling.count) ∨
      waited.answer = none ∧ waited.peer.length = peer.length ∧ waited.pipe.isEmpty = true := by
  induction h with
  | ready peer hready hread hcount hpositive => exact .inl ⟨_, rfl, hpositive⟩
  | relax hempty hstep h ih =>
    rcases ih with hanswer | ⟨hnone, hlength, hpipe⟩
    · exact .inl hanswer
    · exact .inr ⟨hnone, congrArg Nat.succ hlength, hpipe⟩
  | givenUp hempty => exact .inr ⟨rfl, rfl, hempty⟩

end ReadsWaiting

namespace WritesWaiting

variable {total : Nat} {placed : List Placed} {waited : Waited Nat}

theorem length_le (h : WritesWaiting total m data peer placed waited device') :
    waited.peer.length ≤ peer.length := by
  induction h with
  | wrote hpositive hwrite h ih => exact ih
  | relax hleft hfull hstep h ih => exact Nat.succ_le_succ ih
  | done peer => exact Nat.zero_le _
  | givenUp hleft hfull => exact Nat.le_refl _

/-- What was accepted of the data is a beginning of it. The wait is answered if that is all of the
data, and given up if bytes are left, the pipe is full and the peer has done all it was to do. -/
theorem answer_cases (h : WritesWaiting total m data peer placed waited device') :
    ∃ left, placed.flatMap Placed.ownBytes ++ left = data ∧
      (left = [] ∧ waited.answer = some total ∨
        left ≠ [] ∧ waited.answer = none ∧ waited.peer.length = peer.length ∧
          waited.pipe.isFull = true) := by
  induction h with
  | @wrote m m₁ data count peer placed waited device' hpositive hwrite h ih =>
    obtain ⟨left, hdata, hend⟩ := ih
    refine ⟨left, ?_, hend⟩
    rw [List.flatMap_cons, List.append_assoc, hdata]
    exact List.take_append_drop count data
  | relax hleft hfull hstep h ih =>
    obtain ⟨left, hdata, hend⟩ := ih
    refine ⟨left, hdata, hend.imp_right ?_⟩
    rintro ⟨hleft', hnone, hlength, hpipe⟩
    exact ⟨hleft', hnone, congrArg Nat.succ hlength, hpipe⟩
  | done peer => exact ⟨[], rfl, .inl ⟨rfl, rfl⟩⟩
  | @givenUp m data hleft hfull => exact ⟨data, rfl, .inr ⟨hleft, rfl, rfl, hfull⟩⟩

/-- What the peer has put in is what its steps were answered to have put in, in their order. -/
theorem peerBytes_eq (h : WritesWaiting total m data peer placed waited device') :
    placed.flatMap Placed.peerBytes =
      (List.zipWith PeerStep.accepted peer waited.peer).flatten := by
  induction h with
  | wrote hpositive hwrite h ih => exact ih
  | relax hleft hfull hstep h ih =>
    rw [List.flatMap_cons, ih, List.zipWith_cons_cons, List.flatten_cons]
    rfl
  | done peer => simp
  | givenUp hleft hfull => rfl

end WritesWaiting

end Consequences

/-! ## Stuck pipes -/

variable {pipe : Pipe} {volume : Volume} {disk : Disk} {lost : List SectorId} {i : Fin numEntries}
  {queue : Queue} {buffer data : Bytes}

/-- From an empty pipe nothing is read. -/
theorem read_eq_pure (h : pipe.isEmpty = true) (buffer : Bytes) :
    pipe.read buffer = pure (⟨0, buffer⟩, pipe) := by
  have hnone : min buffer.length pipe.count = 0 := by
    rw [beq_iff_eq.1 h, Nat.min_zero]
  rw [read, if_pos hnone]

/-- Where no bytes are left or the pipe is full, nothing is written. -/
theorem write_eq_pure (h : data = [] ∨ pipe.isFull = true) (volume : Volume) :
    pipe.write volume data = pure (0, pipe, volume) := by
  have hnone : min data.length pipe.room = 0 := by
    rcases h with rfl | hfull
    · exact Nat.zero_min _
    · rw [beq_iff_eq.1 hfull, Nat.min_zero]
  rw [write, if_pos hnone]

/-- A writer without data or without room is done at once. -/
theorem writeFully_eq_pure (h : data = [] ∨ pipe.isFull = true) (rounds : Nat) (volume : Volume) :
    writeFully rounds data pipe volume = pure (data, pipe, volume) := by
  cases rounds with
  | zero => rfl
  | succ rounds =>
    rw [writeFully, write_eq_pure h volume, pure_bind]
    split <;> rfl

/-- After one write there is no room for what is left, so no more is written. -/
theorem writeFully_run_eq {δ : Type} [BlockDevice δ] {m m₁ : Moment δ} {count : Nat}
    (hdata : data ≠ []) (hwrite : m.Writes data count m₁)
    (hstuck : data.drop count = [] ∨ m₁.pipe.isFull = true) :
    (writeFully data.length data m.pipe m.volume).run m.device =
      (.ok (data.drop count, m₁.pipe, m₁.volume), m₁.device) := by
  obtain ⟨rounds, hrounds⟩ := Nat.exists_eq_succ_of_ne_zero (mt List.length_eq_zero_iff.1 hdata)
  rw [hrounds, writeFully, if_neg (by rwa [List.isEmpty_iff]), Transfer.run_bind, hwrite]
  dsimp only
  split
  · next hzero =>
    rw [hzero, List.drop_zero]
    rfl
  · rw [writeFully_eq_pure hstuck]
    rfl

end SectorStore.Pipe

namespace SectorStore.Queue

variable {queue : Queue}

open Pipe (PeerStep PeerAnswer)

/-- From an empty queue nothing is read. -/
theorem read_of_bytes_eq_nil (h : queue.bytes = []) (buffer : Bytes) :
    queue.read buffer = (⟨0, buffer⟩, queue) := by
  cases queue
  subst h
  simp [read, Filling.front, Bytes.splice]

/-- Where there is something to read, the wait is over at once. -/
theorem readWhenReady_of_pos {buffer : Bytes} (h : 0 < (queue.read buffer).1.count)
    (peer : List PeerStep) :
    queue.readWhenReady buffer peer = ⟨some (queue.read buffer).1, [], (queue.read buffer).2⟩ := by
  cases peer <;> rw [readWhenReady, if_pos h]

/-- A step adds to what was accepted what its answer says. -/
theorem accepted_step {step : PeerStep} {answer : PeerAnswer}
    (h : answer.view = (queue.step step).1) :
    (queue.step step).2.accepted = queue.accepted ++ step.accepted answer := by
  cases step with
  | read buffer => exact (List.append_nil _).symm
  | write data =>
    cases answer with
    | wrote count =>
      obtain rfl : count = (queue.write data).1 := Answer.wrote.inj h
      show queue.accepted ++ data.take queue.room = queue.accepted ++ data.take _
      rw [write, List.length_take, ← List.take_eq_take_min]
    | _ => cases h
  | inspect => exact (List.append_nil _).symm

/-- What a write takes is added to what was accepted. -/
theorem accepted_write (queue : Queue) (data : Bytes) :
    (queue.write data).2.accepted = queue.accepted ++ data.take (queue.write data).1 := by
  show queue.accepted ++ data.take queue.room = _
  rw [write, List.length_take, ← List.take_eq_take_min]

/-- After a write nothing is left, or there is no room. -/
theorem drop_eq_nil_or_room_eq_zero (queue : Queue) (data : Bytes) :
    data.drop (queue.write data).1 = [] ∨ (queue.write data).2.room = 0 := by
  rw [List.drop_eq_nil_iff]
  simp only [write, room, List.length_append, List.length_take]
  omega

/-- A full queue takes nothing. -/
theorem write_of_room_eq_zero (h : queue.room = 0) (data : Bytes) :
    queue.write data = (0, queue) := by
  cases queue
  simp [write, h]

/-- Writing first and then waiting with what is left is waiting with all of it. -/
theorem writeWhenReady_drop (queue : Queue) (total : Nat) (peer : List PeerStep) (data : Bytes) :
    (queue.write data).2.writeWhenReady total peer (data.drop (queue.write data).1) =
      queue.writeWhenReady total peer data := by
  cases peer with
  | nil => simp only [writeWhenReady, write_drop, List.drop_zero]
  | cons step peer => simp only [writeWhenReady, write_drop, List.drop_zero]

end SectorStore.Queue

namespace SectorStore.Pipe

/-! ## Waits on a pipe that backs a queue -/

section Waits

variable {δ : Type} [BlockDevice δ] {numSectors : Nat} {lost : List SectorId}
  {i : Fin numEntries} {queue : Queue} {buffer data : Bytes} {m : Moment δ}

/-- At the moment, the device has its blocks and the pipe backs the queue. -/
structure Moment.Backs (m : Moment δ) (numSectors : Nat) (lost : List SectorId)
    (i : Fin numEntries) (queue : Queue) : Prop where
  /-- The device has so many blocks. -/
  hasBlocks : HasBlocks m.device numSectors
  /-- The file of the pipe holds the bytes of the queue in its ring. -/
  backs : m.pipe.Backs m.volume (Disk.image m.device numSectors) lost i queue

namespace Moment.Backs

/-- A pipe is empty if its queue is. -/
theorem isEmpty_iff (h : m.Backs numSectors lost i queue) :
    m.pipe.isEmpty = true ↔ queue.bytes = [] := by
  rw [isEmpty, beq_iff_eq, h.backs.count_eq, List.length_eq_zero_iff]

/-- A pipe is full if its queue has no room. -/
theorem isFull_iff (h : m.Backs numSectors lost i queue) :
    m.pipe.isFull = true ↔ queue.room = 0 := by
  rw [isFull, beq_iff_eq, h.backs.room_eq]

variable [LawfulBlockDevice δ]

/-- What another party does runs through, and is answered as by the queue. -/
theorem exists_steps (h : m.Backs numSectors lost i queue) (step : PeerStep) :
    ∃ answer m₁, m.Steps step answer m₁ ∧ answer.view = (queue.step step).1 ∧
      m₁.Backs numSectors lost i (queue.step step).2 := by
  obtain ⟨⟨answer, pipe₁, volume₁⟩, device₁, hrun, hblocks, hanswer, hbacks⟩ :=
    (h.backs.yields_step step).exists_run h.hasBlocks
  exact ⟨answer, ⟨device₁, pipe₁, volume₁⟩, hrun, hanswer, hblocks, hbacks⟩

/-- A read runs through, and gives what the queue gives. -/
theorem exists_reads (h : m.Backs numSectors lost i queue) (buffer : Bytes) :
    ∃ m₁, m.Reads buffer (queue.read buffer).1 m₁ ∧
      m₁.Backs numSectors lost i (queue.read buffer).2 := by
  -- that reading leaves the volume alone is a matter of its type
  obtain ⟨⟨filling, pipe₁⟩, device₁, hrun, hblocks, hfilling, hbacks⟩ :=
    ((h.backs.yields_read buffer).exists_run h.hasBlocks)
  obtain rfl : filling = (queue.read buffer).1 := hfilling
  exact ⟨⟨device₁, pipe₁, m.volume⟩, ⟨hrun, rfl⟩, hblocks, hbacks⟩

/-- A write runs through, and takes what the queue takes. -/
theorem exists_writes (h : m.Backs numSectors lost i queue) (data : Bytes) :
    ∃ m₁, m.Writes data (queue.write data).1 m₁ ∧
      m₁.Backs numSectors lost i (queue.write data).2 := by
  obtain ⟨⟨count, pipe₁, volume₁⟩, device₁, hrun, hblocks, hcount, hbacks⟩ :=
    (h.backs.yields_write data).exists_run h.hasBlocks
  obtain rfl : count = (queue.write data).1 := hcount
  exact ⟨⟨device₁, pipe₁, volume₁⟩, hrun, hblocks, hbacks⟩

/-- At a moment at which the pipe is not empty, the wait to read is over. -/
theorem exists_readWhenReady_of_ready (h : m.Backs numSectors lost i queue)
    (hready : m.pipe.isEmpty = false) (hbuffer : buffer ≠ []) (peer : List PeerStep) :
    ∃ waited device',
      (readWhenReady buffer peer m.pipe m.volume).run m.device = (.ok waited, device') ∧
      ReadsWaiting buffer m peer waited device' ∧
      (queue.readWhenReady buffer peer).queue.accepted =
        queue.accepted ++ (List.zipWith PeerStep.accepted peer waited.peer).flatten := by
  obtain ⟨m₁, hread, -⟩ := h.exists_reads buffer
  have hcount : (queue.read buffer).1.count = min buffer.length m.pipe.count := by
    rw [h.backs.count_eq, ← List.length_take]
    rfl
  have hpositive : 0 < (queue.read buffer).1.count := by
    have hlength := List.length_pos_iff.2 hbuffer
    have hbytes : m.pipe.count ≠ 0 := by
      rw [isEmpty, beq_eq_false_iff_ne] at hready
      exact hready
    omega
  refine ⟨_, m₁.device, ?_, .ready peer hready hread hcount hpositive, ?_⟩
  · rw [readWhenReady, Transfer.run_bind, hread.1, hread.2]
    dsimp only
    rw [if_pos hpositive]
    rfl
  · rw [Queue.readWhenReady_of_pos hpositive, List.zipWith_nil_right, List.flatten_nil,
      List.append_nil]
    rfl

/-- A wait to read is one that lets the peer take steps while the pipe is empty. -/
theorem exists_readWhenReady (h : m.Backs numSectors lost i queue) (hbuffer : buffer ≠ [])
    (peer : List PeerStep) :
    ∃ waited device',
      (readWhenReady buffer peer m.pipe m.volume).run m.device = (.ok waited, device') ∧
      ReadsWaiting buffer m peer waited device' ∧
      (queue.readWhenReady buffer peer).queue.accepted =
        queue.accepted ++ (List.zipWith PeerStep.accepted peer waited.peer).flatten := by
  -- a step of the peer leads to another moment, at which the pipe backs another queue
  induction peer generalizing m queue with
  | nil =>
    cases hempty : m.pipe.isEmpty with
    | false => exact h.exists_readWhenReady_of_ready hempty hbuffer []
    | true =>
      refine ⟨_, m.device, ?_, .givenUp hempty, ?_⟩
      · rw [readWhenReady, read_eq_pure hempty, pure_bind]
        rfl
      · rw [Queue.readWhenReady, Queue.read_of_bytes_eq_nil (h.isEmpty_iff.1 hempty)]
        exact (List.append_nil _).symm
  | cons step peer ih =>
    cases hempty : m.pipe.isEmpty with
    | false => exact h.exists_readWhenReady_of_ready hempty hbuffer _
    | true =>
      obtain ⟨answer, m₁, hstep, hanswer, h₁⟩ := h.exists_steps step
      obtain ⟨waited, device', hrun, hwaits, haccepted⟩ := ih h₁
      refine ⟨_, device', ?_, .relax hempty hstep hwaits, ?_⟩
      · rw [readWhenReady, read_eq_pure hempty, pure_bind]
        dsimp only
        rw [if_neg (Nat.lt_irrefl 0), letPeer, Transfer.run_bind, hstep]
        dsimp only
        rw [Transfer.run_bind, hrun]
        rfl
      · rw [Queue.readWhenReady, Queue.read_of_bytes_eq_nil (h.isEmpty_iff.1 hempty)]
        show ((queue.step step).2.readWhenReady buffer peer).queue.accepted = _
        rw [haccepted, Queue.accepted_step hanswer, List.append_assoc, List.zipWith_cons_cons,
          List.flatten_cons]

end Moment.Backs

/-- At the moment, a wait to write ends as `WritesWaiting` tells, and meanwhile the queue accepts
what is put into the pipe. -/
def Moment.EndsWriting (m : Moment δ) (queue : Queue) (total : Nat) (data : Bytes)
    (peer : List PeerStep) : Prop :=
  ∃ waited device' placed,
    (writeWhenReady total peer data m.pipe m.volume).run m.device = (.ok waited, device') ∧
    WritesWaiting total m data peer placed waited device' ∧
    (queue.writeWhenReady total peer data).queue.accepted =
      queue.accepted ++ placed.flatMap Placed.bytes

/-- Writing first and then waiting with what is left is waiting with all of it. -/
theorem writeWhenReady_run_eq {m₁ : Moment δ} {count : Nat} (hdata : data ≠ [])
    (hwrite : m.Writes data count m₁) (hstuck : data.drop count = [] ∨ m₁.pipe.isFull = true)
    (total : Nat) (peer : List PeerStep) :
    (writeWhenReady total peer data m.pipe m.volume).run m.device =
      (writeWhenReady total peer (data.drop count) m₁.pipe m₁.volume).run m₁.device := by
  have hfully := writeFully_run_eq hdata hwrite hstuck
  cases peer with
  | nil =>
    rw [writeWhenReady, Transfer.run_bind, hfully, writeWhenReady, writeFully_eq_pure hstuck]
    rfl
  | cons step peer =>
    rw [writeWhenReady, Transfer.run_bind, hfully, writeWhenReady, writeFully_eq_pure hstuck]
    rfl

namespace Moment.Backs

variable [LawfulBlockDevice δ] {total : Nat}

/-- A wait to write that can do nothing at first: it is over, is given up, or goes on as it does
after a step of the peer. -/
theorem endsWriting_of_stuck (h : m.Backs numSectors lost i queue)
    (hstuck : data = [] ∨ m.pipe.isFull = true) {peer : List PeerStep}
    (hnext : ∀ step rest, peer = step :: rest → ∀ (m₁ : Moment δ) queue₁,
      m₁.Backs numSectors lost i queue₁ → m₁.EndsWriting queue₁ total data rest) :
    m.EndsWriting queue total data peer := by
  rcases eq_or_ne data [] with rfl | hleft
  · -- with nothing left, the peer is not asked
    refine ⟨_, _, [], ?_, .done peer, ?_⟩
    · cases peer <;> rw [writeWhenReady, writeFully_eq_pure (.inl rfl)] <;> rfl
    · rw [List.flatMap_nil, List.append_nil]
      cases peer <;> rw [Queue.writeWhenReady, Queue.write_nil] <;> rfl
  have hfull := hstuck.resolve_left hleft
  have hrest : ¬ data.isEmpty = true := by rwa [List.isEmpty_iff]
  have hnone := Queue.write_of_room_eq_zero (h.isFull_iff.1 hfull) data
  cases peer with
  | nil =>
    refine ⟨_, _, [], ?_, .givenUp hleft hfull, ?_⟩
    · rw [writeWhenReady, writeFully_eq_pure hstuck, pure_bind]
      dsimp only
      rw [if_neg hrest]
      rfl
    · rw [Queue.writeWhenReady, hnone, List.drop_zero, if_neg hrest]
      exact (List.append_nil _).symm
  | cons step rest =>
    obtain ⟨answer, m₁, hstep, hanswer, h₁⟩ := h.exists_steps step
    -- the peer takes its step, and the wait goes on from the state that this leaves
    obtain ⟨waited, device', placed, hrun, hwaits, haccepted⟩ := hnext step rest rfl m₁ _ h₁
    refine ⟨_, device', _, ?_, .relax hleft hfull hstep hwaits, ?_⟩
    · rw [writeWhenReady, writeFully_eq_pure hstuck, pure_bind]
      dsimp only
      rw [if_neg hrest, letPeer, Transfer.run_bind, hstep]
      dsimp only
      rw [Transfer.run_bind, hrun]
      rfl
    · rw [Queue.writeWhenReady, hnone, List.drop_zero, if_neg hrest]
      show ((queue.step step).2.writeWhenReady total rest data).queue.accepted = _
      rw [haccepted, Queue.accepted_step hanswer, List.append_assoc, List.flatMap_cons]
      rfl

/-- Where a wait can write at first, it writes what there is room for, and then it can do
nothing. -/
theorem endsWriting_of_next (h : m.Backs numSectors lost i queue) (data : Bytes)
    {peer : List PeerStep}
    (hnext : ∀ step rest, peer = step :: rest → ∀ (m₁ : Moment δ) queue₁ data₁,
      m₁.Backs numSectors lost i queue₁ → m₁.EndsWriting queue₁ total data₁ rest) :
    m.EndsWriting queue total data peer := by
  by_cases hstuck : data = [] ∨ m.pipe.isFull = true
  · exact h.endsWriting_of_stuck hstuck fun step rest hpeer m₁ queue₁ =>
      hnext step rest hpeer m₁ queue₁ data
  rw [not_or] at hstuck
  obtain ⟨m₁, hwrite, h₁⟩ := h.exists_writes data
  -- after one write either all is written or the ring is full, so that no second one follows
  have hstuck₁ : data.drop (queue.write data).1 = [] ∨ m₁.pipe.isFull = true :=
    (queue.drop_eq_nil_or_room_eq_zero data).imp_right h₁.isFull_iff.2
  have hpositive : 0 < (queue.write data).1 := by
    have hlength := List.length_pos_iff.2 hstuck.1
    have hroom := mt h.isFull_iff.2 hstuck.2
    rw [Queue.write, List.length_take]
    omega
  obtain ⟨waited, device', placed, hrun, hwaits, haccepted⟩ :=
    h₁.endsWriting_of_stuck hstuck₁ fun step rest hpeer m₂ queue₂ =>
      hnext step rest hpeer m₂ queue₂ _
  refine ⟨waited, device', _, ?_, .wrote hpositive hwrite hwaits, ?_⟩
  · rw [writeWhenReady_run_eq hstuck.1 hwrite hstuck₁, hrun]
  · rw [← Queue.writeWhenReady_drop, haccepted, Queue.accepted_write, List.append_assoc,
      List.flatMap_cons]
    rfl

/-- A wait to write is one that lets the peer take steps while the pipe is full. -/
theorem exists_writeWhenReady (h : m.Backs numSectors lost i queue) (total : Nat) (data : Bytes)
    (peer : List PeerStep) : m.EndsWriting queue total data peer := by
  -- with each step of the peer there may be less left to write
  induction peer generalizing m queue data with
  | nil => exact h.endsWriting_of_next data nofun
  | cons step peer ih =>
    refine h.endsWriting_of_next data ?_
    rintro _ _ ⟨⟩ m₁ queue₁ data₁ h₁
    exact ih h₁ data₁

end Moment.Backs

end Waits

end SectorStore.Pipe
