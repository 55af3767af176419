import SectorStore.Proofs.Pipe.Steps

/-!
# Pipes behave as queues

`pipe.Backs volume disk lost i queue` says that the file of a pipe, in entry `i`, holds in its ring
what the queue holds. Each step on the pipe then answers what the same step on the queue answers,
and the pipe afterwards backs the queue afterwards; the same is true of waits, whatever the peer
does.
-/

namespace SectorStore.Pipe

variable {pipe : Pipe} {volume : Volume} {disk : Disk} {lost : List SectorId} {i : Fin numEntries}
  {queue : Queue}

/-- The file of the pipe holds the bytes of the queue in its ring. -/
structure Backs (pipe : Pipe) (volume : Volume) (disk : Disk) (lost : List SectorId)
    (i : Fin numEntries) (queue : Queue) : Prop where
  /-- The file is in the directory. -/
  onFile : pipe.OnFile volume disk lost i
  /-- The bytes of the file are a ring that holds the queue. -/
  exists_ring : ∃ ring, volume.contents? disk i = some ring ∧ pipe.Holds ring queue.bytes
  /-- The ring has one place more than the queue has room. -/
  ringSize_eq : pipe.ringSize = queue.capacity + 1

/-- What the pipe answers to a look at it, as a queue would. -/
def PeerAnswer.view : PeerAnswer → Queue.Answer
  | .filled filling => .filled filling
  | .wrote count => .wrote count
  | .state pipe => .state pipe.count pipe.capacity

/-! ## Laying data over the ring -/

/-- Data that fits into the ring is laid over it. -/
theorem laidOver_overlay {ring data : Bytes} {start : Nat}
    (hinside : start + data.length ≤ ring.length) :
    LaidOver ring start data (ring.overlay ring.length start data) where
  length_eq := Bytes.length_overlay (Nat.le_refl _) start data
  getD_eq k hk := by
    rw [Bytes.getD_overlay (Nat.le_refl _) start data hk, if_neg (show ¬ k + _ < _ by omega)]

/-- Data that reaches the last place goes on at the front of the ring. -/
theorem LaidOver.overlay {ring ring' front back : Bytes} {start : Nat}
    (h : LaidOver ring start front ring') (hfront : start + front.length = ring.length)
    (hback : back.length ≤ start) :
    LaidOver ring start (front ++ back) (ring'.overlay ring'.length 0 back) where
  length_eq := (Bytes.length_overlay (Nat.le_refl _) 0 back).trans h.length_eq
  getD_eq k hk := by
    rw [Bytes.getD_overlay (Nat.le_refl _) 0 back (h.length_eq ▸ hk), h.getD_eq k hk,
      List.length_append]
    simp only [List.getD_eq_getElem?_getD, List.getElem?_append]
    -- the second part is in front of the first, and they do not meet
    by_cases hsecond : k < back.length
    · rw [if_pos (by omega), if_neg (by omega), if_pos (by omega), if_neg (by omega)]
      congr 2
      omega
    rw [if_neg (by omega)]
    by_cases hfirst : start ≤ k
    · rw [if_pos (by omega), if_pos (by omega), if_pos (by omega)]
    · rw [if_neg (by omega), if_neg (by omega), if_neg (by omega), if_neg (by omega)]

namespace Backs

/-- A pipe holds as many bytes as its queue. -/
theorem count_eq (h : pipe.Backs volume disk lost i queue) : pipe.count = queue.bytes.length := by
  obtain ⟨ring, -, hholds⟩ := h.exists_ring
  exact hholds.count_eq

theorem capacity_eq (h : pipe.Backs volume disk lost i queue) : pipe.capacity = queue.capacity := by
  rw [capacity, h.ringSize_eq, Nat.add_sub_cancel]

/-- A pipe has as much room as its queue. -/
theorem room_eq (h : pipe.Backs volume disk lost i queue) : pipe.room = queue.room := by
  rw [room, h.capacity_eq, h.count_eq, Queue.room]

/-- Two pieces that are filled in one behind the other fill in what they make up. -/
theorem splice_splice (buffer front back : Bytes) :
    (buffer.splice 0 front).splice front.length back = buffer.splice 0 (front ++ back) := by
  simp only [Bytes.splice, List.take_zero, List.nil_append, Nat.zero_add, List.length_append]
  rw [List.take_left, List.append_assoc, List.append_assoc, List.drop_append,
    List.drop_of_length_le (Nat.le_add_right _ _), List.nil_append, List.drop_drop]
  congr 3
  omega

/-- Two pieces that make up the front of the queue are read from the queue. -/
theorem of_append (h : pipe.Backs volume disk lost i queue) {buffer front back : Bytes}
    (happend : front ++ back = queue.bytes.take buffer.length) :
    (⟨front.length + back.length, (buffer.splice 0 front).splice front.length back⟩ : Filling) =
        (queue.read buffer).1 ∧
      { pipe with head := (pipe.head + (front.length + back.length)) % pipe.ringSize : Pipe }.Backs
        volume disk lost i (queue.read buffer).2 := by
  obtain ⟨ring, hring, hholds⟩ := h.exists_ring
  have hmoved : front.length + back.length = min buffer.length queue.bytes.length := by
    rw [← List.length_append, happend, List.length_take]
  constructor
  · rw [splice_splice, ← List.length_append, happend]
    rfl
  · rw [hmoved]
    refine ⟨⟨h.onFile.intact, h.onFile.lists, h.onFile.inRing.withHead _⟩, ⟨ring, hring, ?_⟩,
      h.ringSize_eq⟩
    rw [Queue.read, List.drop_eq_drop_min]
    exact hholds.drop (Nat.min_le_right _ _)

/-- A read gives what the queue gives, and the pipe goes on backing it. -/
theorem yields_read (h : pipe.Backs volume disk lost i queue) (buffer : Bytes) :
    (pipe.read buffer).Yields disk fun answer disk' =>
      answer.1 = (queue.read buffer).1 ∧
        answer.2.Backs volume disk' lost i (queue.read buffer).2 := by
  obtain ⟨ring, hring, hholds⟩ := h.exists_ring
  -- a read takes what there is up to the end of the ring, and then what there is at its front
  let count := min buffer.length pipe.count
  let first := min count (pipe.ringSize - pipe.head)
  have hcount : count ≤ queue.bytes.length := hholds.count_eq ▸ Nat.min_le_right _ _
  have htake : queue.bytes.take buffer.length = queue.bytes.take count := by
    rw [List.take_eq_take_min, ← hholds.count_eq]
  have hslices : ring.slice pipe.head first ++ ring.slice 0 (count - first) =
      queue.bytes.take buffer.length := by
    rw [htake]
    exact hholds.slice_eq hcount
  have hfirst : (ring.slice pipe.head first).length = first := by
    have hhead := hholds.head_lt
    simp only [Bytes.slice, List.length_take, List.length_drop, hholds.length_eq]
    omega
  rw [read]
  split
  · next hzero =>
    have hzero : count = 0 := hzero
    -- there is nothing to read, and the head stays where it is
    have hnone : ([] : Bytes) ++ [] = queue.bytes.take buffer.length := by
      rw [htake, hzero, List.take_zero]
      rfl
    have hsame := h.of_append hnone
    rw [List.length_nil, Nat.add_zero, Nat.add_zero, Nat.mod_eq_of_lt hholds.head_lt] at hsame
    refine Transfer.yields_pure.2 ⟨?_, hsame.2⟩
    rw [← hsame.1]
    simp [Bytes.splice]
  · have hin := h.onFile.inRing
    rw [Transfer.yields_bind,
      h.onFile.intact.yields_readBytes h.onFile.lists hring (hin.readFront_lt_sumLimit _)]
    dsimp only
    split
    · have hdone := h.of_append hslices
      rw [hfirst] at hdone
      rw [Transfer.yields_bind,
        h.onFile.intact.yields_readBytes h.onFile.lists hring (hin.readBack_lt_sumLimit _ _),
        Transfer.yields_pure, hfirst]
      exact hdone
    · next hall =>
      -- the front part is all there is to read
      have hnone : ring.slice 0 (count - first) = [] := by
        rw [show count - first = 0 from Nat.sub_eq_zero_of_le (Nat.le_of_not_lt hall)]
        rfl
      have hdone := h.of_append (hnone ▸ hslices)
      rw [hfirst] at hdone
      rw [pure_bind, Transfer.yields_pure, hfirst]
      exact hdone

/-- Where the data that there is room for is laid over the ring from the tail on, it is written to
the queue. -/
theorem of_laidOver (h : pipe.Backs volume disk lost i queue) {data moved : Bytes}
    (hmoved : data.take queue.room = moved) {volume' : Volume} {disk' : Disk} {ring ring' : Bytes}
    (hring : volume.contents? disk i = some ring) (honFile : pipe.OnFile volume' disk' lost i)
    (hring' : volume'.contents? disk' i = some ring')
    (hlaid : LaidOver ring pipe.tail moved ring') :
    moved.length = (queue.write data).1 ∧
      { pipe with tail := (pipe.tail + moved.length) % pipe.ringSize : Pipe }.Backs volume' disk'
        lost i (queue.write data).2 := by
  obtain ⟨ring₁, hring₁, hholds⟩ := h.exists_ring
  rw [hring, Option.some.injEq] at hring₁
  obtain rfl := hring₁
  have hroom : queue.bytes.length + moved.length < pipe.ringSize := by
    have hlength := hholds.length_lt
    have hsize := h.ringSize_eq
    rw [← hmoved, List.length_take, Queue.room]
    omega
  rw [Queue.write, hmoved]
  exact ⟨rfl, ⟨honFile.intact, honFile.lists, honFile.inRing.withTail _⟩,
    ⟨ring', hring', hholds.append hroom hlaid⟩, h.ringSize_eq⟩

/-- A write takes what the queue takes, and the pipe goes on backing it. -/
theorem yields_write (h : pipe.Backs volume disk lost i queue) (data : Bytes) :
    (pipe.write volume data).Yields disk fun answer disk' =>
      answer.1 = (queue.write data).1 ∧
        answer.2.1.Backs answer.2.2 disk' lost i (queue.write data).2 := by
  obtain ⟨ring, hring, hholds⟩ := h.exists_ring
  -- a write fills the room up to the end of the ring, and then that at its front
  let count := min data.length pipe.room
  let first := min count (pipe.ringSize - pipe.tail)
  let front := data.take first
  let back := data.slice first (count - first)
  have hlength := hholds.length_eq
  have hroom := hholds.room_eq
  have htail : pipe.tail < pipe.ringSize := by
    rw [hholds.tail_eq]
    exact Nat.mod_lt _ (Nat.lt_of_le_of_lt (Nat.zero_le _) hholds.head_lt)
  have hfront : front.length = first := by
    show (data.take first).length = first
    rw [List.length_take]
    omega
  have hback : back.length = count - first := by
    show ((data.drop first).take (count - first)).length = count - first
    rw [List.length_take, List.length_drop]
    omega
  have hmoved : data.take queue.room = front ++ back := by
    rw [← h.room_eq, List.take_eq_take_min, Nat.min_comm]
    show data.take count = data.take first ++ (data.drop first).take (count - first)
    rw [← List.take_add, Nat.add_sub_cancel' (Nat.min_le_left _ _)]
  rw [write]
  split
  · next hzero =>
    have hzero : count = 0 := hzero
    -- there is no room, and the tail stays where it is
    have hnone : data.take queue.room = [] := by
      rw [hmoved, ← List.length_eq_zero_iff, List.length_append]
      omega
    have hsame := h.of_laidOver hnone hring h.onFile hring (.nil ring (by omega))
    rw [List.length_nil, Nat.add_zero, Nat.mod_eq_of_lt htail] at hsame
    exact Transfer.yields_pure.2 hsame
  have hin := h.onFile.inRing
  have hinside : pipe.tail + front.length ≤ ring.length := by omega
  have hsum : pipe.tail + front.length < sumLimit := hin.writeFront_lt_sumLimit _ _
  refine (h.onFile.yields_writeInside hring hsum hinside).bind ?_
  rintro ⟨written, volume₁⟩ disk₁ ⟨hwritten, hring₁, honFile₁⟩
  have hlaid := laidOver_overlay hinside
  dsimp only at hwritten hring₁ honFile₁ ⊢
  split
  · next hsecond =>
    have hsecond : first < count := hsecond
    have hinside₁ : 0 + back.length ≤ (ring.overlay ring.length pipe.tail front).length := by
      rw [hlaid.length_eq]
      omega
    have hsum₁ : 0 + back.length < sumLimit := hin.writeBack_lt_sumLimit _ _ _
    refine (honFile₁.yields_writeInside hring₁ hsum₁ hinside₁).bind ?_
    rintro ⟨written₂, volume₂⟩ disk₂ ⟨hwritten₂, hring₂, honFile₂⟩
    dsimp only at hwritten₂ hring₂ honFile₂ ⊢
    -- the front part reaches the last place, or else it would be all of the data
    have hlaid₂ : LaidOver ring pipe.tail (front ++ back) _ := hlaid.overlay (by omega) (by omega)
    rw [Transfer.yields_pure, hwritten, hwritten₂, ← List.length_append]
    exact h.of_laidOver hmoved hring honFile₂ hring₂ hlaid₂
  · next hall =>
    -- all of the data has gone to the front part
    have hnone : back = [] := by
      rw [← List.length_eq_zero_iff]
      omega
    rw [hnone, List.append_nil] at hmoved
    rw [pure_bind, Transfer.yields_pure, hwritten, Nat.add_zero]
    exact h.of_laidOver hmoved hring honFile₁ hring₁ hlaid

/-- Another party is answered as by the queue. -/
theorem yields_step (h : pipe.Backs volume disk lost i queue) (step : PeerStep) :
    (pipe.step volume step).Yields disk fun answer disk' =>
      answer.1.view = (queue.step step).1 ∧
        answer.2.1.Backs answer.2.2 disk' lost i (queue.step step).2 := by
  cases step with
  | read buffer =>
    refine (h.yields_read buffer).bind ?_
    rintro ⟨filling, pipe'⟩ disk' ⟨hfilling, hbacks⟩
    exact Transfer.yields_pure.2 ⟨congrArg Queue.Answer.filled hfilling, hbacks⟩
  | write data =>
    refine (h.yields_write data).bind ?_
    rintro ⟨count, pipe', volume'⟩ disk' ⟨hcount, hbacks⟩
    exact Transfer.yields_pure.2 ⟨congrArg Queue.Answer.wrote hcount, hbacks⟩
  | inspect =>
    refine Transfer.yields_pure.2 ⟨?_, h⟩
    rw [PeerAnswer.view, h.count_eq, h.capacity_eq]
    rfl

end Backs

/-! ## Waiting -/

/-- A wait on a pipe has ended as the wait on the queue has. -/
structure Waited.Matches {α : Type} (waited : Waited α) (disk : Disk) (lost : List SectorId)
    (i : Fin numEntries) (expected : Queue.Waited α) : Prop where
  /-- The answers are the same. -/
  answer_eq : waited.answer = expected.answer
  /-- The answers to the peer are the same. -/
  peer_eq : waited.peer.map PeerAnswer.view = expected.peer
  /-- The pipe backs the queue afterwards. -/
  backs : waited.pipe.Backs waited.volume disk lost i expected.queue

namespace Backs

/-- Letting another party go first is the same for pipe and queue. -/
theorem yields_letPeer {α : Type} (h : pipe.Backs volume disk lost i queue) (step : PeerStep)
    {next : Pipe → Volume → Transfer (Waited α)} {expected : Queue → Queue.Waited α}
    (hnext : ∀ pipe' volume' disk' queue', pipe'.Backs volume' disk' lost i queue' →
      (next pipe' volume').Yields disk' fun waited disk'' =>
        waited.Matches disk'' lost i (expected queue')) :
    (pipe.letPeer volume step next).Yields disk fun waited disk' =>
      waited.Matches disk' lost i (queue.letPeer step expected) := by
  refine (h.yields_step step).bind ?_
  rintro ⟨answer, pipe₁, volume₁⟩ disk₁ ⟨hanswer, hbacks₁⟩
  refine (hnext pipe₁ volume₁ disk₁ _ hbacks₁).bind ?_
  rintro waited disk₂ hmatches
  refine Transfer.yields_pure.2 ⟨hmatches.answer_eq, ?_, hmatches.backs⟩
  rw [List.map_cons, hmatches.peer_eq, hanswer]
  rfl

/-- A reader that waits for the first byte gets what it gets of the queue. -/
theorem yields_readWhenReady (h : pipe.Backs volume disk lost i queue) (buffer : Bytes)
    (peer : List PeerStep) :
    (readWhenReady buffer peer pipe volume).Yields disk fun waited disk' =>
      waited.Matches disk' lost i (queue.readWhenReady buffer peer) := by
  induction peer generalizing pipe volume disk queue with
  | nil =>
    rw [readWhenReady, Queue.readWhenReady]
    refine (h.yields_read buffer).bind ?_
    rintro ⟨filling, pipe₁⟩ disk₁ ⟨hfilling, hbacks⟩
    dsimp only at hfilling hbacks ⊢
    rw [← hfilling]
    split
    · exact Transfer.yields_pure.2 ⟨rfl, rfl, hbacks⟩
    · exact Transfer.yields_pure.2 ⟨rfl, rfl, hbacks⟩
  | cons step peer ih =>
    rw [readWhenReady, Queue.readWhenReady]
    refine (h.yields_read buffer).bind ?_
    rintro ⟨filling, pipe₁⟩ disk₁ ⟨hfilling, hbacks⟩
    dsimp only at hfilling hbacks ⊢
    rw [← hfilling]
    split
    · exact Transfer.yields_pure.2 ⟨rfl, rfl, hbacks⟩
    · exact hbacks.yields_letPeer step fun _ _ _ _ h' => ih h'

/-- A read that may wait gives what the queue gives. -/
theorem yields_readWaiting (h : pipe.Backs volume disk lost i queue) (buffer : Bytes)
    (peer : List PeerStep) :
    (pipe.readWaiting volume buffer peer).Yields disk fun waited disk' =>
      waited.Matches disk' lost i (queue.readWaiting buffer peer) := by
  rw [readWaiting, Queue.readWaiting]
  split
  · exact Transfer.yields_pure.2 ⟨rfl, rfl, h⟩
  · exact h.yields_readWhenReady buffer peer

/-- The first write accepts all that there is room for; those after it find no room. -/
theorem yields_writeFully (h : pipe.Backs volume disk lost i queue) {rounds : Nat} {data : Bytes}
    (hrounds : data.length ≤ rounds) :
    (writeFully rounds data pipe volume).Yields disk fun answer disk' =>
      answer.1 = data.drop (queue.write data).1 ∧
        answer.2.1.Backs answer.2.2 disk' lost i (queue.write data).2 := by
  induction rounds generalizing pipe volume disk queue data with
  | zero =>
    -- as many rounds are allowed as there are bytes, so none are left over here
    obtain rfl := List.length_eq_zero_iff.1 (Nat.le_zero.1 hrounds)
    rw [Queue.write_nil]
    exact Transfer.yields_pure.2 ⟨rfl, h⟩
  | succ rounds ih =>
    rw [writeFully]
    split
    · next hempty =>
      obtain rfl := List.isEmpty_iff.1 hempty
      rw [Queue.write_nil]
      exact Transfer.yields_pure.2 ⟨rfl, h⟩
    refine (h.yields_write data).bind ?_
    rintro ⟨count, pipe₁, volume₁⟩ disk₁ ⟨hcount, hbacks⟩
    dsimp only at hcount hbacks ⊢
    split
    · next hzero =>
      -- the pipe is full, and the rest has to wait
      rw [← hcount, hzero]
      exact Transfer.yields_pure.2 ⟨rfl, hbacks⟩
    · next hpositive =>
      have hrest : (data.drop count).length ≤ rounds := by
        rw [List.length_drop]
        omega
      refine (ih hbacks hrest).mono ?_
      rintro answer disk₂ ⟨hanswer, hbacks₂⟩
      rw [hcount, Queue.write_drop] at hanswer hbacks₂
      exact ⟨hanswer, hbacks₂⟩

/-- A writer that waits for room has written what the queue takes. -/
theorem yields_writeWhenReady (h : pipe.Backs volume disk lost i queue) (total : Nat)
    (peer : List PeerStep) (data : Bytes) :
    (writeWhenReady total peer data pipe volume).Yields disk fun waited disk' =>
      waited.Matches disk' lost i (queue.writeWhenReady total peer data) := by
  induction peer generalizing pipe volume disk queue data with
  | nil =>
    rw [writeWhenReady, Queue.writeWhenReady]
    refine (h.yields_writeFully (Nat.le_refl _)).bind ?_
    rintro ⟨rest, pipe₁, volume₁⟩ disk₁ ⟨hrest, hbacks⟩
    dsimp only at hrest hbacks ⊢
    rw [← hrest]
    split
    · exact Transfer.yields_pure.2 ⟨rfl, rfl, hbacks⟩
    · exact Transfer.yields_pure.2 ⟨rfl, rfl, hbacks⟩
  | cons step peer ih =>
    rw [writeWhenReady, Queue.writeWhenReady]
    refine (h.yields_writeFully (Nat.le_refl _)).bind ?_
    rintro ⟨rest, pipe₁, volume₁⟩ disk₁ ⟨hrest, hbacks⟩
    dsimp only at hrest hbacks ⊢
    rw [← hrest]
    split
    · exact Transfer.yields_pure.2 ⟨rfl, rfl, hbacks⟩
    · exact hbacks.yields_letPeer step fun _ _ _ _ h' => ih h' rest

/-- A write that may wait takes what the queue takes. -/
theorem yields_writeWaiting (h : pipe.Backs volume disk lost i queue) (data : Bytes)
    (peer : List PeerStep) :
    (pipe.writeWaiting volume data peer).Yields disk fun waited disk' =>
      waited.Matches disk' lost i (queue.writeWaiting data peer) :=
  h.yields_writeWhenReady _ peer data

end Backs

end SectorStore.Pipe
