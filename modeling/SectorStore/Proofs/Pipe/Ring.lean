import SectorStore.Pipe.Basic

/-!
# Queues in rings

`pipe.Holds ring queue` says that the bytes of `queue` are in the ring from the head of the pipe on,
going on at the start behind the last place, and that the tail is behind them. Reading takes bytes
from the front of the queue (`Holds.slice_eq`, `Holds.drop`), writing adds bytes at its end
(`Holds.append`).

For a pipe to count its bytes it is enough that head and tail are places of its ring (`InRing`),
which has so few places that no sum that is made on the way is too large. What is more, whatever the
ring holds, a pipe that moves on takes bytes in at the places behind its tail only, and their number
is known from the bytes that it handed out and from what is in it before and after (`Passes`).
-/

namespace SectorStore.Pipe

variable {pipe : Pipe} {ring ring' queue : Bytes}

/-- Head and tail are places of the ring, which is as small as files are. -/
structure InRing (pipe : Pipe) : Prop where
  /-- The next byte to be read is in a place of the ring. -/
  head_lt : pipe.head < pipe.ringSize
  /-- The next byte to be written goes to a place of the ring. -/
  tail_lt : pipe.tail < pipe.ringSize
  /-- The ring has no more places than a file may have bytes. -/
  ringSize_le : pipe.ringSize ≤ maxFileSize

/-- A pipe does not hold more than it can. -/
theorem InRing.count_le_capacity (h : pipe.InRing) : pipe.count ≤ pipe.capacity :=
  Nat.le_sub_one_of_lt (Nat.mod_lt _ (Nat.zero_lt_of_lt h.head_lt))

/-- The ring holds the bytes of a queue, from the head of the pipe on. -/
structure Holds (pipe : Pipe) (ring queue : Bytes) : Prop where
  /-- The head is a place of the ring. -/
  head_lt : pipe.head < pipe.ringSize
  /-- One place is always left. -/
  length_lt : queue.length < pipe.ringSize
  /-- The tail is behind the queue. -/
  tail_eq : pipe.tail = (pipe.head + queue.length) % pipe.ringSize
  /-- The ring has the places that the pipe knows of. -/
  length_eq : ring.length = pipe.ringSize
  /-- The bytes of the queue are in the places from the head on. -/
  getD_eq : ∀ k < queue.length,
    ring.getD ((pipe.head + k) % pipe.ringSize) 0 = queue.getD k 0

/-- `ring'` is the ring with data laid over it from a place on, going on at its start behind the
last place. -/
structure LaidOver (ring : Bytes) (start : Nat) (data ring' : Bytes) : Prop where
  /-- The ring keeps its length. -/
  length_eq : ring'.length = ring.length
  /-- The data is in the places behind `start`, or in those that many at the start of the ring. -/
  getD_eq : ∀ k < ring.length, ring'.getD k 0 =
    if start ≤ k ∧ k < start + data.length then data.getD (k - start) 0
    else if k + ring.length < start + data.length then data.getD (k + ring.length - start) 0
    else ring.getD k 0

theorem LaidOver.nil (ring : Bytes) {start : Nat} (hstart : start ≤ ring.length) :
    LaidOver ring start [] ring where
  length_eq := rfl
  getD_eq k hk := by rw [List.length_nil, if_neg (by omega), if_neg (by omega)]

/-- A place behind another one, where the ring goes on at its start. -/
theorem add_mod_eq_ite {a k n : Nat} (ha : a < n) (hk : k ≤ n) :
    (a + k) % n = if a + k < n then a + k else a + k - n := by
  split
  · next h => exact Nat.mod_eq_of_lt h
  · next h => rw [Nat.mod_eq_sub_mod (Nat.le_of_not_lt h), Nat.mod_eq_of_lt (by omega)]

namespace InRing

theorem count_eq_ite (h : pipe.InRing) : pipe.count =
    if pipe.head ≤ pipe.tail then pipe.tail - pipe.head
    else pipe.tail + pipe.ringSize - pipe.head := by
  have hhead := h.head_lt
  have htail := h.tail_lt
  rw [count]
  split
  · rw [show pipe.tail + pipe.ringSize - pipe.head = pipe.tail - pipe.head + pipe.ringSize by omega,
      Nat.add_mod_right, Nat.mod_eq_of_lt (by omega)]
  · exact Nat.mod_eq_of_lt (by omega)

/-- Wherever the head moves, it stays in the ring. -/
theorem withHead (h : pipe.InRing) (head : Nat) :
    { pipe with head := head % pipe.ringSize : Pipe }.InRing :=
  ⟨Nat.mod_lt _ (Nat.zero_lt_of_lt h.head_lt), h.tail_lt, h.ringSize_le⟩

/-- Wherever the tail moves, it stays in the ring. -/
theorem withTail (h : pipe.InRing) (tail : Nat) :
    { pipe with tail := tail % pipe.ringSize : Pipe }.InRing :=
  ⟨h.head_lt, Nat.mod_lt _ (Nat.zero_lt_of_lt h.head_lt), h.ringSize_le⟩

/-- Moving the head takes bytes out. -/
theorem moveHead (h : pipe.InRing) {n : Nat} (hn : n ≤ pipe.count) :
    let pipe' := { pipe with head := (pipe.head + n) % pipe.ringSize : Pipe }
    pipe'.InRing ∧ pipe'.count + n = pipe.count := by
  intro pipe'
  have hle := h.count_le_capacity
  have hin : pipe'.InRing := h.withHead _
  have hcount := h.count_eq_ite
  have hcount' : pipe'.count = if (pipe.head + n) % pipe.ringSize ≤ pipe.tail
      then pipe.tail - (pipe.head + n) % pipe.ringSize
      else pipe.tail + pipe.ringSize - (pipe.head + n) % pipe.ringSize := hin.count_eq_ite
  have hhead := h.head_lt
  have htail := h.tail_lt
  rw [capacity] at hle
  rw [add_mod_eq_ite hhead (by omega)] at hcount'
  refine ⟨hin, ?_⟩
  split at hcount <;> split at hcount' <;> split at hcount' <;> omega

/-- Moving the tail puts bytes in. -/
theorem moveTail (h : pipe.InRing) {n : Nat} (hn : n ≤ pipe.room) :
    let pipe' := { pipe with tail := (pipe.tail + n) % pipe.ringSize : Pipe }
    pipe'.InRing ∧ pipe'.count = pipe.count + n := by
  intro pipe'
  have hsum := pipe.count_add_room (Nat.zero_lt_of_lt h.head_lt)
  have hin : pipe'.InRing := h.withTail _
  have hcount := h.count_eq_ite
  have hcount' : pipe'.count = if pipe.head ≤ (pipe.tail + n) % pipe.ringSize
      then (pipe.tail + n) % pipe.ringSize - pipe.head
      else (pipe.tail + n) % pipe.ringSize + pipe.ringSize - pipe.head := hin.count_eq_ite
  have hhead := h.head_lt
  have htail := h.tail_lt
  rw [capacity] at hsum
  rw [add_mod_eq_ite htail (by omega)] at hcount'
  refine ⟨hin, ?_⟩
  split at hcount <;> split at hcount' <;> split at hcount' <;> omega

end InRing

/-! ## The places that a pipe writes -/

/-- The place is one of the next `count` places from the tail on. -/
def Reaches (pipe : Pipe) (count place : Nat) : Prop :=
  ∃ j < count, (pipe.tail + j) % pipe.ringSize = place

/-- The number of bytes that a pipe took in, if it handed out `handed` bytes and then was
`pipe'`. -/
def taken (pipe : Pipe) (handed : Nat) (pipe' : Pipe) : Nat :=
  pipe'.count + handed - pipe.count

/-- While the pipe handed out `handed` bytes, its file changed only where the pipe took bytes in. -/
structure Passes (pipe : Pipe) (bytes : Bytes) (handed : Nat) (pipe' : Pipe) (bytes' : Bytes) :
    Prop where
  /-- The ring is the same. -/
  ringSize_eq : pipe'.ringSize = pipe.ringSize
  /-- Head and tail are places of the ring. -/
  inRing : pipe'.InRing
  /-- The file has not become shorter. -/
  length_le : bytes.length ≤ bytes'.length
  /-- The bytes that were handed out were there before, or were taken in. -/
  count_le : pipe.count ≤ pipe'.count + handed
  /-- The tail has moved by the bytes that were taken in. -/
  tail_eq : pipe'.tail = (pipe.tail + pipe.taken handed pipe') % pipe.ringSize
  /-- No other byte has changed. -/
  getD_eq : ∀ k, ¬ pipe.Reaches (pipe.taken handed pipe') k → bytes'.getD k 0 = bytes.getD k 0

theorem Passes.refl {bytes : Bytes} (h : pipe.InRing) : pipe.Passes bytes 0 pipe bytes := by
  have hnone : pipe.taken 0 pipe = 0 := Nat.sub_self _
  refine ⟨rfl, h, Nat.le_refl _, Nat.le_refl _, ?_, fun _ _ => rfl⟩
  rw [hnone, Nat.add_zero, Nat.mod_eq_of_lt h.tail_lt]

theorem Passes.trans {pipe' pipe'' : Pipe} {bytes bytes' bytes'' : Bytes} {handed handed' : Nat}
    (h : pipe.Passes bytes handed pipe' bytes') (h' : pipe'.Passes bytes' handed' pipe'' bytes'') :
    pipe.Passes bytes (handed + handed') pipe'' bytes'' := by
  have hle := h.count_le
  have hle' := h'.count_le
  have hsum : pipe.taken (handed + handed') pipe'' =
      pipe.taken handed pipe' + pipe'.taken handed' pipe'' := by
    simp only [taken]
    omega
  have htail : ∀ j, (pipe'.tail + j) % pipe'.ringSize =
      (pipe.tail + (pipe.taken handed pipe' + j)) % pipe.ringSize := by
    intro j
    rw [h.tail_eq, h.ringSize_eq, Nat.mod_add_mod, Nat.add_assoc]
  refine ⟨h'.ringSize_eq.trans h.ringSize_eq, h'.inRing, Nat.le_trans h.length_le h'.length_le,
    ?_, ?_, ?_⟩
  · omega
  · rw [h'.tail_eq, htail, hsum]
  · intro k hk
    rw [hsum] at hk
    -- what both moves together do not reach, neither of them reaches
    have hfirst : ¬ pipe.Reaches (pipe.taken handed pipe') k := by
      rintro ⟨j, hj, hplace⟩
      exact hk ⟨j, Nat.lt_add_right _ hj, hplace⟩
    have hsecond : ¬ pipe'.Reaches (pipe'.taken handed' pipe'') k := by
      rintro ⟨j, hj, hplace⟩
      exact hk ⟨_, Nat.add_lt_add_left hj _, (htail j).symm.trans hplace⟩
    rw [h'.getD_eq k hsecond, h.getD_eq k hfirst]

/-- A read takes no byte in. -/
theorem InRing.passes_read {bytes : Bytes} (h : pipe.InRing) {n : Nat} (hn : n ≤ pipe.count) :
    pipe.Passes bytes n { pipe with head := (pipe.head + n) % pipe.ringSize } bytes := by
  obtain ⟨hin, hcount⟩ := h.moveHead hn
  have hnone : pipe.taken n { pipe with head := (pipe.head + n) % pipe.ringSize } = 0 := by
    rw [taken, hcount, Nat.sub_self]
  refine ⟨rfl, hin, Nat.le_refl _, Nat.le_of_eq hcount.symm, ?_, fun _ _ => rfl⟩
  rw [hnone, Nat.add_zero, Nat.mod_eq_of_lt h.tail_lt]

/-- A write of `n` bytes in two parts, the first behind the tail, the second at the start. -/
theorem InRing.passes_write {bytes bytes₁ bytes₂ : Bytes} (h : pipe.InRing) {n : Nat}
    (hn : n ≤ pipe.room) (hlength : bytes.length ≤ bytes₂.length)
    (hfirst : ∀ k, ¬ (pipe.tail ≤ k ∧ k < pipe.tail + min n (pipe.ringSize - pipe.tail)) →
      bytes₁.getD k 0 = bytes.getD k 0)
    (hsecond : ∀ k, ¬ k < n - min n (pipe.ringSize - pipe.tail) →
      bytes₂.getD k 0 = bytes₁.getD k 0) :
    pipe.Passes bytes 0 { pipe with tail := (pipe.tail + n) % pipe.ringSize } bytes₂ := by
  obtain ⟨hin, hcount⟩ := h.moveTail hn
  have hsum := pipe.count_add_room (Nat.zero_lt_of_lt h.head_lt)
  have htail := h.tail_lt
  have htaken : pipe.taken 0 { pipe with tail := (pipe.tail + n) % pipe.ringSize } = n := by
    rw [taken, hcount]
    omega
  rw [capacity] at hsum
  refine ⟨rfl, hin, hlength, by omega, by rw [htaken], ?_⟩
  intro k hk
  rw [htaken] at hk
  rw [hsecond k, hfirst k]
  · rintro ⟨hle, hlt⟩
    refine hk ⟨k - pipe.tail, by omega, ?_⟩
    rw [Nat.add_sub_cancel' hle, Nat.mod_eq_of_lt (by omega)]
  · intro hlt
    -- the second part goes on at the start, where the ring ends
    refine hk ⟨k + (pipe.ringSize - pipe.tail), by omega, ?_⟩
    rw [add_mod_eq_ite htail (by omega), if_neg (by omega)]
    omega

/-! ## Parts of a transfer -/

section Parts

variable (h : pipe.InRing) (n : Nat)

include h

/-- Numbers up to twice that of the places of a ring are small. -/
theorem InRing.lt_sumLimit (hn : n ≤ pipe.ringSize + pipe.ringSize) : n < sumLimit := by
  have hsmall : maxFileSize + maxFileSize < sumLimit := by decide
  have hle := h.ringSize_le
  omega

/-- What is read first ends with the ring at the latest. -/
theorem InRing.readFront_lt_sumLimit :
    pipe.head + min n (pipe.ringSize - pipe.head) < sumLimit := by
  have hhead := h.head_lt
  exact h.lt_sumLimit _ (by omega)

/-- What is read at the start of the ring is no longer than the ring. -/
theorem InRing.readBack_lt_sumLimit (first : Nat) :
    0 + (min n pipe.count - first) < sumLimit := by
  have hcount : pipe.count < pipe.ringSize := Nat.mod_lt _ (Nat.zero_lt_of_lt h.head_lt)
  exact h.lt_sumLimit _ (by omega)

/-- What is written first ends with the ring at the latest. -/
theorem InRing.writeFront_lt_sumLimit (data : Bytes) :
    pipe.tail + (data.take (min n (pipe.ringSize - pipe.tail))).length < sumLimit := by
  have htail := h.tail_lt
  refine h.lt_sumLimit _ ?_
  rw [List.length_take]
  omega

/-- What is written at the start of the ring is no longer than the ring. -/
theorem InRing.writeBack_lt_sumLimit (first : Nat) (data : Bytes) :
    0 + (data.slice first (min n pipe.room - first)).length < sumLimit := by
  have hroom : pipe.room ≤ pipe.ringSize := Nat.le_trans (Nat.sub_le _ _) (Nat.sub_le _ _)
  refine h.lt_sumLimit _ ?_
  rw [Bytes.slice, List.length_take]
  omega

end Parts

namespace Holds

/-- A ring in which head and tail are the first place holds nothing. -/
theorem empty (hhead : pipe.head = 0) (htail : pipe.tail = 0) (hsize : 0 < pipe.ringSize)
    (hlength : ring.length = pipe.ringSize) : pipe.Holds ring [] where
  head_lt := hhead ▸ hsize
  length_lt := hsize
  tail_eq := by rw [htail, hhead, List.length_nil, Nat.zero_mod]
  length_eq := hlength
  getD_eq _ hk := nomatch hk

theorem tail_eq_ite (h : pipe.Holds ring queue) : pipe.tail =
    if pipe.head + queue.length < pipe.ringSize then pipe.head + queue.length
    else pipe.head + queue.length - pipe.ringSize := by
  rw [h.tail_eq, add_mod_eq_ite h.head_lt (Nat.le_of_lt h.length_lt)]

/-- The pipe knows how many bytes are in it. -/
theorem count_eq (h : pipe.Holds ring queue) : pipe.count = queue.length := by
  have htail := h.tail_eq_ite
  have hhead := h.head_lt
  have hlength := h.length_lt
  rw [count]
  split at htail
  · rw [show pipe.tail + pipe.ringSize - pipe.head = queue.length + pipe.ringSize by omega,
      Nat.add_mod_right, Nat.mod_eq_of_lt hlength]
  · rw [show pipe.tail + pipe.ringSize - pipe.head = queue.length by omega,
      Nat.mod_eq_of_lt hlength]

theorem room_eq (h : pipe.Holds ring queue) :
    pipe.room = pipe.ringSize - 1 - queue.length := by
  rw [room, capacity, h.count_eq]

/-- The two parts of the ring from the head on are the front of the queue. -/
theorem slice_eq (h : pipe.Holds ring queue) {n : Nat} (hn : n ≤ queue.length) :
    ring.slice pipe.head (min n (pipe.ringSize - pipe.head)) ++
      ring.slice 0 (n - min n (pipe.ringSize - pipe.head)) = queue.take n := by
  have hhead := h.head_lt
  have hlength := h.length_lt
  have hring := h.length_eq
  apply List.ext_getElem
  · simp only [Bytes.slice, List.length_append, List.length_take, List.length_drop]
    omega
  intro k hk hk'
  rw [List.length_take] at hk'
  have hbyte := h.getD_eq k (by omega)
  rw [add_mod_eq_ite hhead (by omega)] at hbyte
  simp only [List.getD_eq_getElem?_getD] at hbyte
  rw [List.getElem?_eq_getElem (by omega : k < queue.length), Option.getD_some] at hbyte
  rw [List.getElem_take, ← hbyte]
  simp only [Bytes.slice, List.getElem_append, List.length_take, List.length_drop,
    List.getElem_take, List.getElem_drop]
  split
  · rw [if_pos (by omega), List.getElem?_eq_getElem (by omega), Option.getD_some]
  · rw [if_neg (by omega), List.getElem?_eq_getElem (by omega), Option.getD_some]
    congr 1
    omega

/-- Moving the head takes bytes from the front of the queue. -/
theorem drop (h : pipe.Holds ring queue) {n : Nat} (hn : n ≤ queue.length) :
    { pipe with head := (pipe.head + n) % pipe.ringSize : Pipe }.Holds ring (queue.drop n) where
  head_lt := Nat.mod_lt _ (Nat.lt_of_le_of_lt (Nat.zero_le _) h.head_lt)
  length_lt := by
    rw [List.length_drop]
    exact Nat.lt_of_le_of_lt (Nat.sub_le _ _) h.length_lt
  tail_eq := by
    rw [List.length_drop, Nat.mod_add_mod, h.tail_eq]
    congr 1
    omega
  length_eq := h.length_eq
  getD_eq := by
    intro k hk
    rw [List.length_drop] at hk
    have hbyte := h.getD_eq (n + k) (by omega)
    rw [Nat.mod_add_mod, Nat.add_assoc, hbyte]
    simp only [List.getD_eq_getElem?_getD, List.getElem?_drop]

/-- The bytes written from the tail on are added at the end of the queue. -/
theorem append (h : pipe.Holds ring queue) {data : Bytes}
    (hroom : queue.length + data.length < pipe.ringSize)
    (hlaid : LaidOver ring pipe.tail data ring') :
    { pipe with tail := (pipe.tail + data.length) % pipe.ringSize : Pipe }.Holds ring'
      (queue ++ data) where
  head_lt := h.head_lt
  length_lt := by rwa [List.length_append]
  tail_eq := by
    rw [List.length_append, h.tail_eq, Nat.mod_add_mod, Nat.add_assoc]
  length_eq := hlaid.length_eq.trans h.length_eq
  getD_eq := by
    intro k hk
    rw [List.length_append] at hk
    have hhead := h.head_lt
    have htail := h.tail_eq_ite
    have hring := hlaid.getD_eq
    rw [h.length_eq] at hring
    rw [add_mod_eq_ite hhead (by omega)]
    by_cases hold : k < queue.length
    · -- the places of the queue are not written
      have hbyte := h.getD_eq k hold
      rw [add_mod_eq_ite hhead (by omega)] at hbyte
      have hqueue : (queue ++ data).getD k 0 = queue.getD k 0 := by
        simp only [List.getD_eq_getElem?_getD, List.getElem?_append_left hold]
      rw [hqueue, ← hbyte, hring _ (by split <;> omega)]
      split at htail <;> split <;> rw [if_neg (by omega), if_neg (by omega)]
    · have hqueue : (queue ++ data).getD k 0 = data.getD (k - queue.length) 0 := by
        simp only [List.getD_eq_getElem?_getD,
          List.getElem?_append_right (Nat.le_of_not_lt hold)]
      rw [hqueue, hring _ (by split <;> omega)]
      by_cases hwrap : pipe.head + k < pipe.ringSize
      · rw [if_pos hwrap, if_pos (by split at htail <;> omega)]
        congr 1
        split at htail <;> omega
      -- the place is at the front of the ring, and the tail may be there already
      rw [if_neg hwrap]
      split at htail
      · rw [if_neg (by omega), if_pos (by omega)]
        congr 1
        omega
      · rw [if_pos (by omega)]
        congr 1
        omega

end Holds

end SectorStore.Pipe
