import SectorStore.Proofs.Pipe.Queue
import SectorStore.Proofs.Pipe.Ring
import SectorStore.Proofs.Volume.Alike

/-!
# Steps on pipes of an intact volume

A pipe whose file is in the directory can be read and written whatever has become of that file: the
steps and the waits run through, and of all files only that of the pipe changes (`Moved`).

What they answer depends on the bytes of files only. So on two disks that are alike the answers are
the same, and the disks are alike afterwards (`OnBoth.yieldsBoth_step` and those for waits). This is
what is shown step by step; what a step does on a single disk is the case of two disks that are the
same (`OnFile.yields_step`).
-/

namespace SectorStore.Pipe

open Transfer (YieldsBoth)

variable {pipe pipe' pipe'' : Pipe} {volume volume' volume'' : Volume}
  {disk disk' disk'' left right left' right' left'' right'' : Disk} {lost lost' : List SectorId}
  {i : Fin numEntries} {n n' : Nat}

/-! ## Steps on any file -/

/-- The pipe has moved on, with the same file and the same ring. -/
structure Continues (pipe pipe' : Pipe) : Prop where
  /-- The name of the file is the same. -/
  name_eq : pipe'.name = pipe.name
  /-- The file is the same. -/
  file_eq : pipe'.file = pipe.file
  /-- The size of the ring is the same. -/
  ringSize_eq : pipe'.ringSize = pipe.ringSize

theorem Continues.refl (pipe : Pipe) : pipe.Continues pipe :=
  ⟨rfl, rfl, rfl⟩

theorem Continues.trans (h : pipe.Continues pipe') (h' : pipe'.Continues pipe'') :
    pipe.Continues pipe'' :=
  ⟨h'.name_eq.trans h.name_eq, h'.file_eq.trans h.file_eq, h'.ringSize_eq.trans h.ringSize_eq⟩

/-- Where the bytes of its file can be read, a read of a pipe moves the head on in the ring, and
changes nothing on the disk. -/
theorem InRing.yields_read (hin : pipe.InRing)
    (hbytes : ∀ {offset count}, offset + count < sumLimit →
      (pipe.file.readBytes offset count).Yields disk fun _ disk' => disk' = disk)
    (buffer : Bytes) :
    (pipe.read buffer).Yields disk fun answer disk' =>
      disk' = disk ∧ pipe.Continues answer.2 ∧ answer.2.InRing := by
  rw [read]
  split
  · exact Transfer.yields_pure.2 ⟨rfl, .refl pipe, hin⟩
  refine (hbytes (hin.readFront_lt_sumLimit _)).bind ?_
  rintro front _ rfl
  split
  · refine (hbytes (hin.readBack_lt_sumLimit _ _)).bind ?_
    rintro back _ rfl
    exact Transfer.yields_pure.2 ⟨rfl, ⟨rfl, rfl, rfl⟩, hin.withHead _⟩
  · rw [pure_bind]
    exact Transfer.yields_pure.2 ⟨rfl, ⟨rfl, rfl, rfl⟩, hin.withHead _⟩

/-- The volume is intact, the file of the pipe is in entry `i`, and the pipe keeps to its ring. -/
structure OnFile (pipe : Pipe) (volume : Volume) (disk : Disk) (lost : List SectorId)
    (i : Fin numEntries) : Prop where
  /-- The volume is intact. -/
  intact : volume.Intact disk lost
  /-- The entry names the header of the file. -/
  lists : volume.Lists pipe.file.headerSector i
  /-- Head and tail are places of the ring. -/
  inRing : pipe.InRing

/-- What a step leaves behind: a pipe on the same file, of a volume in which only that file has
changed. The step has handed out `handed` bytes. -/
structure Moved (pipe : Pipe) (volume : Volume) (disk : Disk) (lost : List SectorId)
    (i : Fin numEntries) (handed : Nat) (pipe' : Pipe) (volume' : Volume) (disk' : Disk) :
    Prop where
  /-- The pipe has moved on. -/
  continues : pipe.Continues pipe'
  /-- The file is where it was. -/
  onFile : pipe'.OnFile volume' disk' lost i
  /-- Only the pipe's file has changed. -/
  changesOnly : volume.ChangesOnly disk i volume' disk'
  /-- If the file has all places of the ring, it has changed behind the tail only. -/
  exists_passes : ∀ bytes, volume.contents? disk i = some bytes →
    pipe.ringSize ≤ bytes.length →
    ∃ bytes', volume'.contents? disk' i = some bytes' ∧ pipe.Passes bytes handed pipe' bytes'

/-- A pipe that is left alone has moved on by no byte. -/
theorem Moved.refl (h : pipe.OnFile volume disk lost i) :
    pipe.Moved volume disk lost i 0 pipe volume disk :=
  ⟨.refl _, h, .refl _ _ _, fun bytes hbytes _ => ⟨bytes, hbytes, .refl h.inRing⟩⟩

/-- A pipe that moves on twice moves on by the bytes of both times. -/
theorem Moved.trans (h : pipe.Moved volume disk lost i n pipe' volume' disk')
    (h' : pipe'.Moved volume' disk' lost i n' pipe'' volume'' disk'') :
    pipe.Moved volume disk lost i (n + n') pipe'' volume'' disk'' where
  continues := h.continues.trans h'.continues
  onFile := h'.onFile
  changesOnly := h.changesOnly.trans h'.changesOnly
  exists_passes bytes hbytes hlength := by
    obtain ⟨bytes', hbytes', hpasses⟩ := h.exists_passes bytes hbytes hlength
    obtain ⟨bytes'', hbytes'', hpasses'⟩ := h'.exists_passes bytes' hbytes'
      (hpasses.ringSize_eq ▸ Nat.le_trans hlength hpasses.length_le)
    exact ⟨bytes'', hbytes'', hpasses.trans hpasses'⟩

namespace OnFile

/-- Where in the ring head and tail are does not matter. -/
theorem move (h : pipe.OnFile volume disk lost i) (hcontinues : pipe.Continues pipe')
    (hin : pipe'.InRing) : pipe'.OnFile volume disk lost i :=
  ⟨h.intact, hcontinues.file_eq ▸ h.lists, hin⟩

/-- Bytes of the pipe's file can be read, and nothing changes. -/
theorem yields_readBytes (h : pipe.OnFile volume disk lost i) {offset count : Nat}
    (hsum : offset + count < sumLimit) :
    (pipe.file.readBytes offset count).Yields disk fun _ disk' => disk' = disk := by
  obtain ⟨bytes, hbytes⟩ := h.intact.exists_contents? h.lists.1
  exact (h.intact.yields_readBytes h.lists hbytes hsum).2 rfl

/-- A read moves the pipe on by the bytes that it gives, and leaves its volume. -/
theorem yields_read (h : pipe.OnFile volume disk lost i) (buffer : Bytes) :
    (pipe.read buffer).Yields disk fun answer disk' =>
      pipe.Moved volume disk lost i answer.1.count answer.2 volume disk' := by
  obtain ⟨bytes, hbytes⟩ := h.intact.exists_contents? h.lists.1
  have hmoved : ∀ n ≤ pipe.count, pipe.Moved volume disk lost i n
      { pipe with head := (pipe.head + n) % pipe.ringSize } volume disk := fun n hn =>
    ⟨⟨rfl, rfl, rfl⟩, ⟨h.intact, h.lists, h.inRing.withHead _⟩, .refl _ _ _,
      fun bytes hbytes _ => ⟨bytes, hbytes, h.inRing.passes_read hn⟩⟩
  have hslice : ∀ offset count, (bytes.slice offset count).length ≤ count :=
    fun _ _ => List.length_take_le _ _
  rw [read]
  split
  · exact Transfer.yields_pure.2 (.refl h)
  · rw [Transfer.yields_bind,
      h.intact.yields_readBytes h.lists hbytes (h.inRing.readFront_lt_sumLimit _)]
    dsimp only
    have hfront := hslice pipe.head
      (min (min buffer.length pipe.count) (pipe.ringSize - pipe.head))
    split
    · have hback := hslice 0 (min buffer.length pipe.count -
        min (min buffer.length pipe.count) (pipe.ringSize - pipe.head))
      rw [Transfer.yields_bind,
        h.intact.yields_readBytes h.lists hbytes (h.inRing.readBack_lt_sumLimit _ _),
        Transfer.yields_pure]
      exact hmoved _ (by dsimp only; omega)
    · rw [pure_bind, Transfer.yields_pure]
      exact hmoved _ (by dsimp only; rw [List.length_nil]; omega)

/-- Writing to the pipe's file changes that file only. -/
theorem yields_writeAt (h : pipe.OnFile volume disk lost i) {offset : Nat} {data : Bytes}
    (hsum : offset + data.length < sumLimit) :
    (pipe.file.writeAt volume offset data).Yields disk fun answer disk' =>
      pipe.OnFile answer.2 disk' lost i ∧ volume.ChangesOnly disk i answer.2 disk' ∧
        ∀ bytes, volume.contents? disk i = some bytes → offset + data.length ≤ bytes.length →
          answer.1 = data.length ∧
            answer.2.contents? disk' i = some (bytes.overlay bytes.length offset data) := by
  obtain ⟨bytes, hbytes⟩ := h.intact.exists_contents? h.lists.1
  refine (h.intact.yields_writeAt h.lists hbytes hsum).mono ?_
  rintro ⟨written, volume'⟩ disk' hwritten
  have hchanges := hwritten.changesOnly
  refine ⟨⟨hwritten.intact, hchanges.lists h.lists, h.inRing⟩, hchanges, ?_⟩
  intro bytes' hbytes' hinside
  rw [hbytes, Option.some.injEq] at hbytes'
  obtain rfl := hbytes'
  have hreach : FileHeader.reach bytes.length volume.numFree (offset + data.length) =
      bytes.length := if_neg (by omega)
  have hcount := hwritten.written_eq
  have hcontents := hwritten.contents?_eq
  rw [hreach] at hcount hcontents
  exact ⟨by omega, hcontents⟩

/-- Writing inside the file lays the data over its bytes. -/
theorem yields_writeInside (h : pipe.OnFile volume disk lost i) {bytes data : Bytes}
    {offset : Nat} (hbytes : volume.contents? disk i = some bytes)
    (hsum : offset + data.length < sumLimit) (hinside : offset + data.length ≤ bytes.length) :
    (pipe.file.writeAt volume offset data).Yields disk fun answer disk' =>
      answer.1 = data.length ∧
        answer.2.contents? disk' i = some (bytes.overlay bytes.length offset data) ∧
        pipe.OnFile answer.2 disk' lost i := by
  refine (h.yields_writeAt hsum).mono ?_
  rintro ⟨written, volume'⟩ disk' ⟨honFile, -, hlaid⟩
  obtain ⟨hcount, hcontents⟩ := hlaid bytes hbytes hinside
  exact ⟨hcount, hcontents, honFile⟩

/-- A write moves no byte out of the pipe. -/
theorem yields_write (h : pipe.OnFile volume disk lost i) (data : Bytes) :
    (pipe.write volume data).Yields disk fun answer disk' =>
      pipe.Moved volume disk lost i 0 answer.2.1 answer.2.2 disk' := by
  let count := min data.length pipe.room
  let first := min count (pipe.ringSize - pipe.tail)
  have hfirst : (data.take first).length = first := by
    rw [List.length_take]
    omega
  have hsecond : (data.slice first (count - first)).length = count - first := by
    simp only [Bytes.slice, List.length_take, List.length_drop]
    omega
  have hroom : pipe.room ≤ pipe.ringSize := Nat.le_trans (Nat.sub_le _ _) (Nat.sub_le _ _)
  have hin := h.inRing
  have htail := hin.tail_lt
  have hsum : pipe.tail + (data.take first).length < sumLimit := hin.writeFront_lt_sumLimit _ _
  have hsum' : 0 + (data.slice first (count - first)).length < sumLimit :=
    hin.writeBack_lt_sumLimit _ _ _
  rw [write]
  split
  · exact Transfer.yields_pure.2 (.refl h)
  refine (h.yields_writeAt hsum).bind ?_
  rintro ⟨front, volume₁⟩ disk₁ ⟨h₁, hchanges₁, hlaid₁⟩
  -- as far as the file has all places of the ring, the first part is in its place
  have hpart : ∀ bytes, volume.contents? disk i = some bytes →
      pipe.ringSize ≤ bytes.length → front = first ∧ ∃ bytes₁,
        volume₁.contents? disk₁ i = some bytes₁ ∧ bytes₁.length = bytes.length ∧
        ∀ k, ¬ (pipe.tail ≤ k ∧ k < pipe.tail + first) → bytes₁.getD k 0 = bytes.getD k 0 := by
    intro bytes hbytes hlength
    obtain ⟨hfront, hbytes₁⟩ := hlaid₁ bytes hbytes (by omega)
    refine ⟨hfront.trans hfirst, _, hbytes₁, Bytes.length_overlay (Nat.le_refl _) _ _, ?_⟩
    exact fun k hk => Bytes.getD_overlay_self (hfirst.symm ▸ hk)
  dsimp only at h₁ hchanges₁ ⊢
  split
  · next hmore =>
    refine (h₁.yields_writeAt hsum').bind ?_
    rintro ⟨back, volume₂⟩ disk₂ ⟨h₂, hchanges₂, hlaid₂⟩
    refine Transfer.yields_pure.2 ⟨⟨rfl, rfl, rfl⟩, ⟨h₂.intact, h₂.lists, hin.withTail _⟩,
      hchanges₁.trans hchanges₂, fun bytes hbytes hlength => ?_⟩
    obtain ⟨rfl, bytes₁, hbytes₁, hlength₁, hsame₁⟩ := hpart bytes hbytes hlength
    obtain ⟨hback, hbytes₂⟩ := hlaid₂ bytes₁ hbytes₁ (by omega)
    have hback : back = count - first := hback.trans hsecond
    have hmoved : first + back = count := by omega
    refine ⟨_, hbytes₂, ?_⟩
    dsimp only
    rw [hmoved]
    refine hin.passes_write (Nat.min_le_right _ _) ?_ hsame₁ fun k hk => ?_
    · rw [Bytes.length_overlay (Nat.le_refl _), hlength₁]
    · exact Bytes.getD_overlay_self fun hinside => hk (by omega)
  · next hall =>
    have hall : count ≤ first := Nat.le_of_not_lt hall
    rw [pure_bind]
    refine Transfer.yields_pure.2 ⟨⟨rfl, rfl, rfl⟩, ⟨h₁.intact, h₁.lists, hin.withTail _⟩,
      hchanges₁, fun bytes hbytes hlength => ?_⟩
    obtain ⟨rfl, bytes₁, hbytes₁, hlength₁, hsame₁⟩ := hpart bytes hbytes hlength
    have hmoved : first + 0 = count := Nat.le_antisymm (Nat.min_le_left _ _) hall
    refine ⟨bytes₁, hbytes₁, ?_⟩
    dsimp only
    rw [hmoved]
    exact hin.passes_write (Nat.min_le_right _ _) (Nat.le_of_eq hlength₁.symm) hsame₁ fun _ _ => rfl

end OnFile

/-! ## Steps on two disks -/

/-- The volume is alike on both disks, and the file of the pipe is in entry `i`. -/
structure OnBoth (pipe : Pipe) (volume : Volume) (left right : Disk) (lost lost' : List SectorId)
    (i : Fin numEntries) : Prop where
  /-- The file is on the one disk. -/
  onLeft : pipe.OnFile volume left lost i
  /-- The file is on the other disk. -/
  onRight : pipe.OnFile volume right lost' i
  /-- The volume is alike on both. -/
  alike : volume.AlikeOn left right

/-- What a step leaves behind on both disks. -/
structure MovedBoth (pipe : Pipe) (volume : Volume) (left right : Disk) (lost lost' : List SectorId)
    (i : Fin numEntries) (handed : Nat) (pipe' : Pipe) (volume' : Volume) (left' right' : Disk) :
    Prop where
  /-- What it leaves behind on the one disk. -/
  onLeft : pipe.Moved volume left lost i handed pipe' volume' left'
  /-- What it leaves behind on the other disk. -/
  onRight : pipe.Moved volume right lost' i handed pipe' volume' right'
  /-- The volume is alike on both. -/
  alike : volume'.AlikeOn left' right'

theorem MovedBoth.refl (h : pipe.OnBoth volume left right lost lost' i) :
    pipe.MovedBoth volume left right lost lost' i 0 pipe volume left right :=
  ⟨.refl h.onLeft, .refl h.onRight, h.alike⟩

/-- Pipes on both disks that move on twice move on by the bytes of both times. -/
theorem MovedBoth.trans
    (h : pipe.MovedBoth volume left right lost lost' i n pipe' volume' left' right')
    (h' : pipe'.MovedBoth volume' left' right' lost lost' i n' pipe'' volume'' left'' right'') :
    pipe.MovedBoth volume left right lost lost' i (n + n') pipe'' volume'' left'' right'' :=
  ⟨h.onLeft.trans h'.onLeft, h.onRight.trans h'.onRight, h'.alike⟩

/-- A pipe that moves on stays the pipe of its file on both disks. -/
theorem MovedBoth.onBoth
    (h : pipe.MovedBoth volume left right lost lost' i n pipe' volume' left' right') :
    pipe'.OnBoth volume' left' right' lost lost' i :=
  ⟨h.onLeft.onFile, h.onRight.onFile, h.alike⟩

/-- A disk is a pair of disks that are alike. -/
theorem OnFile.onBoth (h : pipe.OnFile volume disk lost i) :
    pipe.OnBoth volume disk disk lost lost i :=
  ⟨h, h, .refl h.intact⟩

/-- The number of bytes that an answer hands out. -/
def PeerAnswer.handed : PeerAnswer → Nat
  | .filled filling => filling.count
  | _ => 0

/-- The number of bytes that are handed out during a wait, of which the answer hands out as many as
`weight` says. -/
def Waited.handed {α : Type} (weight : α → Nat) (waited : Waited α) : Nat :=
  (waited.peer.map PeerAnswer.handed).sum + (waited.answer.map weight).getD 0

namespace OnBoth

/-- A read moves the pipe on alike on both disks. -/
theorem yieldsBoth_read (h : pipe.OnBoth volume left right lost lost' i) (buffer : Bytes) :
    (pipe.read buffer).YieldsBoth left right fun answer left' right' =>
      pipe.MovedBoth volume left right lost lost' i answer.1.count answer.2 volume left'
        right' := by
  have hlooks : (pipe.read buffer).YieldsBoth left right fun _ left' right' =>
      left' = left ∧ right' = right := by
    have hin := h.onLeft.inRing
    rw [read]
    split
    · exact Transfer.yieldsBoth_pure.2 ⟨rfl, rfl⟩
    refine (h.alike.yieldsBoth_readBytes h.onLeft.lists (hin.readFront_lt_sumLimit _)).bind ?_
    rintro front left₁ right₁ ⟨rfl, rfl⟩
    split
    · refine (h.alike.yieldsBoth_readBytes h.onLeft.lists (hin.readBack_lt_sumLimit _ _)).bind ?_
      rintro back left₂ right₂ ⟨rfl, rfl⟩
      exact Transfer.yieldsBoth_pure.2 ⟨rfl, rfl⟩
    · rw [pure_bind]
      exact Transfer.yieldsBoth_pure.2 ⟨rfl, rfl⟩
  refine (hlooks.and (h.onLeft.yields_read buffer) (h.onRight.yields_read buffer)).mono ?_
  rintro answer left' right' ⟨⟨rfl, rfl⟩, hleft, hright⟩
  exact ⟨hleft, hright, h.alike⟩

/-- A write moves the pipe on alike on both disks. -/
theorem yieldsBoth_write (h : pipe.OnBoth volume left right lost lost' i) (data : Bytes) :
    (pipe.write volume data).YieldsBoth left right fun answer left' right' =>
      pipe.MovedBoth volume left right lost lost' i 0 answer.2.1 answer.2.2 left' right' := by
  have halike : (pipe.write volume data).YieldsBoth left right fun answer left' right' =>
      answer.2.2.AlikeOn left' right' := by
    have hin := h.onLeft.inRing
    rw [write]
    split
    · exact Transfer.yieldsBoth_pure.2 h.alike
    refine (h.alike.yieldsBoth_writeAt h.onLeft.lists
      (hin.writeFront_lt_sumLimit _ data)).bind ?_
    rintro ⟨front, volume₁⟩ left₁ right₁ ⟨halike₁, hdirectory⟩
    have hlists₁ : volume₁.Lists pipe.file.headerSector i := by
      rw [Volume.Lists, hdirectory]
      exact h.onLeft.lists
    dsimp only at halike₁ ⊢
    split
    · refine (halike₁.yieldsBoth_writeAt hlists₁ (hin.writeBack_lt_sumLimit _ _ data)).bind ?_
      rintro ⟨back, volume₂⟩ left₂ right₂ ⟨halike₂, -⟩
      exact Transfer.yieldsBoth_pure.2 halike₂
    · rw [pure_bind]
      exact Transfer.yieldsBoth_pure.2 halike₁
  refine (halike.and (h.onLeft.yields_write data) (h.onRight.yields_write data)).mono ?_
  rintro answer left' right' ⟨halike', hleft, hright⟩
  exact ⟨hleft, hright, halike'⟩

/-- What another party does moves the pipe on alike on both disks. -/
theorem yieldsBoth_step (h : pipe.OnBoth volume left right lost lost' i) (step : PeerStep) :
    (pipe.step volume step).YieldsBoth left right fun answer left' right' =>
      pipe.MovedBoth volume left right lost lost' i answer.1.handed answer.2.1 answer.2.2 left'
        right' := by
  cases step with
  | read buffer =>
    refine (h.yieldsBoth_read buffer).bind ?_
    rintro ⟨filling, pipe'⟩ left' right' hmoved
    exact Transfer.yieldsBoth_pure.2 hmoved
  | write data =>
    refine (h.yieldsBoth_write data).bind ?_
    rintro ⟨count, pipe', volume'⟩ left' right' hmoved
    exact Transfer.yieldsBoth_pure.2 hmoved
  | inspect => exact Transfer.yieldsBoth_pure.2 (.refl h)

/-! ## Waiting on two disks -/

/-- Letting another party go first adds up what both move. -/
theorem yieldsBoth_letPeer {α : Type} (h : pipe.OnBoth volume left right lost lost' i)
    (step : PeerStep) (weight : α → Nat) {next : Pipe → Volume → Transfer (Waited α)}
    (hnext : ∀ pipe' volume' left' right', pipe'.OnBoth volume' left' right' lost lost' i →
      (next pipe' volume').YieldsBoth left' right' fun waited left'' right'' =>
        pipe'.MovedBoth volume' left' right' lost lost' i (waited.handed weight) waited.pipe
          waited.volume left'' right'') :
    (pipe.letPeer volume step next).YieldsBoth left right fun waited left' right' =>
      pipe.MovedBoth volume left right lost lost' i (waited.handed weight) waited.pipe waited.volume
        left' right' := by
  refine (h.yieldsBoth_step step).bind ?_
  rintro ⟨answer, pipe₁, volume₁⟩ left₁ right₁ hmoved₁
  refine (hnext pipe₁ volume₁ left₁ right₁ hmoved₁.onBoth).bind ?_
  rintro waited left₂ right₂ hmoved₂
  refine Transfer.yieldsBoth_pure.2 ?_
  have hsum : Waited.handed weight { waited with peer := answer :: waited.peer } =
      answer.handed + waited.handed weight := by
    rw [Waited.handed, Waited.handed, List.map_cons, List.sum_cons, Nat.add_assoc]
  rw [hsum]
  exact hmoved₁.trans hmoved₂

/-- A reader that waits for the first byte moves the pipe on alike on both disks. -/
theorem yieldsBoth_readWhenReady (h : pipe.OnBoth volume left right lost lost' i) (buffer : Bytes)
    (peer : List PeerStep) :
    (readWhenReady buffer peer pipe volume).YieldsBoth left right fun waited left' right' =>
      pipe.MovedBoth volume left right lost lost' i (waited.handed Filling.count) waited.pipe
        waited.volume left' right' := by
  induction peer generalizing pipe volume left right with
  | nil =>
    rw [readWhenReady]
    refine (h.yieldsBoth_read buffer).bind ?_
    rintro ⟨filling, pipe₁⟩ left₁ right₁ hmoved
    dsimp only at hmoved ⊢
    split
    · refine Transfer.yieldsBoth_pure.2 ?_
      rw [Waited.handed, List.map_nil, List.sum_nil, Nat.zero_add]
      exact hmoved
    · next hnone =>
      rw [Nat.eq_zero_of_not_pos hnone] at hmoved
      exact Transfer.yieldsBoth_pure.2 hmoved
  | cons step peer ih =>
    rw [readWhenReady]
    refine (h.yieldsBoth_read buffer).bind ?_
    rintro ⟨filling, pipe₁⟩ left₁ right₁ hmoved
    dsimp only at hmoved ⊢
    split
    · refine Transfer.yieldsBoth_pure.2 ?_
      rw [Waited.handed, List.map_nil, List.sum_nil, Nat.zero_add]
      exact hmoved
    · next hnone =>
      rw [Nat.eq_zero_of_not_pos hnone] at hmoved
      -- nothing was read, so the ring is where it was when the peer takes its step
      refine (hmoved.onBoth.yieldsBoth_letPeer step Filling.count fun _ _ _ _ h' => ih h').mono ?_
      rintro waited left₂ right₂ hmoved₂
      exact Nat.zero_add (waited.handed Filling.count) ▸ hmoved.trans hmoved₂

theorem yieldsBoth_readWaiting (h : pipe.OnBoth volume left right lost lost' i) (buffer : Bytes)
    (peer : List PeerStep) :
    (pipe.readWaiting volume buffer peer).YieldsBoth left right fun waited left' right' =>
      pipe.MovedBoth volume left right lost lost' i (waited.handed Filling.count) waited.pipe
        waited.volume left' right' := by
  rw [readWaiting]
  split
  · exact Transfer.yieldsBoth_pure.2 (.refl h)
  · exact h.yieldsBoth_readWhenReady buffer peer

/-- A writer that goes on until all is written moves the pipe on alike on both disks. -/
theorem yieldsBoth_writeFully (h : pipe.OnBoth volume left right lost lost' i) (rounds : Nat)
    (data : Bytes) :
    (writeFully rounds data pipe volume).YieldsBoth left right fun answer left' right' =>
      pipe.MovedBoth volume left right lost lost' i 0 answer.2.1 answer.2.2 left' right' := by
  induction rounds generalizing pipe volume left right data with
  | zero => exact Transfer.yieldsBoth_pure.2 (.refl h)
  | succ rounds ih =>
    rw [writeFully]
    split
    · exact Transfer.yieldsBoth_pure.2 (.refl h)
    refine (h.yieldsBoth_write data).bind ?_
    rintro ⟨count, pipe₁, volume₁⟩ left₁ right₁ hmoved
    dsimp only
    split
    · exact Transfer.yieldsBoth_pure.2 hmoved
    · refine (ih hmoved.onBoth _).mono ?_
      rintro answer left₂ right₂ hmoved₂
      exact hmoved.trans hmoved₂

/-- A writer that waits for room moves the pipe on alike on both disks. -/
theorem yieldsBoth_writeWhenReady (h : pipe.OnBoth volume left right lost lost' i) (total : Nat)
    (peer : List PeerStep) (data : Bytes) :
    (writeWhenReady total peer data pipe volume).YieldsBoth left right fun waited left' right' =>
      pipe.MovedBoth volume left right lost lost' i (waited.handed fun _ => 0) waited.pipe
        waited.volume left' right' := by
  induction peer generalizing pipe volume left right data with
  | nil =>
    rw [writeWhenReady]
    refine (h.yieldsBoth_writeFully _ data).bind ?_
    rintro ⟨rest, pipe₁, volume₁⟩ left₁ right₁ hmoved
    dsimp only
    split
    · exact Transfer.yieldsBoth_pure.2 hmoved
    · exact Transfer.yieldsBoth_pure.2 hmoved
  | cons step peer ih =>
    rw [writeWhenReady]
    refine (h.yieldsBoth_writeFully _ data).bind ?_
    rintro ⟨rest, pipe₁, volume₁⟩ left₁ right₁ hmoved
    dsimp only
    split
    · exact Transfer.yieldsBoth_pure.2 hmoved
    · refine (hmoved.onBoth.yieldsBoth_letPeer step (fun _ => 0)
        fun _ _ _ _ h' => ih h' rest).mono ?_
      rintro waited left₂ right₂ hmoved₂
      exact Nat.zero_add (waited.handed fun _ => 0) ▸ hmoved.trans hmoved₂

theorem yieldsBoth_writeWaiting (h : pipe.OnBoth volume left right lost lost' i) (data : Bytes)
    (peer : List PeerStep) :
    (pipe.writeWaiting volume data peer).YieldsBoth left right fun waited left' right' =>
      pipe.MovedBoth volume left right lost lost' i (waited.handed fun _ => 0) waited.pipe
        waited.volume left' right' :=
  h.yieldsBoth_writeWhenReady _ peer data

end OnBoth

/-! ## Steps and waits on one disk -/

namespace OnFile

/-- What another party does moves the pipe on by the bytes that it receives. -/
theorem yields_step (h : pipe.OnFile volume disk lost i) (step : PeerStep) :
    (pipe.step volume step).Yields disk fun answer disk' =>
      pipe.Moved volume disk lost i answer.1.handed answer.2.1 answer.2.2 disk' :=
  (h.onBoth.yieldsBoth_step step).self.mono fun _ _ hmoved => hmoved.onLeft

/-- A read that may wait moves the pipe on by all bytes that are received. -/
theorem yields_readWaiting (h : pipe.OnFile volume disk lost i) (buffer : Bytes)
    (peer : List PeerStep) :
    (pipe.readWaiting volume buffer peer).Yields disk fun waited disk' =>
      pipe.Moved volume disk lost i (waited.handed Filling.count) waited.pipe waited.volume disk' :=
  (h.onBoth.yieldsBoth_readWaiting buffer peer).self.mono fun _ _ hmoved => hmoved.onLeft

/-- A write that may wait moves the pipe on by the bytes that others receive. -/
theorem yields_writeWaiting (h : pipe.OnFile volume disk lost i) (data : Bytes)
    (peer : List PeerStep) :
    (pipe.writeWaiting volume data peer).Yields disk fun waited disk' =>
      pipe.Moved volume disk lost i (waited.handed fun _ => 0) waited.pipe waited.volume disk' :=
  (h.onBoth.yieldsBoth_writeWaiting data peer).self.mono fun _ _ hmoved => hmoved.onLeft

end OnFile

end SectorStore.Pipe
