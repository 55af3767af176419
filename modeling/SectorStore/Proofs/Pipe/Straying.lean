import SectorStore.Proofs.Pipe.Steps
import SectorStore.Proofs.Volume.Dormant

/-!
# Pipes whose files were removed

A property of a pipe, its volume and the disk is an `Invariant` of pipes if reading and writing keep
it; for this it is enough that the accesses to the file of the pipe do (`Invariant.of_file`). Then
steps and waits keep it too (`Invariant.yields_step`, `Invariant.yields_readWaiting`,
`Invariant.yields_writeWaiting`).

A pipe whose file was removed goes on working on the dormant file, and its writes only stray
(`invariant_strayed`).
-/

namespace SectorStore.Pipe

variable {pipe pipe' : Pipe} {volume volume' : Volume} {disk disk' : Disk}
  {holds : Pipe → Volume → Disk → Prop}

/-- Reading and writing a pipe run through and keep the property. -/
structure Invariant (holds : Pipe → Volume → Disk → Prop) : Prop where
  /-- Reading keeps it. -/
  read : ∀ {pipe volume disk}, holds pipe volume disk → ∀ buffer,
    (pipe.read buffer).Yields disk fun answer disk' => holds answer.2 volume disk'
  /-- Writing keeps it. -/
  write : ∀ {pipe volume disk}, holds pipe volume disk → ∀ data,
    (pipe.write volume data).Yields disk fun answer disk' => holds answer.2.1 answer.2.2 disk'

namespace Invariant

/-- A property of pipes that keep to their rings is an invariant, if reading the file of a pipe and
writing it within the places of the ring keeps it, and it does not matter where in the ring head and
tail are. -/
theorem of_file
    (inRing : ∀ {pipe volume disk}, holds pipe volume disk → pipe.InRing)
    (move : ∀ {pipe pipe' volume disk}, holds pipe volume disk → pipe.Continues pipe' →
      pipe'.InRing → holds pipe' volume disk)
    (readBytes : ∀ {pipe volume disk offset count}, holds pipe volume disk →
      offset + count < sumLimit →
      (pipe.file.readBytes offset count).Yields disk fun _ disk' => disk' = disk)
    (writeAt : ∀ {pipe volume disk offset data}, holds pipe volume disk →
      offset + data.length < sumLimit → offset + data.length ≤ pipe.ringSize →
      (pipe.file.writeAt volume offset data).Yields disk fun answer disk' =>
        holds pipe answer.2 disk') : Invariant holds where
  read := by
    intro pipe volume disk h buffer
    refine ((inRing h).yields_read (readBytes h) buffer).mono ?_
    rintro answer _ ⟨rfl, hcontinues, hin⟩
    exact move h hcontinues hin
  write := by
    intro pipe volume disk h data
    have hin := inRing h
    have htail := hin.tail_lt
    have hroom : pipe.room ≤ pipe.ringSize := Nat.le_trans (Nat.sub_le _ _) (Nat.sub_le _ _)
    rw [Pipe.write]
    split
    · exact Transfer.yields_pure.2 h
    -- the first part ends with the ring at the latest
    refine (writeAt h (hin.writeFront_lt_sumLimit _ data) ?_).bind ?_
    · rw [List.length_take]
      omega
    rintro ⟨front, volume₁⟩ disk₁ h₁
    dsimp only
    split
    · -- and the second part is no longer than the room
      refine (writeAt h₁ (hin.writeBack_lt_sumLimit _ _ data) ?_).bind ?_
      · rw [Bytes.slice, List.length_take]
        omega
      rintro ⟨back, volume₂⟩ disk₂ h₂
      exact Transfer.yields_pure.2 (move h₂ ⟨rfl, rfl, rfl⟩ (hin.withTail _))
    · rw [pure_bind]
      exact Transfer.yields_pure.2 (move h₁ ⟨rfl, rfl, rfl⟩ (hin.withTail _))

/-- What another party does keeps the invariant. -/
theorem yields_step (hinv : Invariant holds) (h : holds pipe volume disk) (step : PeerStep) :
    (pipe.step volume step).Yields disk fun answer disk' =>
      holds answer.2.1 answer.2.2 disk' := by
  cases step with
  | read buffer =>
    exact (hinv.read h buffer).bind fun _ _ h' => Transfer.yields_pure.2 h'
  | write data =>
    exact (hinv.write h data).bind fun _ _ h' => Transfer.yields_pure.2 h'
  | inspect => exact Transfer.yields_pure.2 h

/-- Letting another party go first keeps the invariant. -/
theorem yields_letPeer {α : Type} (hinv : Invariant holds) (h : holds pipe volume disk)
    (step : PeerStep) {next : Pipe → Volume → Transfer (Waited α)}
    (hnext : ∀ pipe' volume' disk', holds pipe' volume' disk' →
      (next pipe' volume').Yields disk' fun waited disk'' =>
        holds waited.pipe waited.volume disk'') :
    (pipe.letPeer volume step next).Yields disk fun waited disk' =>
      holds waited.pipe waited.volume disk' := by
  refine (hinv.yields_step h step).bind ?_
  rintro ⟨answer, pipe₁, volume₁⟩ disk₁ h₁
  exact (hnext pipe₁ volume₁ disk₁ h₁).bind fun _ _ h' => Transfer.yields_pure.2 h'

theorem yields_readWhenReady (hinv : Invariant holds) (h : holds pipe volume disk) (buffer : Bytes)
    (peer : List PeerStep) :
    (readWhenReady buffer peer pipe volume).Yields disk fun waited disk' =>
      holds waited.pipe waited.volume disk' := by
  induction peer generalizing pipe volume disk with
  | nil =>
    rw [readWhenReady]
    refine (hinv.read h buffer).bind fun answer disk₁ h₁ => ?_
    dsimp only
    split <;> exact Transfer.yields_pure.2 h₁
  | cons step peer ih =>
    rw [readWhenReady]
    refine (hinv.read h buffer).bind fun answer disk₁ h₁ => ?_
    dsimp only
    split
    · exact Transfer.yields_pure.2 h₁
    · exact hinv.yields_letPeer h₁ step fun _ _ _ => ih

/-- A read that may wait keeps the invariant. -/
theorem yields_readWaiting (hinv : Invariant holds) (h : holds pipe volume disk) (buffer : Bytes)
    (peer : List PeerStep) :
    (pipe.readWaiting volume buffer peer).Yields disk fun waited disk' =>
      holds waited.pipe waited.volume disk' := by
  rw [readWaiting]
  split
  · exact Transfer.yields_pure.2 h
  · exact hinv.yields_readWhenReady h buffer peer

/-- However many rounds it takes, a writer keeps the invariant. -/
theorem yields_writeFully (hinv : Invariant holds) (h : holds pipe volume disk) (rounds : Nat)
    (data : Bytes) :
    (writeFully rounds data pipe volume).Yields disk fun answer disk' =>
      holds answer.2.1 answer.2.2 disk' := by
  induction rounds generalizing pipe volume disk data with
  | zero => exact Transfer.yields_pure.2 h
  | succ rounds ih =>
    rw [writeFully]
    split
    · exact Transfer.yields_pure.2 h
    refine (hinv.write h data).bind fun answer disk₁ h₁ => ?_
    dsimp only
    split
    · exact Transfer.yields_pure.2 h₁
    · exact ih h₁ _

theorem yields_writeWhenReady (hinv : Invariant holds) (h : holds pipe volume disk) (total : Nat)
    (peer : List PeerStep) (data : Bytes) :
    (writeWhenReady total peer data pipe volume).Yields disk fun waited disk' =>
      holds waited.pipe waited.volume disk' := by
  induction peer generalizing pipe volume disk data with
  | nil =>
    rw [writeWhenReady]
    refine (hinv.yields_writeFully h _ data).bind fun answer disk₁ h₁ => ?_
    dsimp only
    split <;> exact Transfer.yields_pure.2 h₁
  | cons step peer ih =>
    rw [writeWhenReady]
    refine (hinv.yields_writeFully h _ data).bind fun answer disk₁ h₁ => ?_
    dsimp only
    split
    · exact Transfer.yields_pure.2 h₁
    · exact hinv.yields_letPeer h₁ step fun _ _ _ h' => ih h' _

/-- A write that may wait keeps the invariant. -/
theorem yields_writeWaiting (hinv : Invariant holds) (h : holds pipe volume disk) (data : Bytes)
    (peer : List PeerStep) :
    (pipe.writeWaiting volume data peer).Yields disk fun waited disk' =>
      holds waited.pipe waited.volume disk' :=
  hinv.yields_writeWhenReady h _ peer data

end Invariant

/-! ## Removed files -/

/-- The pipe has moved on in its ring, and at most its removed file was written. -/
def Strayed (pipe : Pipe) (volume : Volume) (disk : Disk) (header : FileHeader) (pipe' : Pipe)
    (volume' : Volume) (disk' : Disk) : Prop :=
  pipe.Continues pipe' ∧ pipe'.InRing ∧ ∃ lost' header',
    volume.Strays disk pipe.file.headerSector header volume' disk' lost' header'

variable {header : FileHeader}

/-- A pipe that is left alone has not strayed further. -/
theorem Strayed.refl {lost : List SectorId} (hin : pipe.InRing)
    (h : volume.Dormant disk pipe.file.headerSector header) (hintact : volume.Intact disk lost)
    (hflushed : volume.Flushed disk) : pipe.Strayed volume disk header pipe volume disk :=
  ⟨.refl _, hin, lost, header, .refl h hintact hflushed⟩

/-- A pipe goes on working on its removed file. -/
theorem invariant_strayed (pipe : Pipe) (volume : Volume) (disk : Disk) (header : FileHeader) :
    Invariant (pipe.Strayed volume disk header) := by
  refine .of_file (fun h => h.2.1) ?_ ?_ ?_
  · rintro pipe' pipe'' volume' disk' ⟨hcontinues, -, hstrays⟩ hcontinues' hin
    exact ⟨hcontinues.trans hcontinues', hin, hstrays⟩
  · rintro pipe' volume' disk' offset count ⟨hcontinues, -, lost', header', hstrays⟩ hsum
    have hfile := congrArg OpenFile.headerSector hcontinues.file_eq
    exact hstrays.dormant.yields_readBytes hfile hsum
  · -- one write strays after the other
    rintro pipe' volume' disk' offset data ⟨hcontinues, hin, lost', header', hstrays⟩ hsum -
    have hfile := congrArg OpenFile.headerSector hcontinues.file_eq
    refine (hstrays.dormant.yields_writeAt hstrays.intact hstrays.flushed hfile hsum).mono ?_
    rintro answer disk'' ⟨lost'', header'', hstrays', -, -⟩
    exact ⟨hcontinues, hin, lost'', header'', hstrays.trans hstrays'⟩

end SectorStore.Pipe
