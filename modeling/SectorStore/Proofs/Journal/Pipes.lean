import SectorStore.Proofs.Journal.Stamps
import SectorStore.Proofs.Pipe.Making
import SectorStore.Proofs.Pipe.Steps

/-!
# Journals of pipes

A pipe on a file of a told volume stays one, whatever is read from it and written to it, and however
long it is waited for: each part of each write is in the journal if it has changed the file
(`IsTold.records_step`, `IsTold.records_readWaiting`, `IsTold.records_writeWaiting`). Making a pipe
is the making of its file (`Told.yields_make`), and dropping one is no event (`Told.yields_drop`).
-/

namespace SectorStore

open Journaling

variable {pipe : Pipe} {volume : Volume} {disk : Disk} {lost : List SectorId} {sector : SectorId}
  {readings : Nat → String} {start journal : Journal}

namespace Pipe

/-- The pipe is on a file in the directory, and the volume is told by a journal that has gone on
from an earlier one with changes of that file only. -/
structure IsTold (pipe : Pipe) (volume : Volume) (disk : Disk) (lost : List SectorId)
    (sector : SectorId) (readings : Nat → String) (start journal : Journal) : Prop where
  /-- The pipe is on the file. -/
  headerSector_eq : pipe.file.headerSector = sector
  /-- The volume is intact, and the file is in the directory. -/
  exists_onFile : ∃ i, pipe.OnFile volume disk lost i
  /-- The volume is told by the journal. -/
  told : volume.Told disk readings journal
  /-- The journal has gone on. -/
  goes_on : start.GoesOn journal (· = .changed sector)

namespace IsTold

/-- A pipe of which the journal tells is in its ring. -/
theorem inRing (h : pipe.IsTold volume disk lost sector readings start journal) : pipe.InRing :=
  h.exists_onFile.choose_spec.inRing

/-- Head and tail have no part in it while they stay in the ring. -/
theorem move (h : pipe.IsTold volume disk lost sector readings start journal) {pipe' : Pipe}
    (hcontinues : pipe.Continues pipe') (hin : pipe'.InRing) :
    pipe'.IsTold volume disk lost sector readings start journal where
  headerSector_eq := hcontinues.file_eq ▸ h.headerSector_eq
  exists_onFile := h.exists_onFile.imp fun _ honFile => honFile.move hcontinues hin
  told := h.told
  goes_on := h.goes_on

/-- A read is nothing that the journal tells. -/
theorem yields_read (h : pipe.IsTold volume disk lost sector readings start journal)
    (buffer : Bytes) :
    (pipe.read buffer).Yields disk fun answer disk' =>
      answer.2.IsTold volume disk' lost sector readings start journal := by
  obtain ⟨i, honFile⟩ := h.exists_onFile
  refine (honFile.inRing.yields_read honFile.yields_readBytes buffer).mono ?_
  rintro answer _ ⟨rfl, hcontinues, hin⟩
  exact h.move hcontinues hin

/-- Reading is no event. -/
theorem records_read (h : pipe.IsTold volume disk lost sector readings start journal)
    (buffer : Bytes) :
    Records (liftM (pipe.read buffer)) (pipe.read buffer) disk journal
      fun answer journal' disk' =>
        answer.2.IsTold volume disk' lost sector readings start journal' :=
  records_lift (h.yields_read buffer)

/-- A write to the ring is told with the time that it read. -/
theorem records_writeAt (h : pipe.IsTold volume disk lost sector readings start journal)
    {offset : Nat} {data : Bytes} (hsum : offset + data.length < sumLimit) :
    Records (Journaling.writeAt pipe.file volume offset data)
      (pipe.file.writeAt volume offset data) disk journal fun answer journal' disk' =>
        pipe.IsTold answer.2 disk' lost sector readings start journal' := by
  obtain ⟨i, honFile⟩ := h.exists_onFile
  refine (h.told.records_writeAt honFile.intact honFile.lists hsum).mono ?_
  rintro answer journal' disk' ⟨hintact, hlists, htold, hgoes⟩
  rw [h.headerSector_eq] at hgoes
  exact ⟨h.headerSector_eq, ⟨i, hintact, hlists, h.inRing⟩, htold, h.goes_on.trans hgoes⟩

/-- Both parts of a write that goes around the end of the ring are noted. -/
theorem records_write (h : pipe.IsTold volume disk lost sector readings start journal)
    (data : Bytes) :
    Records (writePipe pipe volume data) (pipe.write volume data) disk journal
      fun answer journal' disk' =>
        answer.2.1.IsTold answer.2.2 disk' lost sector readings start journal' := by
  have hin := h.inRing
  rw [writePipe, Pipe.write]
  split
  · exact records_pure h
  refine (h.records_writeAt (hin.writeFront_lt_sumLimit _ _)).bind ?_
  rintro ⟨front, volume₁⟩ journal₁ disk₁ h₁
  dsimp only
  split
  · refine (h₁.records_writeAt (hin.writeBack_lt_sumLimit _ _ _)).bind ?_
    rintro ⟨back, volume₂⟩ journal₂ disk₂ h₂
    exact records_pure (h₂.move ⟨rfl, rfl, rfl⟩ (hin.withTail _))
  · exact records_pure (h₁.move ⟨rfl, rfl, rfl⟩ (hin.withTail _))

/-- What another party does is told. -/
theorem records_step (h : pipe.IsTold volume disk lost sector readings start journal)
    (peerStep : PeerStep) :
    Records (Journaling.step pipe volume peerStep) (pipe.step volume peerStep) disk journal
      fun answer journal' disk' =>
        answer.2.1.IsTold answer.2.2 disk' lost sector readings start journal' := by
  cases peerStep with
  | read buffer =>
    exact (h.records_read buffer).bind fun _ _ _ h' => records_pure h'
  | write data => exact (h.records_write data).bind fun _ _ _ h' => records_pure h'
  | inspect => exact records_pure h

/-! ## Waits -/

/-- Letting another party go first is told in this order. -/
theorem records_letPeer {α : Type} (h : pipe.IsTold volume disk lost sector readings start journal)
    (peerStep : PeerStep) {next : Pipe → Volume → Journaling (Waited α)}
    {next' : Pipe → Volume → Transfer (Waited α)}
    (hnext : ∀ pipe' volume' journal' disk',
      pipe'.IsTold volume' disk' lost sector readings start journal' →
      Records (next pipe' volume') (next' pipe' volume') disk' journal'
        fun waited journal'' disk'' =>
          waited.pipe.IsTold waited.volume disk'' lost sector readings start journal'') :
    Records (Journaling.letPeer pipe volume peerStep next) (pipe.letPeer volume peerStep next') disk
      journal fun waited journal' disk' =>
        waited.pipe.IsTold waited.volume disk' lost sector readings start journal' := by
  refine (h.records_step peerStep).bind ?_
  rintro ⟨answer, pipe₁, volume₁⟩ journal₁ disk₁ h₁
  exact (hnext pipe₁ volume₁ journal₁ disk₁ h₁).bind fun _ _ _ h' => records_pure h'

theorem records_readWhenReady (h : pipe.IsTold volume disk lost sector readings start journal)
    (buffer : Bytes) (peer : List PeerStep) :
    Records (Journaling.readWhenReady buffer peer pipe volume)
      (Pipe.readWhenReady buffer peer pipe volume) disk journal fun waited journal' disk' =>
        waited.pipe.IsTold waited.volume disk' lost sector readings start journal' := by
  -- each step of the peer hands the invariant on to the rest of the wait
  induction peer generalizing pipe volume disk journal with
  | nil =>
    rw [Journaling.readWhenReady, Pipe.readWhenReady]
    refine (h.records_read buffer).bind fun answer journal₁ disk₁ h₁ => ?_
    dsimp only
    split <;> exact records_pure h₁
  | cons peerStep peer ih =>
    rw [Journaling.readWhenReady, Pipe.readWhenReady]
    refine (h.records_read buffer).bind fun answer journal₁ disk₁ h₁ => ?_
    dsimp only
    split
    · exact records_pure h₁
    · exact h₁.records_letPeer peerStep fun _ _ _ _ => ih

/-- A read that may wait tells what the others do. -/
theorem records_readWaiting (h : pipe.IsTold volume disk lost sector readings start journal)
    (buffer : Bytes) (peer : List PeerStep) :
    Records (Journaling.readWaiting pipe volume buffer peer) (pipe.readWaiting volume buffer peer)
      disk journal fun waited journal' disk' =>
        waited.pipe.IsTold waited.volume disk' lost sector readings start journal' := by
  rw [Journaling.readWaiting, Pipe.readWaiting]
  split
  · exact records_pure h
  · exact h.records_readWhenReady buffer peer

/-- Each round of a writer is told. -/
theorem records_writeFully (h : pipe.IsTold volume disk lost sector readings start journal)
    (rounds : Nat) (data : Bytes) :
    Records (Journaling.writeFully rounds data pipe volume)
      (Pipe.writeFully rounds data pipe volume) disk journal fun answer journal' disk' =>
        answer.2.1.IsTold answer.2.2 disk' lost sector readings start journal' := by
  induction rounds generalizing pipe volume disk journal data with
  | zero => exact records_pure h
  | succ rounds ih =>
    rw [Journaling.writeFully, Pipe.writeFully]
    split
    · exact records_pure h
    refine (h.records_write data).bind fun answer journal₁ disk₁ h₁ => ?_
    dsimp only
    split
    · exact records_pure h₁
    · exact ih h₁ _

theorem records_writeWhenReady (h : pipe.IsTold volume disk lost sector readings start journal)
    (total : Nat) (peer : List PeerStep) (data : Bytes) :
    Records (Journaling.writeWhenReady total peer data pipe volume)
      (Pipe.writeWhenReady total peer data pipe volume) disk journal fun waited journal' disk' =>
        waited.pipe.IsTold waited.volume disk' lost sector readings start journal' := by
  induction peer generalizing pipe volume disk journal data with
  | nil =>
    rw [Journaling.writeWhenReady, Pipe.writeWhenReady]
    refine (h.records_writeFully _ data).bind fun answer journal₁ disk₁ h₁ => ?_
    dsimp only
    split <;> exact records_pure h₁
  | cons peerStep peer ih =>
    rw [Journaling.writeWhenReady, Pipe.writeWhenReady]
    refine (h.records_writeFully _ data).bind fun answer journal₁ disk₁ h₁ => ?_
    dsimp only
    split
    · exact records_pure h₁
    · exact h₁.records_letPeer peerStep fun _ _ _ _ h' => ih h' _

/-- A write that may wait tells its own rounds and what the others do. -/
theorem records_writeWaiting (h : pipe.IsTold volume disk lost sector readings start journal)
    (data : Bytes) (peer : List PeerStep) :
    Records (Journaling.writeWaiting pipe volume data peer) (pipe.writeWaiting volume data peer)
      disk journal fun waited journal' disk' =>
        waited.pipe.IsTold waited.volume disk' lost sector readings start journal' :=
  h.records_writeWhenReady _ peer data

end IsTold

end Pipe

/-! ## Making and dropping -/

namespace Volume.Told

/-- A pipe that is made has made its file. -/
theorem yields_make (h : volume.Told disk readings journal) (hintact : volume.Intact disk lost)
    (number : Nat) {size : Nat} (hsum : size + 1 < sumLimit) :
    (Pipe.make volume number size).Yields disk fun answer disk' =>
      ∀ pipe volume', answer.1 = .ok (pipe, volume') → ∃ sector map,
        volume.freeMap.take? = some (sector, map) ∧
          volume'.Told disk' readings (journal ++ [.made sector pipe.name]) := by
  have hcreate := (h.yields_create hintact (Pipe.fileName (size + 1) number) (size + 1)).mono
    fun answer disk' houtcome volume' (heq : answer = .ok volume') => by
      rw [heq] at houtcome
      exact houtcome
  refine (Pipe.yields_make_of_create hsum hcreate).mono ?_
  intro answer disk' hmade pipe volume' heq
  obtain ⟨hname, sector, map, htake, htold⟩ := hmade pipe volume' heq
  exact ⟨sector, map, htake, hname ▸ htold⟩

/-- A pipe is dropped without an event. -/
theorem yields_drop (h : volume.Told disk readings journal) (hintact : volume.Intact disk lost)
    (pipe : Pipe) :
    (pipe.drop volume).Yields disk fun volume' disk' => volume'.Told disk' readings journal := by
  refine (h.yields_remove hintact pipe.name).bind ?_
  rintro (cause | volume') disk' houtcome
  · obtain rfl : disk' = disk := houtcome
    exact Transfer.yields_pure.2 h
  · exact Transfer.yields_pure.2 houtcome

end Volume.Told

end SectorStore
