import SectorStore.Pipe.Waiting
import SectorStore.Proofs.Volume.Entries

/-!
# Properties that last

Some facts about volumes and pipes hold through everything that is done with them, whatever the disk
holds. They follow from what the few operations that change a volume or a pipe always leave behind
(`Lasting`): steps on pipes and waits for them are put together from these.
-/

namespace SectorStore

open Transfer

/-- A property of volumes and one of pipes that new ones have and that no operation destroys, as
long as files are made under allowed names. -/
structure Lasting (allowed : String → Prop) (ofVolume : Volume → Prop) (ofPipe : Pipe → Prop) :
    Prop where
  /-- A volume has the property when it is laid out. -/
  format : ∀ numSectors, Grants ofVolume (Volume.format numSectors)
  /-- The clock has no part in the property. -/
  withClock : ∀ volume clock, ofVolume volume → ofVolume (volume.withClock clock)
  /-- Making a file under an allowed name keeps the property. -/
  create : ∀ volume name size, allowed name → ofVolume volume →
    Grants ofVolume (volume.create name size)
  /-- Removing a file keeps the property. -/
  remove : ∀ volume name, ofVolume volume → Grants ofVolume (volume.remove name)
  /-- Writing to a file keeps the property. -/
  writeAt : ∀ (file : OpenFile) volume offset data, ofVolume volume →
    (file.writeAt volume offset data).Always fun answer => ofVolume answer.2
  /-- The files of pipes have allowed names. -/
  fileName : ∀ ringSize number, allowed (Pipe.fileName ringSize number)
  /-- A pipe has the property when it is made. -/
  newPipe : ∀ name file size, size + 1 ≤ maxFileSize → ofPipe ⟨name, file, 0, 0, size + 1⟩
  /-- Reading keeps the property. -/
  moveHead : ∀ pipe moved, ofPipe pipe →
    ofPipe { pipe with head := (pipe.head + moved) % pipe.ringSize }
  /-- Writing keeps the property. -/
  moveTail : ∀ pipe moved, ofPipe pipe →
    ofPipe { pipe with tail := (pipe.tail + moved) % pipe.ringSize }

namespace Lasting

open Pipe

variable {allowed : String → Prop} {ofVolume : Volume → Prop} {ofPipe : Pipe → Prop}
  {pipe : Pipe} {volume : Volume}

/-! ## Steps -/

/-- A pipe keeps its property when it is read. -/
theorem read (h : Lasting allowed ofVolume ofPipe) (hpipe : ofPipe pipe) (buffer : Bytes) :
    (pipe.read buffer).Always fun answer => ofPipe answer.2 := by
  rw [Pipe.read]
  split
  · exact always_pure hpipe
  refine always_bind fun front => ?_
  dsimp only
  split
  · exact always_bind fun _ => always_pure (h.moveHead pipe _ hpipe)
  · exact always_bind fun _ => always_pure (h.moveHead pipe _ hpipe)

/-- A pipe and its volume keep their properties when it is written. -/
theorem write (h : Lasting allowed ofVolume ofPipe) (hpipe : ofPipe pipe)
    (hvolume : ofVolume volume) (data : Bytes) :
    (pipe.write volume data).Always fun answer => ofPipe answer.2.1 ∧ ofVolume answer.2.2 := by
  rw [Pipe.write]
  split
  · exact always_pure ⟨hpipe, hvolume⟩
  refine (h.writeAt _ _ _ _ hvolume).bind ?_
  rintro ⟨front, volume₁⟩ hvolume₁
  dsimp only
  split
  · exact (h.writeAt _ _ _ _ hvolume₁).bind fun _ hvolume₂ =>
      always_pure ⟨h.moveTail pipe _ hpipe, hvolume₂⟩
  · exact always_pure ⟨h.moveTail pipe _ hpipe, hvolume₁⟩

/-- What another party does keeps the properties. -/
theorem step (h : Lasting allowed ofVolume ofPipe) (hpipe : ofPipe pipe)
    (hvolume : ofVolume volume) (step : PeerStep) :
    (pipe.step volume step).Always fun answer => ofPipe answer.2.1 ∧ ofVolume answer.2.2 := by
  cases step with
  | read buffer =>
    exact (h.read hpipe buffer).bind fun _ hpipe' => always_pure ⟨hpipe', hvolume⟩
  | write data => exact (h.write hpipe hvolume data).bind fun _ hboth => always_pure hboth
  | inspect => exact always_pure ⟨hpipe, hvolume⟩

/-! ## Waits -/

/-- Letting another party go first keeps the properties. -/
theorem letPeer {α : Type} (h : Lasting allowed ofVolume ofPipe) (hpipe : ofPipe pipe)
    (hvolume : ofVolume volume) (step : PeerStep) {next : Pipe → Volume → Transfer (Waited α)}
    (hnext : ∀ pipe' volume', ofPipe pipe' → ofVolume volume' →
      (next pipe' volume').Always fun waited => ofPipe waited.pipe ∧ ofVolume waited.volume) :
    (pipe.letPeer volume step next).Always fun waited =>
      ofPipe waited.pipe ∧ ofVolume waited.volume := by
  refine (h.step hpipe hvolume step).bind ?_
  rintro ⟨answer, pipe', volume'⟩ ⟨hpipe', hvolume'⟩
  exact (hnext pipe' volume' hpipe' hvolume').bind fun _ hwaited => always_pure hwaited

theorem readWhenReady (h : Lasting allowed ofVolume ofPipe) (hpipe : ofPipe pipe)
    (hvolume : ofVolume volume) (buffer : Bytes) (peer : List PeerStep) :
    (Pipe.readWhenReady buffer peer pipe volume).Always fun waited =>
      ofPipe waited.pipe ∧ ofVolume waited.volume := by
  induction peer generalizing pipe volume with
  | nil =>
    rw [Pipe.readWhenReady]
    refine (h.read hpipe buffer).bind fun answer hpipe' => ?_
    dsimp only
    split
    · exact always_pure ⟨hpipe', hvolume⟩
    · exact always_pure ⟨hpipe', hvolume⟩
  | cons step peer ih =>
    rw [Pipe.readWhenReady]
    refine (h.read hpipe buffer).bind fun answer hpipe' => ?_
    dsimp only
    split
    · exact always_pure ⟨hpipe', hvolume⟩
    · exact h.letPeer hpipe' hvolume step fun _ _ => ih

/-- A read that may wait keeps the properties. -/
theorem readWaiting (h : Lasting allowed ofVolume ofPipe) (hpipe : ofPipe pipe)
    (hvolume : ofVolume volume) (buffer : Bytes) (peer : List PeerStep) :
    (pipe.readWaiting volume buffer peer).Always fun waited =>
      ofPipe waited.pipe ∧ ofVolume waited.volume := by
  rw [Pipe.readWaiting]
  split
  · exact always_pure ⟨hpipe, hvolume⟩
  · exact h.readWhenReady hpipe hvolume buffer peer

/-- However many rounds it takes, a writer keeps the properties. -/
theorem writeFully (h : Lasting allowed ofVolume ofPipe) (hpipe : ofPipe pipe)
    (hvolume : ofVolume volume) (rounds : Nat) (data : Bytes) :
    (Pipe.writeFully rounds data pipe volume).Always fun answer =>
      ofPipe answer.2.1 ∧ ofVolume answer.2.2 := by
  induction rounds generalizing pipe volume data with
  | zero => exact always_pure ⟨hpipe, hvolume⟩
  | succ rounds ih =>
    rw [Pipe.writeFully]
    split
    · exact always_pure ⟨hpipe, hvolume⟩
    refine (h.write hpipe hvolume data).bind fun answer hboth => ?_
    dsimp only
    split
    · exact always_pure hboth
    · exact ih hboth.1 hboth.2 _

theorem writeWhenReady (h : Lasting allowed ofVolume ofPipe) (hpipe : ofPipe pipe)
    (hvolume : ofVolume volume) (total : Nat) (peer : List PeerStep) (data : Bytes) :
    (Pipe.writeWhenReady total peer data pipe volume).Always fun waited =>
      ofPipe waited.pipe ∧ ofVolume waited.volume := by
  induction peer generalizing pipe volume data with
  | nil =>
    rw [Pipe.writeWhenReady]
    refine (h.writeFully hpipe hvolume _ data).bind fun answer hboth => ?_
    dsimp only
    split
    · exact always_pure hboth
    · exact always_pure hboth
  | cons step peer ih =>
    rw [Pipe.writeWhenReady]
    refine (h.writeFully hpipe hvolume _ data).bind fun answer hboth => ?_
    dsimp only
    split
    · exact always_pure hboth
    · exact h.letPeer hboth.1 hboth.2 step fun _ _ hpipe' hvolume' => ih hpipe' hvolume' _

/-- A write that may wait keeps the properties. -/
theorem writeWaiting (h : Lasting allowed ofVolume ofPipe) (hpipe : ofPipe pipe)
    (hvolume : ofVolume volume) (data : Bytes) (peer : List PeerStep) :
    (pipe.writeWaiting volume data peer).Always fun waited =>
      ofPipe waited.pipe ∧ ofVolume waited.volume :=
  h.writeWhenReady hpipe hvolume _ peer data

/-! ## Making and dropping -/

/-- A new pipe has its property, and its volume keeps its own. -/
theorem make (h : Lasting allowed ofVolume ofPipe) (hvolume : ofVolume volume) (number size : Nat) :
    (Pipe.make volume number size).Always fun answer =>
      ∀ pipe volume', answer.1 = .ok (pipe, volume') → ofPipe pipe ∧ ofVolume volume' := by
  rw [Pipe.make]
  split
  · exact always_pure nofun
  refine (always_checkedAdd size 1).bind ?_
  rintro _ ⟨-, rfl⟩
  refine Always.bind (p := fun answer => ∀ made, answer = .ok made →
    ofPipe made.1 ∧ ofVolume made.2) ?_ fun answer hanswer =>
      always_pure fun pipe volume' hok => hanswer (pipe, volume') hok
  show Grants (fun made : Pipe × Volume => ofPipe made.1 ∧ ofVolume made.2) _
  have hcreate := (h.create volume _ (size + 1) (h.fileName (size + 1) number) hvolume).and
    (Volume.grants_create volume _ (size + 1))
  refine hcreate.bind fun volume' ⟨hvolume', hsize, _⟩ => ?_
  exact grants_bind fun file => grants_pure ⟨h.newPipe _ file size hsize, hvolume'⟩

/-- A volume keeps its property when a pipe is dropped. -/
theorem drop (h : Lasting allowed ofVolume ofPipe) (hvolume : ofVolume volume) (pipe : Pipe) :
    (pipe.drop volume).Always ofVolume := by
  refine Always.bind (h.remove volume pipe.name hvolume) ?_
  rintro (cause | volume') hvolume'
  · exact always_pure hvolume
  · exact always_pure (hvolume' volume' rfl)

end Lasting

end SectorStore
