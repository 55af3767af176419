import SectorStore.Proofs.Pipe.InPlace
import SectorStore.Proofs.Session.Attempts
import SectorStore.Proofs.Session.Queueing

/-!
# Pipes leave no trace

A pipe is a file for as long as it lives. It is made, or nothing happens; a pipe that is only used
and then dropped has left the free map and the names as they were; a pipe that is dropped at any
other time gives back the sectors of its file and leaves all other files alone; and no two attempts
to make a pipe are under one name. `pipes_leave_no_trace` puts the four together.

The third holds as long as files are made under names without zero bytes. A name is cut at its first
zero byte, so another file can come to have the name of a pipe, and as a pipe is dropped by name, it
may be this file that goes (`dropPipe_removes_other`).
-/

namespace SectorStore

variable {session session' : Session} {volume volume' : Volume} {disk disk' : Disk}
  {lost : List SectorId} {volumeSlot slot : Slot} {i j : Fin numEntries} {pipe : Pipe}
  {request : Request} {requests : List Request} {size : Nat}

/-! ## Using a pipe -/

namespace Pipe.Invariant

variable {holds : Pipe → Volume → Disk → Prop}

/-- Every use of a pipe keeps what reading and writing it keep. -/
theorem yields_perform (hinv : Invariant holds)
    (hin : session.pipeIn? slot = some (⟨0, pipe⟩, volume)) (h : holds pipe volume disk)
    (huses : request.UsesPipe slot) :
    (session.perform request).Yields disk fun answer disk' => ∃ pipe' volume',
      answer.2 = session.updatePipe slot ⟨0, pipe⟩ pipe' volume' ∧ holds pipe' volume' disk' := by
  have honPipe : ∀ act, session.onPipe slot act = act ⟨0, pipe⟩ volume := by
    intro act
    rw [Session.onPipe, hin]
  cases request with
  | stepPipe other step =>
    obtain rfl : other = slot := huses
    rw [Session.perform, honPipe]
    refine (hinv.yields_step h step).bind ?_
    rintro ⟨answer, pipe', volume'⟩ disk' h'
    exact Transfer.yields_pure.2 ⟨pipe', volume', rfl, h'⟩
  | readWaiting other buffer peer =>
    obtain rfl : other = slot := huses
    rw [Session.perform, honPipe]
    refine (hinv.yields_readWaiting h buffer peer).bind fun waited disk' h' => ?_
    exact Transfer.yields_pure.2 ⟨waited.pipe, waited.volume, rfl, h'⟩
  | writeWaiting other data peer =>
    obtain rfl : other = slot := huses
    rw [Session.perform, honPipe]
    refine (hinv.yields_writeWaiting h data peer).bind fun waited disk' h' => ?_
    exact Transfer.yields_pure.2 ⟨waited.pipe, waited.volume, rfl, h'⟩
  | _ => exact huses.elim

/-- So does any list of uses. -/
theorem yields_performAll (hinv : Invariant holds) (hvolumes : session.volumes = #[volume])
    (hpipes : session.pipes[slot]? = some ⟨0, pipe⟩) (h : holds pipe volume disk)
    (huses : ∀ request ∈ requests, request.UsesPipe slot) :
    (session.performAll requests).Yields disk fun answer disk' => ∃ pipe' volume',
      answer.2.volumes = #[volume'] ∧ answer.2.pipes[slot]? = some ⟨0, pipe'⟩ ∧
        holds pipe' volume' disk' := by
  induction requests generalizing session volume pipe disk with
  | nil => exact Transfer.yields_pure.2 ⟨pipe, volume, hvolumes, hpipes, h⟩
  | cons request others ih =>
    obtain ⟨hrequest, hothers⟩ := List.forall_mem_cons.1 huses
    have hin := Session.pipeIn?_of_eq hvolumes hpipes
    refine (hinv.yields_perform hin h hrequest).bind ?_
    rintro ⟨answer, _⟩ disk₁ ⟨pipe₁, volume₁, rfl, h₁⟩
    -- the pipe is in its slot again, and its volume is still the only one
    have hpipes₁ := Session.getElem?_pipes_updatePipe session slot ⟨0, pipe⟩ pipe₁ volume₁
    refine (ih (Session.volumes_updatePipe hvolumes rfl ..) hpipes₁ h₁ hothers).bind ?_
    intro _ _ houtcome
    exact Transfer.yields_pure.2 houtcome

end Pipe.Invariant

/-! ## Dropping a pipe -/

/-- The file in entry `i`, which had `count` sectors with that of its header, is gone, and all else
is as it was. -/
structure Volume.LosesOnly (volume : Volume) (disk : Disk) (i : Fin numEntries) (count : Nat)
    (volume' : Volume) (disk' : Disk) : Prop where
  /-- The entry is unused, and the others are as before. -/
  directory_eq : volume'.directory = volume.directory.setEntry i .unused
  /-- There are so many free sectors more. -/
  numFree_eq : volume'.numFree = volume.numFree + count
  /-- The sectors that are given back are those of the file. -/
  exists_givesBack : ∃ header, volume.header? disk i = some header ∧
    volume.freeMap.GivesBack ((volume.directory.entry i).header :: header.allSectors disk)
      volume'.freeMap
  /-- The bytes of the other files are as before. -/
  contents?_of_ne : ∀ j, j ≠ i → volume'.contents? disk' j = volume.contents? disk j

theorem Volume.Removed.losesOnly {bytes : Bytes} (h : volume.Removed disk lost i volume' disk')
    (hbytes : volume.contents? disk i = some bytes) :
    volume.LosesOnly disk i (1 + totalSectorsFor bytes.length) volume' disk' where
  directory_eq := h.directory_eq
  numFree_eq := h.numFree_eq bytes hbytes
  exists_givesBack := by
    obtain ⟨header, hheader, -⟩ := Intact.header?_of_contents? hbytes
    exact ⟨header, hheader, h.givesBack.perm (sectorsOf_entry hheader)⟩
  contents?_of_ne := h.contents?_of_ne

namespace Session

/-- The session without the pipe in a slot, once its volume has changed. -/
def withoutPipe (session : Session) (slot : Slot) (volume : Volume) : Session :=
  { session with pipes := session.pipes.erase slot }.setVolume 0 volume

/-- Dropping a pipe removes the first file of its name. -/
theorem yields_dropPipe_removed (hvolumes : session.volumes = #[volume])
    (hpipes : session.pipes[slot]? = some ⟨0, pipe⟩) (hintact : volume.Intact disk lost)
    (hindex : volume.directory.indexOf? pipe.name = some j) :
    (session.perform (.dropPipe slot)).Yields disk fun answer disk' => ∃ volume',
      answer = (.done, session.withoutPipe slot volume') ∧
        volume.Removed disk lost j volume' disk' := by
  have hzero : session.volumes[0]? = some volume :=
    (getElem?_volumes_of_eq hvolumes 0).trans (if_pos rfl)
  have hremove := hintact.yields_remove pipe.name
  rw [hindex] at hremove
  rw [perform, onPipe, pipeIn?_of_eq hvolumes hpipes]
  simp only [discard, hzero, Pipe.drop, bind_assoc]
  refine hremove.bind ?_
  rintro answer disk' ⟨volume', rfl, hremoved⟩
  exact Transfer.yields_pure.2 ⟨volume', rfl, hremoved⟩

end Session

/-! ## Making a pipe -/

namespace Pipe.Made

variable {number : Nat}

/-- The file of a new pipe has all places of its ring. -/
theorem inPlace (h : Made volume disk lost number size i pipe volume' disk') :
    pipe.InPlace volume' disk' lost i pipe volume' disk' := by
  obtain ⟨lost', hintact, hlost, -⟩ := h.created.intact
  rw [hlost h.lists.1] at hintact
  have hbytes := h.created.contents?_eq h.lists.1
  have hle := hintact.length_le_of_contents? hbytes
  rw [List.length_replicate] at hle
  have hin : pipe.InRing := by
    rw [h.pipe_eq]
    exact ⟨Nat.succ_pos size, Nat.succ_pos size, hle⟩
  refine .refl ⟨hintact, h.lists, hin⟩ hbytes ?_
  rw [h.pipe_eq, List.length_replicate]

/-- A pipe whose file has stayed in its sectors and was removed has left the free map and the names
as they were before it was made. -/
theorem forgotten {pipe₁ : Pipe} {volume₁ volume₂ : Volume} {disk₁ disk₂ : Disk}
    (h : Made volume disk lost number size i pipe volume' disk')
    (hplace : pipe.InPlace volume' disk' lost i pipe₁ volume₁ disk₁)
    (hremoved : volume₁.Removed disk₁ lost i volume₂ disk₂) :
    volume₂.freeMap = volume.freeMap ∧ volume₂.names = volume.names := by
  constructor
  · obtain ⟨header, hlodged⟩ := h.created.exists_lodged
    obtain ⟨others, htakes, hperm⟩ := hlodged.takes
    have hheader : volume'.header? disk' i = some header :=
      Volume.header?_eq_some_iff.2 ⟨h.lists.1, hlodged.header?_eq⟩
    -- the sectors that are given back are those that were taken
    have hback := hremoved.givesBack
    rw [hplace.freeMap_eq, hplace.sectorsOf_eq] at hback
    exact htakes.map_eq_of_givesBack
      (hback.perm ((Volume.sectorsOf_entry hheader).trans (hperm.cons _)))
  · obtain ⟨sector, entry, -, hdirectory⟩ := h.created.exists_entry
    have hnone : volume₂.directory = volume.directory.setEntry i .unused := by
      rw [hremoved.directory_eq, hplace.directory_eq, hdirectory, Directory.setEntry_setEntry]
    rw [Volume.names, hnone]
    exact Directory.names_setEntry
      (Directory.isUnused_of_firstUnused? h.created.firstUnused?_eq) rfl

end Pipe.Made

namespace Session

/-- A new pipe is in a slot. -/
structure HasMade (session : Session) (volume : Volume) (disk : Disk) (lost : List SectorId)
    (slot : Slot) (size : Nat) (i : Fin numEntries) (pipe : Pipe) (session' : Session)
    (volume' : Volume) (disk' : Disk) : Prop where
  /-- The file of the pipe is in entry `i`. -/
  made : Pipe.Made volume disk lost session.nextPipe size i pipe volume' disk'
  /-- There is one volume. -/
  volumes_eq : session'.volumes = #[volume']
  /-- The pipe is in the slot. -/
  pipes_eq : session'.pipes[slot]? = some ⟨0, pipe⟩

/-- A request for a pipe whose file is not refused is answered with the name of the pipe. -/
theorem Sound.yields_makePipe_text (h : session.Sound volume disk lost)
    (hmounted : session.mounted[volumeSlot]? = some 0) (hpositive : size ≠ 0)
    (hsum : size + 1 < sumLimit)
    (haccepted : volume.refusal? (Pipe.fileName (size + 1) session.nextPipe) (size + 1) = none) :
    (session.perform (.makePipe volumeSlot slot size)).Yields disk fun answer disk' =>
      ∃ name, answer.1 = .text name ∧ (session.pipes[slot]? = none → ∃ i pipe volume',
        session.HasMade volume disk lost slot size i pipe answer.2 volume' disk') := by
  have hmake := Pipe.yields_makeOn_refusal? h.intact session.nextPipe size
  rw [haccepted] at hmake
  rw [perform, makePipe, onVolume_eq ((h.volumeIn?_eq volumeSlot).trans (if_pos hmounted)),
    Pipe.make_eq _ _ hsum, if_neg hpositive, bind_assoc]
  refine hmake.bind ?_
  rintro _ disk₁ ⟨pipe, volume₁, i, rfl, hmade⟩
  simp only [pure_bind]
  have hvolumes : session.volumes.setIfInBounds 0 volume₁ = #[volume₁] := by
    rw [h.volumes_eq]
    rfl
  rcases hold : session.pipes[slot]? with _ | old
  · refine Transfer.yields_pure.2 ⟨pipe.name, rfl, fun _ => ⟨i, pipe, volume₁, hmade, hvolumes, ?_⟩⟩
    show (session.pipes.insert slot ⟨0, pipe⟩)[slot]? = _
    rw [getElem?_insert_slot, if_pos rfl]
  · -- a pipe that was in the slot is dropped once the new one is made
    let session₁ :=
      (({ session with nextPipe := session.nextPipe + 1 }).setVolume 0 volume₁).setPipe slot
        ⟨0, pipe⟩
    have h₁ : session₁.Sound volume₁ disk₁ lost :=
      ⟨hvolumes, hmade.inPlace.onFile.intact, hmade.created.flushed⟩
    refine (h₁.yields_discard old (fun _ => True) (fun _ => True) fun _ _ => trivial).bind ?_
    intro session' disk' _
    exact Transfer.yields_pure.2
      ⟨pipe.name, rfl, fun hempty => absurd hempty (Option.some_ne_none _)⟩

section Lifecycle

variable {δ : Type} [BlockDevice δ] {device device' : δ} {numSectors : Nat}

/-- Once nothing is done but to use the pipe in a slot and to drop it, the free map and the names
are what they were before. -/
def ForgetsPipe (session session' : Session) (device' : δ) (slot : Slot) : Prop :=
  ∀ requests, (∀ request ∈ requests, Request.UsesPipe slot request) →
    ∃ answers session₁ device₁ session₂ device₂ volume volume₂,
      (session'.performAll requests).run device' = (.ok (answers, session₁), device₁) ∧
      (session₁.perform (.dropPipe slot)).run device₁ = (.ok (.done, session₂), device₂) ∧
      session.volumes = #[volume] ∧ session₂.volumes = #[volume₂] ∧
      volume₂.freeMap = volume.freeMap ∧ volume₂.names = volume.names

/-- A request for a pipe is refused and has left all as it was, but for the number that it may have
used up, or else the pipe is made. If it is the only one in its slot, it can be forgotten. -/
def MakesPipeOrNothing (session : Session) (device : δ) (volumeSlot slot : Slot) (size : Nat) :
    Prop :=
  (∃ answer nextPipe, (answer = .noVolume ∨ ∃ cause, answer = .refused cause) ∧
    (session.perform (.makePipe volumeSlot slot size)).run device =
      (.ok (answer, { session with nextPipe }), device)) ∨
  ∃ name session' device', (session.perform (.makePipe volumeSlot slot size)).run device =
      (.ok (.text name, session'), device') ∧
    (session.pipes[slot]? = none → session.ForgetsPipe session' device' slot)

/-- What comes of dropping the pipe in a slot, which has its file in entry `i`: the file in entry
`j`, which is the first of its name, is removed. -/
structure DropsPipe (session : Session) (device : δ) (numSectors : Nat) (slot : Slot) (size : Nat)
    (pipe : Pipe) (volume : Volume) (i j : Fin numEntries) (volume' : Volume) (device' : δ) :
    Prop where
  /-- The pipe is in the slot. -/
  pipeIn?_eq : session.pipeIn? slot = some (⟨0, pipe⟩, volume)
  /-- The file of the pipe is in entry `i`. -/
  lists : volume.Lists pipe.file.headerSector i
  /-- It has the name of the pipe. -/
  name_eq : (volume.directory.entry i).name = pipe.name
  /-- The file in entry `j` is the first of that name. -/
  indexOf?_eq : volume.directory.indexOf? pipe.name = some j
  /-- The request runs through, and the pipe is gone. -/
  run_eq : (session.perform (.dropPipe slot)).run device =
    (.ok (.done, session.withoutPipe slot volume'), device')
  /-- Of all entries, only entry `j` has changed. -/
  directory_eq : volume'.directory = volume.directory.setEntry j .unused
  /-- The pipe's own file and nothing else is gone exactly if it is the first of its name. -/
  losesOnly_iff : volume.LosesOnly (Disk.image device numSectors) i (1 + totalSectorsFor (size + 1))
    volume' (Disk.image device' numSectors) ↔ j = i
  /-- So it is if files were made under names without zero bytes only. -/
  eq_of_plain : Reachable (fun name => '\x00' ∉ name.toList) numSectors device session → j = i

/-- A pipe that is refused has changed nothing, but perhaps used up a number. -/
theorem SoundOn.makePipe_eq (h : session.SoundOn device numSectors volume lost) (slot : Slot)
    (hsum : size + 1 < sumLimit) (hrefused : session.mounted[volumeSlot]? ≠ some 0 ∨ size = 0 ∨
      (volume.refusal? (Pipe.fileName (size + 1) session.nextPipe) (size + 1)).isSome) :
    ∃ answer nextPipe, (answer = .noVolume ∨ ∃ cause, answer = .refused cause) ∧
      session.perform (.makePipe volumeSlot slot size) =
        pure (answer, { session with nextPipe }) := by
  have hin := h.sound.volumeIn?_eq volumeSlot
  rw [perform, makePipe]
  split_ifs at hin with hmounted
  · rw [onVolume_eq hin, Pipe.make_eq _ _ hsum]
    by_cases hzero : size = 0
    · rw [if_pos hzero]
      exact ⟨.refused .zeroSizedPipe, session.nextPipe, .inr ⟨_, rfl⟩, rfl⟩
    · obtain ⟨cause, hcause⟩ := Option.isSome_iff_exists.1
        ((hrefused.resolve_left (absurd hmounted)).resolve_left hzero)
      rw [if_neg hzero, Pipe.makeOn, Volume.create_eq_throw h.sound.intact.size_le_pow hcause]
      exact ⟨.refused cause, session.nextPipe + 1, .inr ⟨cause, rfl⟩, rfl⟩
  · rw [onVolume, hin]
    exact ⟨.noVolume, session.nextPipe, .inl rfl, rfl⟩

variable [LawfulBlockDevice δ]

/-- A pipe that is used and dropped is forgotten. -/
theorem HasMade.forgetsPipe
    (h : session.HasMade volume (Disk.image device numSectors) lost slot size i pipe session'
      volume' (Disk.image device' numSectors))
    (hsound : session.SoundOn device numSectors volume lost)
    (hblocks : HasBlocks device' numSectors)
    (hnew : volume.directory.indexOf? (Pipe.fileName (size + 1) session.nextPipe) = none) :
    session.ForgetsPipe session' device' slot := by
  intro requests huses
  obtain ⟨⟨answers, session₁⟩, device₁, hrun₁, hblocks₁, pipe₁, volume₁, hvolumes₁, hpipes₁,
      hplace⟩ := ((Pipe.invariant_inPlace ..).yields_performAll h.volumes_eq h.pipes_eq
        h.made.inPlace huses).exists_run hblocks
  have hzero := Pipe.zero_notMem_fileName (size + 1) session.nextPipe
  have hindex : volume₁.directory.indexOf? pipe₁.name = some i := by
    rw [hplace.directory_eq, hplace.continues.name_eq, h.made.pipe_eq]
    exact h.made.created.indexOf?_eq hzero hnew
  obtain ⟨_, device₂, hrun₂, -, volume₂, rfl, hremoved⟩ :=
    (yields_dropPipe_removed hvolumes₁ hpipes₁ hplace.onFile.intact hindex).exists_run hblocks₁
  refine ⟨answers, session₁, device₁, _, device₂, volume, volume₂, hrun₁, hrun₂,
    hsound.sound.volumes_eq, ?_, h.made.forgotten hplace hremoved⟩
  rw [withoutPipe, setVolume, hvolumes₁]
  rfl

theorem Reachable.makesPipeOrNothing (h : Reachable (fun _ => True) numSectors device session)
    (volumeSlot slot : Slot) (hsum : size + 1 < sumLimit) :
    session.MakesPipeOrNothing device volumeSlot slot size := by
  obtain ⟨volume, lost, hsound, -⟩ := h.exists_soundOn
  by_cases hrefused : session.mounted[volumeSlot]? ≠ some 0 ∨ size = 0 ∨
      (volume.refusal? (Pipe.fileName (size + 1) session.nextPipe) (size + 1)).isSome
  · obtain ⟨answer, nextPipe, hanswer, heq⟩ := hsound.makePipe_eq slot hsum hrefused
    exact .inl ⟨answer, nextPipe, hanswer, by rw [heq, Transfer.run_pure]⟩
  · rw [not_or, not_not, not_or, Option.not_isSome_iff_eq_none] at hrefused
    obtain ⟨hmounted, hpositive, haccepted⟩ := hrefused
    obtain ⟨⟨_, session'⟩, device', hrun, hblocks, name, rfl, hmade⟩ :=
      (hsound.sound.yields_makePipe_text hmounted hpositive hsum haccepted).exists_run
        hsound.hasBlocks
    refine .inr ⟨name, session', device', hrun, fun hempty => ?_⟩
    obtain ⟨i, pipe, volume', hmade⟩ := hmade hempty
    exact hmade.forgetsPipe hsound hblocks (Volume.indexOf?_of_refusal? haccepted)

/-! ## Dropping a pipe at any time -/

/-- A pipe that was made, and that was used and left alone in any order since then, can be
dropped. -/
theorem PipeHistory.exists_dropsPipe {received : Bytes} {queue : Queue}
    (h : PipeHistory numSectors slot size device session received queue) :
    ∃ pipe volume i j volume' device',
      session.DropsPipe device numSectors slot size pipe volume i j volume' device' := by
  obtain ⟨volume, lost, i, pipe, hsound, hruns, hbooks, -⟩ := h.exists_runsQueue
  have hlists := hruns.backs.onFile.lists
  -- the file of the pipe is listed under its name, so that a file of this name is found
  have hfor : (volume.directory.entry i).isFor pipe.name = true :=
    DirEntry.isFor_iff.2 ⟨hlists.1, hruns.name_eq⟩
  obtain ⟨j, hindex⟩ : ∃ j, volume.directory.indexOf? pipe.name = some j := by
    refine Option.ne_none_iff_exists'.1 fun hnone => ?_
    rw [Directory.isFor_eq_false_of_indexOf? hnone i] at hfor
    cases hfor
  obtain ⟨_, device', hrun, -, volume', rfl, hremoved⟩ := (yields_dropPipe_removed hruns.volumes_eq
    hruns.pipes_eq hsound.sound.intact hindex).exists_run hsound.hasBlocks
  refine ⟨pipe, volume, i, j, volume', device', hruns.pipeIn?_eq, hlists, hruns.name_eq, hindex,
    hrun,
    hremoved.directory_eq, ⟨fun hloses => ?_, ?_⟩, fun hplain => ?_⟩
  · -- an entry that is unused afterwards, though it was in use, is the one that was removed
    by_contra hne
    have hentry := congrArg (fun directory => (directory.entry i).isUnused)
      (hloses.directory_eq.symm.trans hremoved.directory_eq)
    simp only [Directory.entry_setEntry, if_pos, if_neg (Ne.symm hne), hlists.1] at hentry
    cases hentry
  · rintro rfl
    obtain ⟨ring, hring, hholds⟩ := hruns.backs.exists_ring
    have hlength : ring.length = size + 1 := by
      rw [hholds.length_eq, hruns.backs.ringSize_eq, hbooks.capacity_eq]
    exact hlength ▸ hremoved.losesOnly hring
  · -- without zero bytes no two files are listed under one name
    have hzero : session.volumes[0]? = some volume :=
      (getElem?_volumes_of_eq hruns.volumes_eq 0).trans (if_pos rfl)
    have hdistinct := (hplain.allHave lasting_distinct fun _ => id).volume 0 volume hzero
    exact hdistinct j i (Directory.isUnused_of_indexOf? hindex) hlists.1
      ((Directory.name_of_indexOf? hindex).trans hruns.name_eq.symm)

/-- Pipes leave no trace. In any state that can be reached, a pipe is made or nothing happens, as
long as the size of its ring can be told, and if it is only used and then dropped, the free map and
the names are what they were. Whenever it is dropped, the first file of its name is removed with all
its sectors; this is the pipe's own, and nothing else has changed, if files were made under names
without zero bytes only. All attempts to make pipes are under different names, whatever volumes and
devices they are about. -/
theorem pipes_leave_no_trace (δ : Type) [BlockDevice δ] [LawfulBlockDevice δ] (numSectors : Nat)
    (slot : Slot) (size : Nat) :
    (size + 1 < sumLimit → ∀ (device : δ) session volumeSlot,
      Reachable (fun _ => True) numSectors device session →
      session.MakesPipeOrNothing device volumeSlot slot size) ∧
    (∀ (device : δ) session received queue,
      PipeHistory numSectors slot size device session received queue →
      ∃ pipe volume i j volume' device',
        session.DropsPipe device numSectors slot size pipe volume i j volume' device') ∧
    (∀ session names, Attempted names session → session.NamesPipes names) :=
  ⟨fun hsum _ _ volumeSlot h => h.makesPipeOrNothing volumeSlot slot hsum,
    fun _ _ _ _ h => h.exists_dropsPipe, fun _ _ h => h.namesPipes⟩

end Lifecycle

/-- A pipe for 5 bytes on a memory disk of 20 blocks, which is written, and dropped after another
file was made. -/
theorem pipes_leave_no_trace_of_write :
    ∃ (session₁ session₂ session₃ : Session) (device₁ device₂ device₃ : RamDisk sectorSize),
      (start.perform (.format 0 20)).run (RamDisk.zeroed 20 sectorSize) =
        (.ok (.done, session₁), device₁) ∧
      (session₁.perform (.makePipe 0 0 5)).run device₁ =
        (.ok (.text "__pipe_6_0__", session₂), device₂) ∧
      session₁.MakesPipeOrNothing device₁ 0 0 5 ∧
      session₂.NamesPipes ["__pipe_6_0__"] ∧
      (session₂.performAll [.stepPipe 0 (.write [1, 2, 3]), .create 0 "a" 200]).run device₂ =
        (.ok ([.stepped (.wrote 3), .done], session₃), device₃) ∧
      ∃ pipe volume i volume' device', session₃.DropsPipe device₃ 20 0 5 pipe volume i i volume'
        device' := by
  have hanswers : answers? ((start.performAll [.format 0 20, .makePipe 0 0 5,
      .stepPipe 0 (.write [1, 2, 3]), .create 0 "a" 200]).run (RamDisk.zeroed 20 sectorSize)) =
        some [.done, .text "__pipe_6_0__", .stepped (.wrote 3), .done] := by decide +kernel
  obtain ⟨session₃, device₃, hrun⟩ := exists_of_answers? hanswers
  obtain ⟨session₁, device₁, hformat, hrest⟩ := run_performAll_cons hrun
  obtain ⟨session₂, device₂, hmake, huse⟩ := run_performAll_cons hrest
  obtain ⟨session, device, hwrite, hrest⟩ := run_performAll_cons huse
  obtain ⟨_, _, hcreate, hrest⟩ := run_performAll_cons hrest
  obtain ⟨-, rfl, rfl⟩ := run_performAll_nil hrest
  obtain ⟨hmakes, hdrops, hnames⟩ := pipes_leave_no_trace (RamDisk sectorSize) 20 0 5
  have hblocks : HasBlocks (RamDisk.zeroed 20 sectorSize) 20 := RamDisk.hasBlocks _
  have huses : (Request.stepPipe 0 (.write [1, 2, 3])).UsesPipe 0 := rfl
  -- the pipe is followed from its making on
  have hmade := PipeHistory.made (.format hblocks hformat) hmake
  have hwritten := hmade.use huses hwrite
  obtain ⟨volume₂, lost, i, pipe₂, -, hruns₂, -, -⟩ := hmade.exists_runsQueue
  obtain ⟨volume, lost', k, pipe, -, hruns, -, -⟩ := hwritten.exists_runsQueue
  have hpermits : session.Permits (fun _ => True) (.create 0 "a" 200) := trivial
  have hspares : session.Spares 0 pipe (.create 0 "a" 200) := by simp [Spares, Request.pipeSlot?]
  have hother := hwritten.other hruns.pipes_eq hpermits hspares hcreate
  -- and no file was made under a name with a zero byte
  have hplain : Reachable (fun name => '\x00' ∉ name.toList) 20 device₁ session₁ :=
    .format hblocks hformat
  have hpermits₁ : session₁.Permits (fun name => '\x00' ∉ name.toList) (.makePipe 0 0 5) := trivial
  have hpermits₂ := hruns₂.permits huses fun name => '\x00' ∉ name.toList
  have hletter : '\x00' ∉ "a".toList := by decide
  have hpermits₃ : session.Permits (fun name => '\x00' ∉ name.toList) (.create 0 "a" 200) := hletter
  have hplain₂ := (hplain.perform hpermits₁ hmake).perform hpermits₂ hwrite
  have hplain₃ := hplain₂.perform hpermits₃ hcreate
  obtain ⟨pipe₃, volume₃, i, j, volume', device', hdrop⟩ := hdrops _ _ _ _ hother
  obtain rfl := hdrop.eq_of_plain hplain₃
  have hattempted : Attempted [] session₁ := .perform .start hformat
  have hattempt := (hnames _ _ hattempted).attempt?_eq _ _ _ _ _ _ _ hmake
  have hattempted₂ := hattempted.perform hmake
  rw [hattempt] at hattempted₂
  exact ⟨session₁, session₂, _, device₁, device₂, _, hformat, hmake,
    hmakes (by decide) device₁ session₁ 0 (.format hblocks hformat), hnames _ _ hattempted₂, huse,
    pipe₃, volume₃, _, volume', device', hdrop⟩

/-- The numbers of free sectors of the volumes after a run that met no fault. -/
def numsFree? {σ : Type} (outcome : Except Fault (List Answer × Session) × σ) :
    Option (Array Nat) :=
  outcome.1.toOption.map fun answer => answer.2.volumes.map Volume.numFree

theorem exists_volume_of_numsFree? {σ : Type} {answers : List Answer} {state : σ} {count : Nat}
    (h : numsFree? (.ok (answers, session), state) = some #[count]) :
    ∃ volume, session.volumes = #[volume] ∧ volume.numFree = count :=
  Array.map_eq_singleton_iff.1 (Option.some.inj h)

/-- The file of a pipe comes after a gap into which a file was made under the name of the pipe with
a zero byte at the end. Dropping the pipe removes this file, which has one sector. -/
theorem dropPipe_removes_other :
    ∃ (session session' : Session) (device device' : RamDisk sectorSize) (volume volume' : Volume),
      PipeHistory 20 0 5 device session [] (.empty 5) ∧
      (session.perform (.dropPipe 0)).run device = (.ok (.done, session'), device') ∧
      session.volumes = #[volume] ∧ session'.volumes = #[volume'] ∧
      volume'.numFree ≠ volume.numFree + (1 + totalSectorsFor (5 + 1)) := by
  have hanswers : answers? ((start.performAll [.format 0 20, .create 0 "a" 0, .makePipe 0 0 5,
      .remove 0 "a", .create 0 "__pipe_6_0__\x00" 0, .dropPipe 0]).run
      (RamDisk.zeroed 20 sectorSize)) =
        some [.done, .done, .text "__pipe_6_0__", .done, .done, .done] := by decide +kernel
  have hbefore : numsFree? ((start.performAll [.format 0 20, .create 0 "a" 0, .makePipe 0 0 5,
      .remove 0 "a", .create 0 "__pipe_6_0__\x00" 0]).run (RamDisk.zeroed 20 sectorSize)) =
        some #[10] := by decide +kernel
  have hafter : numsFree? ((start.performAll [.format 0 20, .create 0 "a" 0, .makePipe 0 0 5,
      .remove 0 "a", .create 0 "__pipe_6_0__\x00" 0, .dropPipe 0]).run
      (RamDisk.zeroed 20 sectorSize)) = some #[11] := by decide +kernel
  obtain ⟨session₆, device₆, hrun⟩ := exists_of_answers? hanswers
  obtain ⟨session₁, device₁, hformat, hrest⟩ := run_performAll_cons hrun
  obtain ⟨session₂, device₂, hletter, hrest⟩ := run_performAll_cons hrest
  obtain ⟨session₃, device₃, hmake, hrest⟩ := run_performAll_cons hrest
  obtain ⟨session₄, device₄, hremove, hrest⟩ := run_performAll_cons hrest
  obtain ⟨session₅, device₅, hcreate, hrest⟩ := run_performAll_cons hrest
  obtain ⟨_, _, hdrop, hrest⟩ := run_performAll_cons hrest
  obtain ⟨-, rfl, rfl⟩ := run_performAll_nil hrest
  have hblocks : HasBlocks (RamDisk.zeroed 20 sectorSize) 20 := RamDisk.hasBlocks _
  have hpermits₁ : session₁.Permits (fun _ => True) (.create 0 "a" 0) := trivial
  have hreach₂ := (Reachable.format hblocks hformat).perform hpermits₁ hletter
  have hmade := PipeHistory.made hreach₂ hmake
  obtain ⟨volume₃, lost₃, i₃, pipe₃, hsound₃, hruns₃, -, -⟩ := hmade.exists_runsQueue
  have hpermits₃ : session₃.Permits (fun _ => True) (.remove 0 "a") := trivial
  have hspares₃ : session₃.Spares 0 pipe₃ (.remove 0 "a") := by
    -- no pipe has a name of one letter
    obtain ⟨ringSize, number, -, hname⟩ := hsound₃.numbered.exists_number 0 _ hruns₃.pipes_eq
    intro heq
    have hlist := congrArg String.toList (heq.trans hname)
    simp [Pipe.toList_fileName] at hlist
  have hremoved := hmade.other hruns₃.pipes_eq hpermits₃ hspares₃ hremove
  obtain ⟨volume₄, lost₄, i₄, pipe₄, -, hruns₄, -, -⟩ := hremoved.exists_runsQueue
  have hpermits₄ : session₄.Permits (fun _ => True) (.create 0 "__pipe_6_0__\x00" 0) := trivial
  have hspares₄ : session₄.Spares 0 pipe₄ (.create 0 "__pipe_6_0__\x00" 0) := by
    simp [Spares, Request.pipeSlot?]
  have hcreated := hremoved.other hruns₄.pipes_eq hpermits₄ hspares₄ hcreate
  rw [run_performAll_of_run hformat (run_performAll_of_run hletter (run_performAll_of_run hmake
    (run_performAll_of_run hremove (run_performAll_of_run hcreate rfl))))] at hbefore
  rw [hrun] at hafter
  obtain ⟨volume, hvolumes, hfree⟩ := exists_volume_of_numsFree? hbefore
  obtain ⟨volume', hvolumes', hfree'⟩ := exists_volume_of_numsFree? hafter
  refine ⟨_, _, _, _, volume, volume', hcreated, hdrop, hvolumes, hvolumes', ?_⟩
  rw [hfree, hfree']
  decide

end Session

end SectorStore
