import SectorStore.Proofs.Session.Sums
import SectorStore.Proofs.Volume.Listing

/-!
# Steps of a session

A session on a single volume is `Sound` while the volume is intact and its tables are on the disk.
It `Permits` every request that takes up no other volume, and that uses a file or a pipe only while
the file is in the directory. `Sound.yields_perform` is the step lemma: a permitted request
whose sums fit runs through and leaves the session `Advanced`, sound again and with all files as
before that the request neither `Removes` nor `Writes`. Where a sum does not fit, that is what the
request ends with (`Sound.overflows`).
-/

namespace SectorStore

/-- The slot of the pipe that a request is about. -/
def Request.pipeSlot? : Request → Option Slot
  | .makePipe _ slot _ | .stepPipe slot _ | .readWaiting slot .. | .writeWaiting slot ..
  | .dropPipe slot => some slot
  | _ => none

/-- The number of bytes of pipes that an answer hands out. -/
def Answer.handed : Answer → Nat
  | .stepped answer => answer.handed
  | .readWaited filling peer =>
    (peer.map Pipe.PeerAnswer.handed).sum + (filling.map Filling.count).getD 0
  | .wroteWaited _ peer => (peer.map Pipe.PeerAnswer.handed).sum
  | _ => 0

/-- The request makes a pipe. -/
def Request.MakesPipe : Request → Prop
  | .makePipe .. => True
  | _ => False

/-- The request reads, writes or looks at the pipe in a slot. -/
def Request.UsesPipe (slot : Slot) : Request → Prop
  | .stepPipe other _ | .readWaiting other .. | .writeWaiting other .. => other = slot
  | _ => False

/-- The request only looks at files and volumes, or moves handles of them. -/
def Request.OnlyLooks : Request → Prop
  | .unmount _ | .names _ | .listing _ | .openFile .. | .readAt .. | .read .. | .seek .. | .close _
  | .length _ | .headerSector _ | .header _ => True
  | _ => False

/-- If the request makes a file, no zero byte is in its name. -/
def Request.IsPlain : Request → Prop
  | .create _ name _ => '\x00' ∉ name.toList
  | _ => True

/-- Using a pipe makes no file and removes none. -/
theorem Request.UsesPipe.isPlain {slot : Slot} {request : Request} (h : request.UsesPipe slot) :
    request.IsPlain := by
  cases request with
  | create other name size => exact h.elim
  | _ => trivial

/-- A request that uses a pipe is about its slot. -/
theorem Request.UsesPipe.pipeSlot?_eq {slot : Slot} {request : Request}
    (h : request.UsesPipe slot) : request.pipeSlot? = some slot := by
  cases request <;> first | exact congrArg some h | exact h.elim

namespace Session

/-- The request stays on the volumes at hand, makes files under allowed names only, and uses files
and pipes only while they are in the directory. -/
def Permits (session : Session) (allowed : String → Prop) : Request → Prop
  | .format .. | .mount .. => False
  | .create _ name _ => allowed name
  | .readAt slot .. | .read slot _ | .writeAt slot .. | .write slot _ | .length slot
  | .header slot => session.FileIsListed slot
  | .stepPipe slot _ | .readWaiting slot .. | .writeWaiting slot .. => session.PipeIsListed slot
  | _ => True

/-- The request may remove the file of a directory entry. -/
def Removes (session : Session) : Request → DirEntry → Prop
  | .remove _ name, entry => entry.isFor name
  | .makePipe _ slot _, entry | .dropPipe slot, entry =>
    ∃ pipe, session.pipes[slot]? = some pipe ∧ entry.isFor pipe.item.name
  | _, _ => False

/-- The request may write the file of a directory entry. -/
def Writes (session : Session) : Request → DirEntry → Prop
  | .writeAt slot .., entry | .write slot _, entry =>
    ∃ file volume, session.fileIn? slot = some (file, volume) ∧
      entry.header = file.item.headerSector
  | .stepPipe slot _, entry | .readWaiting slot .., entry | .writeWaiting slot .., entry =>
    ∃ pipe volume, session.pipeIn? slot = some (pipe, volume) ∧
      entry.header = pipe.item.file.headerSector
  | _, _ => False

/-- The session works on one volume, which is intact and has its tables on the disk. -/
structure Sound (session : Session) (volume : Volume) (disk : Disk) (lost : List SectorId) :
    Prop where
  /-- There is one volume. -/
  volumes_eq : session.volumes = #[volume]
  /-- The volume is intact. -/
  intact : volume.Intact disk lost
  /-- The tables are on the disk. -/
  flushed : volume.Flushed disk

/-- What a request makes of a session on one volume. -/
structure Advanced (session : Session) (volume : Volume) (disk : Disk) (lost : List SectorId)
    (request : Request) (session' : Session) (volume' : Volume) (disk' : Disk)
    (lost' : List SectorId) : Prop where
  /-- There is one volume. -/
  volumes_eq : session'.volumes = #[volume']
  /-- The volume keeps what the request is not about. -/
  evolves : volume.Evolves disk (session.Removes request) (session.Writes request) volume' disk'
    lost'
  /-- No more sectors are lost, unless a file is made under a name with a zero byte. -/
  lost_eq : request.IsPlain → lost' = lost
  /-- Idle sectors are spared. -/
  spares : session.Numbered → volume.Spares disk volume' disk'
  /-- Files are open as before, or are in the directory. -/
  files_from : session.FilesFrom session' volume'
  /-- Pipes are open as before, or their files are in the directory. -/
  pipes_from : session.Numbered → session.PipesFrom session' request.MakesPipe volume'
  /-- Pipes in other slots stay as they are. -/
  pipes_eq : ∀ slot : Slot, request.pipeSlot? ≠ some slot →
    session'.pipes[slot]? = session.pipes[slot]?
  /-- The names of pipes stay different. -/
  numbered : session.Numbered → session'.Numbered

/-- The session, the volume and the disk after a request are related to those before it. -/
def Advances (session : Session) (volume : Volume) (disk : Disk) (lost : List SectorId)
    (request : Request) (answer : Answer × Session) (disk' : Disk) : Prop :=
  ∃ volume' lost', session.Advanced volume disk lost request answer.2 volume' disk' lost'

/-- A request leaves the disk, the volume and the pipes alone. -/
structure LeavesAlone (session : Session) (volume : Volume) (disk : Disk)
    (answer : Answer × Session) (disk' : Disk) : Prop where
  /-- The disk is the same. -/
  disk_eq : disk' = disk
  /-- The volume is the same. -/
  volumes_eq : answer.2.volumes = session.volumes
  /-- Files are open as before, or are in the directory. -/
  files_from : session.FilesFrom answer.2 volume
  /-- The pipes are the same. -/
  pipes_eq : answer.2.pipes = session.pipes
  /-- No number of a pipe was used up. -/
  nextPipe_eq : answer.2.nextPipe = session.nextPipe

theorem Advanced.sound {session session' : Session} {volume volume' : Volume} {disk disk' : Disk}
    {lost lost' : List SectorId} {request : Request}
    (h : session.Advanced volume disk lost request session' volume' disk' lost') :
    session'.Sound volume' disk' lost' :=
  ⟨h.volumes_eq, h.evolves.intact, h.evolves.flushed⟩

variable {session session' : Session} {volume volume' : Volume} {disk disk' : Disk}
  {lost lost' : List SectorId} {request : Request} {slot : Slot} {allowed : String → Prop}

/-- There is no more than one volume. -/
theorem eq_of_volumes_eq (h : session.volumes = #[volume]) (h' : session.volumes = #[volume']) :
    volume = volume' := by
  rw [h, Array.mk.injEq, List.cons.injEq] at h'
  exact h'.1

/-- The only volume has the number zero. -/
theorem getElem?_volumes_of_eq (h : session.volumes = #[volume]) (number : Nat) :
    session.volumes[number]? = if number = 0 then some volume else none := by
  rw [h]
  split
  · next hzero => rw [hzero]; rfl
  · next hpositive => simpa using hpositive

/-- A pipe of the only volume is at hand with it. -/
theorem pipeIn?_of_eq {pipe : Pipe} (hvolumes : session.volumes = #[volume])
    (hpipe : session.pipes[slot]? = some ⟨0, pipe⟩) :
    session.pipeIn? slot = some (⟨0, pipe⟩, volume) := by
  rw [pipeIn?, hpipe, hvolumes]
  rfl

/-- The only volume is replaced. -/
theorem volumes_setVolume (hvolumes : session.volumes = #[volume]) (volume' : Volume) :
    (session.setVolume 0 volume').volumes = #[volume'] := by
  rw [setVolume, hvolumes]
  rfl

/-- The only volume is replaced where a pipe has moved on. -/
theorem volumes_updatePipe {old : Attached Pipe} (hvolumes : session.volumes = #[volume])
    (hold : old.volume = 0) (slot : Slot) (pipe : Pipe) (volume' : Volume) :
    (session.updatePipe slot old pipe volume').volumes = #[volume'] := by
  rw [updatePipe, setPipe, hold]
  exact volumes_setVolume hvolumes volume'

/-- A pipe that has moved on is in its slot. -/
theorem getElem?_pipes_updatePipe (session : Session) (slot : Slot) (old : Attached Pipe)
    (pipe : Pipe) (volume : Volume) :
    (session.updatePipe slot old pipe volume).pipes[slot]? = some { old with item := pipe } := by
  rw [updatePipe, setPipe, getElem?_insert_slot, if_pos rfl]

/-- The pipes in other slots stay. -/
theorem getElem?_pipes_updatePipe_of_ne {other : Slot} (h : slot ≠ other) (session : Session)
    (old : Attached Pipe) (pipe : Pipe) (volume : Volume) :
    (session.updatePipe slot old pipe volume).pipes[other]? = session.pipes[other]? := by
  rw [updatePipe, setPipe, getElem?_insert_slot, if_neg h]
  rfl

/-! ## Requests without effect on the volume -/

namespace Sound

/-- A request that changes neither the volume nor the pipes. -/
theorem advanced_self (h : session.Sound volume disk lost)
    (hvolumes : session'.volumes = session.volumes)
    (hfiles : session.FilesFrom session' volume)
    (hpipes : session'.pipes = session.pipes) (hnext : session'.nextPipe = session.nextPipe) :
    session.Advanced volume disk lost request session' volume disk lost where
  volumes_eq := hvolumes.trans h.volumes_eq
  evolves := .refl h.intact h.flushed
  lost_eq _ := rfl
  spares _ := .refl volume disk
  files_from := hfiles
  pipes_from _ := .of_eq hpipes
  pipes_eq slot _ := by rw [hpipes]
  numbered hnumbered := hnumbered.congr hpipes (Nat.le_of_eq hnext.symm)

/-- A request that changes the volume, but no pipe. -/
theorem advanced_setVolume (h : session.Sound volume disk lost)
    (hevolves : volume.Evolves disk (session.Removes request) (session.Writes request) volume'
      disk' lost')
    (hlost : request.IsPlain → lost' = lost) (hspares : volume.Spares disk volume' disk')
    (hvolumes : session'.volumes = (session.setVolume 0 volume').volumes)
    (hfiles : session.FilesFrom session' volume')
    (hpipes : session'.pipes = session.pipes) (hnext : session'.nextPipe = session.nextPipe) :
    session.Advanced volume disk lost request session' volume' disk' lost' where
  volumes_eq := hvolumes.trans (volumes_setVolume h.volumes_eq volume')
  evolves := hevolves
  lost_eq := hlost
  spares _ := hspares
  files_from := hfiles
  pipes_from _ := .of_eq hpipes
  pipes_eq slot _ := by rw [hpipes]
  numbered hnumbered := hnumbered.congr hpipes (Nat.le_of_eq hnext.symm)

/-- A request that moves on with a pipe of the volume. -/
theorem advanced_updatePipe (h : session.Sound volume disk lost) {old : Attached Pipe} {pipe : Pipe}
    {i : Fin numEntries} {handed : Nat} (hold : session.pipes[slot]? = some old)
    (hvolume : old.volume = 0)
    (hslot : request.pipeSlot? = some slot)
    (hwrites : session.Writes request (volume.directory.entry i))
    (hmoved : old.item.Moved volume disk lost i handed pipe volume' disk') :
    session.Advanced volume disk lost request (session.updatePipe slot old pipe volume') volume'
      disk' lost where
  volumes_eq := volumes_updatePipe h.volumes_eq hvolume slot pipe volume'
  evolves := hmoved.changesOnly.evolves hmoved.onFile.intact h.flushed hwrites
  lost_eq _ := rfl
  spares _ := hmoved.changesOnly.spares
  files_from := .of_eq rfl
  pipes_from _ := .insert Pipe.Continues.refl (.inl ⟨old, hold, rfl, hmoved.continues⟩)
  pipes_eq other hother := by
    rw [hslot, ne_eq, Option.some.injEq] at hother
    exact getElem?_pipes_updatePipe_of_ne hother session old pipe volume'
  numbered hnumbered := by
    have hpipes : (session.updatePipe slot old pipe volume').pipes =
        session.pipes.insert slot { old with item := pipe } := rfl
    exact hnumbered.update hold hmoved.continues.name_eq hpipes rfl

/-! ## Where requests are carried out -/

theorem getElem?_volumes (h : session.Sound volume disk lost) (number : Nat) :
    session.volumes[number]? = if number = 0 then some volume else none :=
  getElem?_volumes_of_eq h.volumes_eq number

/-- A slot holds the only volume, or none. -/
theorem volumeIn?_eq (h : session.Sound volume disk lost) (slot : Slot) :
    session.volumeIn? slot =
      if session.mounted[slot]? = some 0 then some (0, volume) else none := by
  rw [volumeIn?]
  rcases session.mounted[slot]? with _ | number
  · rfl
  simp only [Option.bind_eq_bind, Option.bind_some, h.getElem?_volumes, Option.some.injEq]
  split_ifs with hzero
  · rw [hzero]
    rfl
  · rfl

/-- An open file is found with the only volume, if it belongs to it. -/
theorem fileIn?_eq (h : session.Sound volume disk lost) {file : Attached OpenFile}
    (hfile : session.files[slot]? = some file) :
    session.fileIn? slot = if file.volume = 0 then some (file, volume) else none := by
  rw [fileIn?, hfile]
  simp only [Option.bind_eq_bind, Option.bind_some, h.getElem?_volumes]
  split_ifs <;> rfl

/-- A pipe is found with the only volume, if it belongs to it. -/
theorem pipeIn?_eq (h : session.Sound volume disk lost) {pipe : Attached Pipe}
    (hpipe : session.pipes[slot]? = some pipe) :
    session.pipeIn? slot = if pipe.volume = 0 then some (pipe, volume) else none := by
  rw [pipeIn?, hpipe]
  simp only [Option.bind_eq_bind, Option.bind_some, h.getElem?_volumes]
  split_ifs <;> rfl

/-- A file that is at hand is in its slot, and is one of the only volume. -/
theorem of_fileIn? (h : session.Sound volume disk lost) {file : Attached OpenFile}
    (hin : session.fileIn? slot = some (file, volume')) :
    session.files[slot]? = some file ∧ file.volume = 0 ∧ volume' = volume := by
  rcases hslot : session.files[slot]? with _ | file₁
  · simp [fileIn?, hslot] at hin
  rw [h.fileIn?_eq hslot] at hin
  split_ifs at hin with hzero
  cases hin
  exact ⟨rfl, hzero, rfl⟩

/-- A pipe that is at hand is in its slot, and is one of the only volume. -/
theorem of_pipeIn? (h : session.Sound volume disk lost) {pipe : Attached Pipe}
    (hin : session.pipeIn? slot = some (pipe, volume')) :
    session.pipes[slot]? = some pipe ∧ pipe.volume = 0 ∧ volume' = volume := by
  rcases hslot : session.pipes[slot]? with _ | pipe₁
  · simp [pipeIn?, hslot] at hin
  rw [h.pipeIn?_eq hslot] at hin
  split_ifs at hin with hzero
  cases hin
  exact ⟨rfl, hzero, rfl⟩

/-- A request about a volume is answered by `noVolume`, or is one about the only volume. -/
theorem onVolume_cases (h : session.Sound volume disk lost) (slot : Slot)
    (act : Nat → Volume → Transfer (Answer × Session)) :
    session.onVolume slot act = pure (.noVolume, session) ∨
      session.mounted[slot]? = some 0 ∧ session.onVolume slot act = act 0 volume := by
  rw [onVolume, volumeIn?]
  rcases hnumber : session.mounted[slot]? with _ | number
  · exact .inl rfl
  simp only [Option.bind_eq_bind, Option.bind_some, h.getElem?_volumes]
  split_ifs with hzero
  · rw [hzero]
    exact .inr ⟨rfl, rfl⟩
  · exact .inl rfl

/-- A request about an open file is answered by `noHandle`, or finds the file and its volume. -/
theorem onFile_cases (h : session.Sound volume disk lost) (slot : Slot)
    (act : Attached OpenFile → Volume → Transfer (Answer × Session)) :
    session.onFile slot act = pure (.noHandle, session) ∨
      ∃ file, session.files[slot]? = some file ∧ file.volume = 0 ∧
        session.fileIn? slot = some (file, volume) ∧ session.onFile slot act = act file volume := by
  rw [onFile]
  rcases hfile : session.files[slot]? with _ | file
  · have hnoFile : session.fileIn? slot = none := by
      rw [fileIn?, hfile]
      rfl
    rw [hnoFile]
    exact .inl rfl
  have hin := h.fileIn?_eq hfile
  split_ifs at hin with hzero
  · rw [hin]
    exact .inr ⟨file, rfl, hzero, rfl, rfl⟩
  · rw [hin]
    exact .inl rfl

/-- A request about a pipe is answered by `noHandle`, or finds the pipe and its volume. -/
theorem onPipe_cases (h : session.Sound volume disk lost) (slot : Slot)
    (act : Attached Pipe → Volume → Transfer (Answer × Session)) :
    session.onPipe slot act = pure (.noHandle, session) ∨
      ∃ pipe, session.pipes[slot]? = some pipe ∧ pipe.volume = 0 ∧
        session.pipeIn? slot = some (pipe, volume) ∧ session.onPipe slot act = act pipe volume := by
  rw [onPipe]
  rcases hpipe : session.pipes[slot]? with _ | pipe
  · have hnoPipe : session.pipeIn? slot = none := by
      rw [pipeIn?, hpipe]
      rfl
    rw [hnoPipe]
    exact .inl rfl
  have hin := h.pipeIn?_eq hpipe
  split_ifs at hin with hzero
  · rw [hin]
    exact .inr ⟨pipe, rfl, hzero, rfl, rfl⟩
  · rw [hin]
    exact .inl rfl

/-- What holds without a volume and after what is done with it holds after the request. -/
theorem yields_onVolume (h : session.Sound volume disk lost)
    {act : Nat → Volume → Transfer (Answer × Session)} {post : Answer × Session → Disk → Prop}
    (hnone : post (.noVolume, session) disk)
    (hsome : session.mounted[slot]? = some 0 → (act 0 volume).Yields disk post) :
    (session.onVolume slot act).Yields disk post := by
  rcases h.onVolume_cases slot act with heq | ⟨hmounted, heq⟩
  · exact heq ▸ Transfer.yields_pure.2 hnone
  · exact heq ▸ hsome hmounted

/-- What holds without a file and after what is done with it holds after the request. -/
theorem yields_onFile (h : session.Sound volume disk lost)
    {act : Attached OpenFile → Volume → Transfer (Answer × Session)}
    {post : Answer × Session → Disk → Prop} (hnone : post (.noHandle, session) disk)
    (hsome : ∀ file, session.files[slot]? = some file → file.volume = 0 →
      session.fileIn? slot = some (file, volume) → (act file volume).Yields disk post) :
    (session.onFile slot act).Yields disk post := by
  rcases h.onFile_cases slot act with heq | ⟨file, hfile, hzero, hin, heq⟩
  · exact heq ▸ Transfer.yields_pure.2 hnone
  · exact heq ▸ hsome file hfile hzero hin

/-- What holds without a pipe and after what is done with it holds after the request. -/
theorem yields_onPipe (h : session.Sound volume disk lost)
    {act : Attached Pipe → Volume → Transfer (Answer × Session)}
    {post : Answer × Session → Disk → Prop} (hnone : post (.noHandle, session) disk)
    (hsome : ∀ pipe, session.pipes[slot]? = some pipe → pipe.volume = 0 →
      session.pipeIn? slot = some (pipe, volume) → (act pipe volume).Yields disk post) :
    (session.onPipe slot act).Yields disk post := by
  rcases h.onPipe_cases slot act with heq | ⟨pipe, hpipe, hzero, hin, heq⟩
  · exact heq ▸ Transfer.yields_pure.2 hnone
  · exact heq ▸ hsome pipe hpipe hzero hin

/-! ## Requests one by one -/

/-- A session that stays as it is has advanced. -/
theorem advances_self (h : session.Sound volume disk lost) (answer : Answer) :
    session.Advances volume disk lost request (answer, session) disk :=
  ⟨volume, lost, h.advanced_self rfl (.of_eq rfl) rfl rfl⟩

/-- A session advances if its volume evolves, or else nothing happens. -/
theorem yields_changeVolume (h : session.Sound volume disk lost)
    {change : Volume → ExceptT Refusal Transfer Volume}
    (hchange : (change volume).run.Yields disk fun answer disk' =>
      match answer with
      | .ok volume' => ∃ lost', volume.Evolves disk (session.Removes request)
          (session.Writes request) volume' disk' lost' ∧ (request.IsPlain → lost' = lost) ∧
          volume.Spares disk volume' disk'
      | .error _ => disk' = disk) :
    (session.changeVolume slot change).Yields disk
      (session.Advances volume disk lost request) := by
  rw [changeVolume]
  refine h.yields_onVolume (h.advances_self _) fun _ => hchange.bind ?_
  rintro (cause | volume') disk' houtcome
  · obtain rfl : disk' = disk := houtcome
    exact Transfer.yields_pure.2 (h.advances_self _)
  · obtain ⟨lost', hevolves, hlost, hspares⟩ := houtcome
    exact Transfer.yields_pure.2
      ⟨volume', lost', h.advanced_setVolume hevolves hlost hspares rfl (.of_eq rfl) rfl rfl⟩

/-- Making a file is a step of the session. -/
theorem yields_create (h : session.Sound volume disk lost) (name : String) (size : Nat) :
    (session.perform (.create slot name size)).Yields disk
      (session.Advances volume disk lost (.create slot name size)) := by
  refine h.yields_changeVolume ((h.intact.yields_create name size).mono ?_)
  intro answer disk' houtcome
  rcases hrefusal : volume.refusal? name size with _ | cause
  · rw [hrefusal] at houtcome
    obtain ⟨volume', i, rfl, hcreated⟩ := houtcome
    obtain ⟨lost', hevolves, hlost, -⟩ := hcreated.exists_evolves _ _
    exact ⟨lost', hevolves, hlost, hcreated.spares h.intact⟩
  · rw [hrefusal] at houtcome
    obtain ⟨rfl, rfl⟩ := houtcome
    rfl

/-- Removing a file is a step of the session. -/
theorem yields_remove (h : session.Sound volume disk lost) (name : String) :
    (session.perform (.remove slot name)).Yields disk
      (session.Advances volume disk lost (.remove slot name)) := by
  refine h.yields_changeVolume ((h.intact.yields_remove_evolves h.flushed
    (session.Writes (.remove slot name)) fun _ hfor => hfor).mono ?_)
  rintro (cause | volume') disk' houtcome
  · exact houtcome
  · exact ⟨lost, houtcome.1, fun _ => rfl, houtcome.2.2.spares⟩

/-- Writing to a file that is in the directory evolves the volume, and spares the idle sectors. -/
theorem yields_writeAt (h : session.Sound volume disk lost) {file : Attached OpenFile}
    (hin : session.fileIn? slot = some (file, volume)) (hlisted : session.FileIsListed slot)
    {offset : Nat} {data : Bytes} (hsum : offset + data.length < sumLimit) :
    (file.item.writeAt volume offset data).Yields disk fun answer disk' =>
      volume.Evolves disk (fun _ => False) (fun entry => ∃ file volume,
        session.fileIn? slot = some (file, volume) ∧ entry.header = file.item.headerSector)
        answer.2 disk' lost ∧ volume.Spares disk answer.2 disk' := by
  obtain ⟨i, hlists⟩ := hlisted file volume hin
  obtain ⟨bytes, hbytes⟩ := h.intact.exists_contents? hlists.1
  refine (h.intact.yields_writeAt hlists hbytes hsum).mono ?_
  rintro ⟨written, volume'⟩ disk' hwritten
  exact ⟨hwritten.changesOnly.evolves hwritten.intact h.flushed ⟨file, volume, hin, hlists.2⟩,
    hwritten.spares⟩

/-- Dropping a pipe evolves the volume, and leaves the other pipes alone. -/
theorem yields_discard (h : session.Sound volume disk lost) (pipe : Attached Pipe)
    (removes writes : DirEntry → Prop)
    (hremoves : ∀ entry : DirEntry, entry.isFor pipe.item.name → removes entry) :
    (session.discard pipe).Yields disk fun session' disk' =>
      ∃ volume', session'.volumes = #[volume'] ∧
        volume.Evolves disk removes writes volume' disk' lost ∧ volume.MakesNone volume' ∧
        volume.Sheds disk volume' disk' ∧ session'.files = session.files ∧
        session'.pipes = session.pipes ∧ session'.nextPipe = session.nextPipe := by
  rw [discard, h.getElem?_volumes]
  split_ifs with hzero
  · -- the pipe is on the volume, which loses the file with its name
    refine (Pipe.yields_drop h.intact h.flushed writes hremoves).bind ?_
    rintro volume' disk' ⟨hevolves, hnone, hsheds⟩
    exact Transfer.yields_pure.2 ⟨volume', hzero ▸ volumes_setVolume h.volumes_eq volume',
      hevolves, hnone, hsheds, rfl, rfl, rfl⟩
  · exact Transfer.yields_pure.2
      ⟨volume, h.volumes_eq, .refl h.intact h.flushed, fun _ _ => rfl, .refl h.intact, rfl, rfl,
        rfl⟩

/-- Dropping a pipe is a step of the session. -/
theorem yields_dropPipe (h : session.Sound volume disk lost) :
    (session.perform (.dropPipe slot)).Yields disk
      (session.Advances volume disk lost (.dropPipe slot)) := by
  refine h.yields_onPipe (h.advances_self _) fun pipe hpipe _ _ => ?_
  -- the pipe leaves its slot first, and is dropped then
  let session₁ : Session := { session with pipes := session.pipes.erase slot }
  have h₁ : session₁.Sound volume disk lost := ⟨h.volumes_eq, h.intact, h.flushed⟩
  refine (h₁.yields_discard pipe (session.Removes (.dropPipe slot))
    (session.Writes (.dropPipe slot)) fun _ hfor => ⟨pipe, hpipe, hfor⟩).bind ?_
  rintro session' disk' ⟨volume', hvolumes, hevolves, -, hsheds, hfiles, hpipes, hnext⟩
  refine Transfer.yields_pure.2 ⟨volume', lost, hvolumes, hevolves, fun _ => rfl,
    fun _ => hsheds.spares, .of_eq hfiles, ?_, ?_, ?_⟩
  · intro _
    show HandlesFrom _ _ _ session'.pipes
    rw [hpipes]
    exact .erase Pipe.Continues.refl
  · intro other hother
    rw [ne_eq, Request.pipeSlot?, Option.some.injEq] at hother
    show session'.pipes[other]? = _
    rw [hpipes, getElem?_erase_slot, if_neg hother]
  · exact fun hnumbered => hnumbered.erase hpipes hnext

end Sound

/-- A new pipe for `size` bytes is in a slot, and its file, of zeros, is in entry `i`. -/
structure HasNewPipe (session : Session) (volume : Volume) (disk : Disk) (slot : Slot) (size : Nat)
    (i : Fin numEntries) (pipe : Pipe) : Prop where
  /-- The pipe is in the slot. -/
  pipes_eq : session.pipes[slot]? = some ⟨0, pipe⟩
  /-- The file is in the directory. -/
  lists : volume.Lists pipe.file.headerSector i
  /-- The file has the name of the pipe. -/
  name_eq : (volume.directory.entry i).name = pipe.name
  /-- The file is as long as the ring. -/
  contents?_eq : volume.contents? disk i = some (List.replicate (size + 1) 0)
  /-- The ring is empty. -/
  pipe_eq : pipe = { pipe with head := 0, tail := 0, ringSize := size + 1 }

/-- What comes of a new pipe, once the one that was in its slot is dropped. -/
theorem advanced_of_made {pipeSlot : Slot} {size : Nat} {i : Fin numEntries} {pipe : Pipe}
    {volume₁ : Volume} {disk₁ : Disk} (hintact : volume.Intact disk lost)
    (hmade : Pipe.Made volume disk lost session.nextPipe size i pipe volume₁ disk₁)
    (hvolumes : session'.volumes = #[volume'])
    (hevolves : volume₁.Evolves disk₁ (session.Removes (.makePipe slot pipeSlot size))
      (session.Writes (.makePipe slot pipeSlot size)) volume' disk' lost)
    (hnone : volume₁.MakesNone volume') (hsheds : volume₁.Sheds disk₁ volume' disk')
    (hfiles : session'.files = session.files)
    (hpipes : session'.pipes = session.pipes.insert pipeSlot ⟨0, pipe⟩)
    (hnext : session'.nextPipe = session.nextPipe + 1) :
    session.Advanced volume disk lost (.makePipe slot pipeSlot size) session' volume' disk' lost ∧
      (session.Numbered → session'.HasNewPipe volume' disk' pipeSlot size i pipe) := by
  have hzero := Pipe.zero_notMem_fileName (size + 1) session.nextPipe
  have hname : pipe.name = Pipe.fileName (size + 1) session.nextPipe := by rw [hmade.pipe_eq]
  have hentry : (volume₁.directory.entry i).name = pipe.name := by
    rw [hname]
    exact hmade.created.name_eq hzero
  obtain ⟨lost₁, hevolves₁, -⟩ := hmade.created.exists_evolves
    (session.Removes (.makePipe slot pipeSlot size)) (session.Writes (.makePipe slot pipeSlot size))
  -- the old pipe has another name, so the file of the new one is not removed with it
  have hkept : session.Numbered →
      ¬ session.Removes (.makePipe slot pipeSlot size) (volume₁.directory.entry i) := by
    rintro hnumbered ⟨old, hold, hfor⟩
    obtain ⟨ringSize, number, hlt, hnumber⟩ := hnumbered.exists_number pipeSlot old hold
    rw [DirEntry.isFor_iff, hentry, hname, hnumber] at hfor
    exact Nat.ne_of_gt hlt (Pipe.fileName_inj hfor.2)
  have hlists : session.Numbered → volume'.Lists pipe.file.headerSector i :=
    fun hnumbered => hevolves.lists hmade.lists (hkept hnumbered)
  have hentry' : session.Numbered → (volume'.directory.entry i).name = pipe.name := by
    intro hnumbered
    rw [hevolves.entry_eq i hmade.lists.1 (hkept hnumbered), hentry]
  refine ⟨⟨hvolumes, hevolves₁.trans hevolves hnone, fun _ => rfl, ?spares, .of_eq hfiles, ?pipes,
    ?others, fun hnumbered => hnumbered.insert hname hpipes hnext⟩, ?new⟩
  case spares =>
    intro hnumbered
    have hused := hmade.lists.1
    exact hmade.created.spares_trans hintact hsheds hused
      (hevolves.entry_eq i hused (hkept hnumbered))
  case pipes =>
    intro hnumbered
    rw [PipesFrom, hpipes]
    exact .insert Pipe.Continues.refl (.inr ⟨trivial, i, hlists hnumbered, hentry' hnumbered⟩)
  case others =>
    intro other hother
    rw [ne_eq, Request.pipeSlot?, Option.some.injEq] at hother
    rw [hpipes, getElem?_insert_slot, if_neg hother]
  case new =>
    intro hnumbered
    have hused := hmade.lists.1
    refine ⟨by rw [hpipes, getElem?_insert_slot, if_pos rfl], hlists hnumbered, hentry' hnumbered,
      ?_, by rw [hmade.pipe_eq]⟩
    rw [hevolves.contents?_eq i hused (hkept hnumbered) id]
    exact hmade.created.contents?_eq hused

namespace Sound

/-- Making a pipe, and dropping the one that was in its slot. -/
theorem yields_makePipe (h : session.Sound volume disk lost) {pipeSlot : Slot} {size : Nat}
    (hfits : session.SumsFit (.makePipe slot pipeSlot size)) :
    (session.perform (.makePipe slot pipeSlot size)).Yields disk fun answer disk' =>
      session.Advances volume disk lost (.makePipe slot pipeSlot size) answer disk' ∧
        (∀ name, answer.1 = .text name → session.Numbered → ∃ volume' i pipe,
          answer.2.volumes = #[volume'] ∧
            answer.2.HasNewPipe volume' disk' pipeSlot size i pipe) ∧
        ((∀ name, answer.1 ≠ .text name) → answer.2.pipes = session.pipes) := by
  refine h.yields_onVolume ⟨h.advances_self _, nofun, fun _ => rfl⟩ fun hmounted => ?_
  have hsum := hfits 0 volume ((h.volumeIn?_eq slot).trans (if_pos hmounted))
  refine (Pipe.yields_make h.intact session.nextPipe hsum).bind ?_
  rintro ⟨cause | ⟨pipe, volume₁⟩, next⟩ disk₁ ⟨hle, houtcome⟩
  · -- a refused pipe may have used up a number
    obtain rfl : disk₁ = disk := houtcome
    refine Transfer.yields_pure.2 ⟨⟨volume, lost, h.volumes_eq, .refl h.intact h.flushed,
      fun _ => rfl, fun _ => .refl volume disk₁, .of_eq rfl, fun _ => .of_eq rfl, fun _ _ => rfl,
      ?_⟩, nofun, fun _ => rfl⟩
    exact fun hnumbered => hnumbered.congr rfl hle
  obtain ⟨hnext, i, hmade⟩ := houtcome
  let session₁ := (({ session with nextPipe := next }).setVolume 0 volume₁).setPipe pipeSlot
    ⟨0, pipe⟩
  have hpipes₁ : session₁.pipes = session.pipes.insert pipeSlot ⟨0, pipe⟩ := rfl
  have h₁ : session₁.Sound volume₁ disk₁ lost := by
    obtain ⟨lost₁, hintact, hlost, -⟩ := hmade.created.intact
    rw [hlost hmade.lists.1] at hintact
    exact ⟨volumes_setVolume h.volumes_eq volume₁, hintact, hmade.created.flushed⟩
  -- a pipe that was in the slot is dropped once the new one is made
  rcases hold : session.pipes[pipeSlot]? with _ | old
  · simp only [hold]
    obtain ⟨hadvanced, hnew⟩ := advanced_of_made h.intact hmade h₁.volumes_eq
      (.refl h₁.intact h₁.flushed) (fun _ _ => rfl) (.refl h₁.intact) rfl hpipes₁ hnext
    exact Transfer.yields_pure.2 ⟨⟨volume₁, lost, hadvanced⟩,
      fun _ _ hnumbered => ⟨volume₁, i, pipe, h₁.volumes_eq, hnew hnumbered⟩,
      fun hnone => absurd rfl (hnone _)⟩
  · simp only [hold]
    let request : Request := .makePipe slot pipeSlot size
    refine (h₁.yields_discard old (session.Removes request) (session.Writes request)
      fun _ hfor => ⟨old, hold, hfor⟩).bind ?_
    rintro session' disk' ⟨volume', hvolumes, hevolves, hnone, hsheds, hfiles, hpipes, hnextPipe⟩
    obtain ⟨hadvanced, hnew⟩ := advanced_of_made h.intact hmade hvolumes hevolves hnone hsheds
      hfiles (hpipes.trans hpipes₁) (hnextPipe.trans hnext)
    exact Transfer.yields_pure.2 ⟨⟨volume', lost, hadvanced⟩,
      fun _ _ hnumbered => ⟨volume', i, pipe, hvolumes, hnew hnumbered⟩,
      fun hnone => absurd rfl (hnone _)⟩

/-- A request on a pipe of the volume moves on with the pipe. -/
theorem yields_usePipe (h : session.Sound volume disk lost) (huses : request.UsesPipe slot)
    (hrings : session.AllHave (fun _ => True) Pipe.InRing) (hlisted : session.PipeIsListed slot) :
    (session.perform request).Yields disk fun answer disk' =>
      (answer = (.noHandle, session) ∧ disk' = disk) ∨ ∃ old i pipe volume',
        session.pipes[slot]? = some old ∧ old.volume = 0 ∧
        session.Writes request (volume.directory.entry i) ∧
        answer.2 = session.updatePipe slot old pipe volume' ∧
        old.item.Moved volume disk lost i answer.1.handed pipe volume' disk' := by
  cases request with
  | stepPipe other step =>
    obtain rfl : other = slot := huses
    refine h.yields_onPipe (.inl ⟨rfl, rfl⟩) fun old hold hzero hin => ?_
    obtain ⟨i, hlists, -⟩ := hlisted old volume hin
    refine (Pipe.OnFile.yields_step ⟨h.intact, hlists, hrings.pipe _ old hold⟩ step).bind ?_
    rintro ⟨answer, pipe, volume'⟩ disk' hmoved
    exact Transfer.yields_pure.2 (.inr ⟨old, i, pipe, volume', hold, hzero,
      ⟨old, volume, hin, hlists.2⟩, rfl, hmoved⟩)
  | readWaiting other buffer peer =>
    obtain rfl : other = slot := huses
    refine h.yields_onPipe (.inl ⟨rfl, rfl⟩) fun old hold hzero hin => ?_
    obtain ⟨i, hlists, -⟩ := hlisted old volume hin
    have honFile : old.item.OnFile _ _ _ _ := ⟨h.intact, hlists, hrings.pipe _ old hold⟩
    refine (honFile.yields_readWaiting buffer peer).bind ?_
    intro waited disk' hmoved
    exact Transfer.yields_pure.2 (.inr ⟨old, i, waited.pipe, waited.volume, hold, hzero,
      ⟨old, volume, hin, hlists.2⟩, rfl, hmoved⟩)
  | writeWaiting other data peer =>
    obtain rfl : other = slot := huses
    refine h.yields_onPipe (.inl ⟨rfl, rfl⟩) fun old hold hzero hin => ?_
    obtain ⟨i, hlists, -⟩ := hlisted old volume hin
    have honFile : old.item.OnFile _ _ _ _ := ⟨h.intact, hlists, hrings.pipe _ old hold⟩
    refine (honFile.yields_writeWaiting data peer).bind ?_
    intro waited disk' hmoved
    -- the bytes that the peer was handed are told by its answers, whatever the writer was told
    have hhanded : waited.handed (fun _ => 0) =
        (Answer.wroteWaited waited.answer waited.peer).handed := by
      cases hanswer : waited.answer <;> rw [Pipe.Waited.handed, hanswer] <;> rfl
    rw [hhanded] at hmoved
    exact Transfer.yields_pure.2 (.inr ⟨old, i, waited.pipe, waited.volume, hold, hzero,
      ⟨old, volume, hin, hlists.2⟩, rfl, hmoved⟩)
  | _ => exact huses.elim

/-- The file that is open in a slot, as far as the request may use it. -/
theorem exists_file (h : session.Sound volume disk lost) {file : Attached OpenFile}
    (hlisted : session.FileIsListed slot) (hin : session.fileIn? slot = some (file, volume)) :
    ∃ i bytes, volume.Lists file.item.headerSector i ∧ volume.contents? disk i = some bytes := by
  obtain ⟨i, hlists⟩ := hlisted file volume hin
  obtain ⟨bytes, hbytes⟩ := h.intact.exists_contents? hlists.1
  exact ⟨i, bytes, hlists, hbytes⟩

/-- A request that only looks leaves all but the handles alone. -/
theorem yields_look (h : session.Sound volume disk lost) (hlooks : request.OnlyLooks)
    (hpermits : session.Permits allowed request) (hfits : session.SumsFit request) :
    (session.perform request).Yields disk (session.LeavesAlone volume disk) := by
  have hnothing : ∀ answer : Answer, session.LeavesAlone volume disk (answer, session) disk :=
    fun _ => ⟨rfl, rfl, .of_eq rfl, rfl, rfl⟩
  have hself : ∀ answer : Answer, (pure (answer, session) : Transfer (Answer × Session)).Yields disk
      (session.LeavesAlone volume disk) :=
    fun answer => Transfer.yields_pure.2 (hnothing answer)
  cases request with
  | unmount slot => exact Transfer.yields_pure.2 ⟨rfl, rfl, .of_eq rfl, rfl, rfl⟩
  | names slot => exact h.yields_onVolume (hnothing _) fun _ => hself _
  | listing slot =>
    refine h.yields_onVolume (hnothing _) fun _ => h.intact.yields_listing.bind ?_
    rintro text disk' rfl
    exact hself _
  | openFile slot fileSlot name =>
    refine h.yields_onVolume (hnothing _) fun _ => ?_
    split
    · next file hopen =>
      -- a handle that is new is good for use, as the file is one of the directory
      have hholds : volume.HoldsFile file := Volume.exists_lists_of_open hopen
      exact Transfer.yields_pure.2
        ⟨rfl, rfl, .insert OpenFile.Continues.refl (.inr hholds), rfl, rfl⟩
    · exact hself _
  | readAt slot offset buffer =>
    refine h.yields_onFile (hnothing _) fun file _ _ hin => ?_
    obtain ⟨i, bytes, hlists, hbytes⟩ := h.exists_file hpermits hin
    rw [Transfer.yields_bind, h.intact.yields_readAt hlists hbytes (hfits file volume hin)]
    exact hself _
  | read slot buffer =>
    refine h.yields_onFile (hnothing _) fun file hfile _ hin => ?_
    obtain ⟨i, bytes, hlists, hbytes⟩ := h.exists_file hpermits hin
    rw [OpenFile.read, bind_assoc, Transfer.yields_bind,
      h.intact.yields_readAt hlists hbytes (hfits file volume hin)]
    exact Transfer.yields_pure.2 ⟨rfl, rfl, .of_insert rfl hfile rfl rfl, rfl, rfl⟩
  | seek slot position =>
    exact h.yields_onFile (hnothing _) fun file hfile _ _ =>
      Transfer.yields_pure.2 ⟨rfl, rfl, .of_insert rfl hfile rfl rfl, rfl, rfl⟩
  | close slot =>
    exact h.yields_onFile (hnothing _) fun _ _ _ _ =>
      Transfer.yields_pure.2 ⟨rfl, rfl, .erase OpenFile.Continues.refl, rfl, rfl⟩
  | length slot =>
    refine h.yields_onFile (hnothing _) fun file _ _ hin => ?_
    obtain ⟨i, bytes, hlists, hbytes⟩ := h.exists_file hpermits hin
    rw [Transfer.yields_bind, h.intact.yields_length hlists hbytes]
    exact hself _
  | headerSector slot => exact h.yields_onFile (hnothing _) fun _ _ _ _ => hself _
  | header slot =>
    refine h.yields_onFile (hnothing _) fun file _ _ hin => ?_
    obtain ⟨i, hlists⟩ := hpermits file volume hin
    obtain ⟨header, hheader, -⟩ := h.intact.exists_header i hlists.1
    rw [Transfer.yields_bind, h.intact.yields_header hlists hheader]
    exact hself _
  | _ => exact hlooks.elim

/-- A permitted request whose sums fit runs through and leaves the session sound, with all files as
before that it neither removes nor writes. -/
theorem yields_perform (h : session.Sound volume disk lost)
    (hrings : session.AllHave (fun _ => True) Pipe.InRing)
    (hpermits : session.Permits allowed request) (hfits : session.SumsFit request) :
    (session.perform request).Yields disk (session.Advances volume disk lost request) := by
  -- most requests leave the volume and the pipes alone
  have hlook : request.OnlyLooks →
      (session.perform request).Yields disk (session.Advances volume disk lost request) := by
    intro hlooks
    refine (h.yields_look hlooks hpermits hfits).mono ?_
    rintro answer _ ⟨rfl, hvolumes, hfiles, hpipes, hnext⟩
    exact ⟨volume, lost, h.advanced_self hvolumes hfiles hpipes hnext⟩
  -- and those on a pipe move on with it
  have husesPipe : ∀ {slot : Slot}, request.UsesPipe slot → session.PipeIsListed slot →
      (session.perform request).Yields disk (session.Advances volume disk lost request) := by
    intro slot huses hlisted
    refine (h.yields_usePipe huses hrings hlisted).mono ?_
    rintro ⟨answer, session'⟩ disk' (⟨hanswer, rfl⟩ | ⟨old, i, pipe, volume', hold, hzero, hwrites,
      hsession', hmoved⟩)
    · exact hanswer ▸ h.advances_self _
    · obtain rfl : session' = session.updatePipe slot old pipe volume' := hsession'
      exact ⟨volume', lost, h.advanced_updatePipe hold hzero huses.pipeSlot?_eq hwrites hmoved⟩
  cases request with
  | format slot numSectors => exact hpermits.elim
  | mount slot numSectors => exact hpermits.elim
  | setClock slot clock =>
    refine h.yields_changeVolume (Transfer.yields_run_pure.2 ⟨lost, ?_, fun _ => rfl,
      (Volume.Spares.refl volume disk).withClock clock⟩)
    exact (Volume.Evolves.refl h.intact h.flushed).withClock clock
  | create slot name size => exact h.yields_create name size
  | remove slot name => exact h.yields_remove name
  | writeAt slot offset data =>
    refine h.yields_onFile (h.advances_self _) fun file _ hzero hin => ?_
    refine (h.yields_writeAt hin hpermits (hfits file volume hin)).bind ?_
    rintro ⟨count, volume'⟩ disk' ⟨hevolves, hspares⟩
    refine Transfer.yields_pure.2 ⟨volume', lost, ?_⟩
    exact h.advanced_setVolume hevolves (fun _ => rfl) hspares (by rw [hzero]) (.of_eq rfl) rfl rfl
  | write slot data =>
    refine h.yields_onFile (h.advances_self _) fun file hfile hzero hin => ?_
    rw [OpenFile.write, bind_assoc]
    refine (h.yields_writeAt hin hpermits (hfits file volume hin)).bind ?_
    rintro ⟨count, volume'⟩ disk' ⟨hevolves, hspares⟩
    refine Transfer.yields_pure.2 ⟨volume', lost, ?_⟩
    exact h.advanced_setVolume hevolves (fun _ => rfl) hspares (by rw [hzero]; rfl)
      (.of_insert rfl hfile rfl rfl) rfl rfl
  | makePipe slot pipeSlot size =>
    exact (h.yields_makePipe hfits).mono fun _ _ houtcome => houtcome.1
  | stepPipe slot step => exact husesPipe rfl hpermits
  | readWaiting slot buffer peer => exact husesPipe rfl hpermits
  | writeWaiting slot data peer => exact husesPipe rfl hpermits
  | dropPipe slot => exact h.yields_dropPipe
  | _ => exact hlook trivial

/-! ## Sums that do not fit -/

section Faults

variable {δ : Type} [BlockDevice δ] [LawfulBlockDevice δ] {device : δ} {numSectors : Nat}

/-- The header of a file of the directory is found on the device. -/
theorem exists_run_header
    (h : session.Sound volume (Disk.image device numSectors) lost)
    (hblocks : HasBlocks device numSectors) {file : OpenFile} (hlisted : volume.HoldsFile file) :
    ∃ header, file.header.run device = (.ok header, device) := by
  obtain ⟨i, hlists⟩ := hlisted
  obtain ⟨header, hheader, -⟩ := h.intact.exists_header i hlists.1
  exact ⟨header, (FileHeader.onlyReads_loadHome _).run_eq hblocks
    ((h.intact.yields_header hlists hheader).2 rfl)⟩

/-- The file at hand for which a sum does not fit is one of the only volume. -/
theorem exists_fileIn?_of_not_forall (h : session.Sound volume disk lost)
    {fits : Attached OpenFile → Prop}
    (hlarge : ¬ ∀ file volume', session.fileIn? slot = some (file, volume') → fits file) :
    ∃ file, session.fileIn? slot = some (file, volume) ∧ ¬ fits file := by
  simp only [not_forall] at hlarge
  obtain ⟨file, volume', hin, hnot⟩ := hlarge
  obtain ⟨-, -, rfl⟩ := h.of_fileIn? hin
  exact ⟨file, hin, hnot⟩

/-- A permitted request that makes a sum that does not fit ends with that, and nothing is written
before. -/
theorem overflows (h : session.Sound volume (Disk.image device numSectors) lost)
    (hblocks : HasBlocks device numSectors) (hpermits : session.Permits allowed request)
    (hlarge : ¬ session.SumsFit request) : session.Overflows device request := by
  refine ⟨hlarge, ?_⟩
  -- the header of the file is fetched, and then the sum is made
  have hread : ∀ {file : OpenFile} {offset : Nat} {buffer : Bytes}, volume.HoldsFile file →
      ¬ offset + buffer.length < sumLimit →
      (file.readAt offset buffer).run device = (.error .sumTooLarge, device) := by
    intro file offset buffer hlisted hsum
    obtain ⟨header, hheader⟩ := h.exists_run_header hblocks hlisted
    simp only [OpenFile.readAt, Transfer.run_bind, hheader]
    rw [FileHeader.readAt, FileHeader.readBytes, checkedAdd_eq_error hsum]
    rfl
  have hwrite : ∀ {file : OpenFile} {offset : Nat} {data : Bytes}, volume.HoldsFile file →
      ¬ offset + data.length < sumLimit →
      (file.writeAt volume offset data).run device = (.error .sumTooLarge, device) := by
    intro file offset data hlisted hsum
    obtain ⟨header, hheader⟩ := h.exists_run_header hblocks hlisted
    simp only [OpenFile.writeAt, Transfer.run_bind, hheader]
    rw [checkedAdd_eq_error hsum]
    rfl
  cases request with
  | readAt slot offset buffer =>
    obtain ⟨file, hin, hsum⟩ := h.exists_fileIn?_of_not_forall hlarge
    simp only [perform, onFile, hin, Transfer.run_bind, hread (hpermits file _ hin) hsum]
  | read slot buffer =>
    obtain ⟨file, hin, hsum⟩ := h.exists_fileIn?_of_not_forall hlarge
    simp only [perform, onFile, hin, OpenFile.read, Transfer.run_bind,
      hread (hpermits file _ hin) hsum]
  | writeAt slot offset data =>
    obtain ⟨file, hin, hsum⟩ := h.exists_fileIn?_of_not_forall hlarge
    simp only [perform, onFile, hin, Transfer.run_bind, hwrite (hpermits file _ hin) hsum]
  | write slot data =>
    obtain ⟨file, hin, hsum⟩ := h.exists_fileIn?_of_not_forall hlarge
    simp only [perform, onFile, hin, OpenFile.write, Transfer.run_bind,
      hwrite (hpermits file _ hin) hsum]
  | makePipe slot pipeSlot size =>
    simp only [SumsFit, not_forall] at hlarge
    obtain ⟨number, volume', hin, hsum⟩ := hlarge
    have hpositive : size ≠ 0 := by
      rintro rfl
      exact hsum (by decide)
    simp only [perform, makePipe, onVolume, hin, Pipe.make, if_neg hpositive,
      checkedAdd_eq_error hsum]
    rfl
  | _ => exact absurd trivial hlarge

end Faults

/-! ## Handles stay good for use -/

/-- A file that was opened is in the directory. -/
theorem exists_lists_of_openFile {σ : Type} [BlockDevice σ] {state state' : σ} {fileSlot : Slot}
    {name : String} (h : session.Sound volume disk lost)
    (hrun : (session.perform (.openFile slot fileSlot name)).run state =
      (.ok (.done, session'), state')) :
    ∃ file i, session' = session.setFile fileSlot ⟨0, file⟩ ∧ state' = state ∧
      volume.Lists file.headerSector i := by
  rw [perform] at hrun
  rcases h.onVolume_cases slot _ with heq | ⟨-, heq⟩
  · rw [heq] at hrun
    cases hrun
  rw [heq] at hrun
  rcases hopen : volume.open name with cause | file
  · simp only [hopen] at hrun
    cases hrun
  · simp only [hopen] at hrun
    cases hrun
    obtain ⟨i, hlists⟩ := Volume.exists_lists_of_open hopen
    exact ⟨file, i, rfl, rfl, hlists⟩

/-- The file in a slot is in the directory if the volume has an entry for it. -/
theorem fileIsListed_iff (h : session.Sound volume disk lost) : session.FileIsListed slot ↔
    ∀ file, session.files[slot]? = some file → file.volume = 0 → volume.HoldsFile file.item := by
  constructor
  · intro hlisted file hfile hzero
    exact hlisted file volume ((h.fileIn?_eq hfile).trans (if_pos hzero))
  · intro hlisted file volume₁ hin
    obtain ⟨hfile, hzero, rfl⟩ := h.of_fileIn? hin
    exact hlisted file hfile hzero

/-- The pipe in a slot has its file in the directory if the volume has an entry for it. -/
theorem pipeIsListed_iff (h : session.Sound volume disk lost) : session.PipeIsListed slot ↔
    ∀ pipe, session.pipes[slot]? = some pipe → pipe.volume = 0 → volume.HoldsPipe pipe.item := by
  constructor
  · intro hlisted pipe hpipe hzero
    exact hlisted pipe volume ((h.pipeIn?_eq hpipe).trans (if_pos hzero))
  · intro hlisted pipe volume₁ hin
    obtain ⟨hpipe, hzero, rfl⟩ := h.of_pipeIn? hin
    exact hlisted pipe hpipe hzero

end Sound

namespace Advanced

/-- An open file stays good for use until its file is removed. -/
theorem fileIsListed (h : session.Advanced volume disk lost request session' volume' disk' lost')
    (hsound : session.Sound volume disk lost) (hlisted : session.FileIsListed slot)
    (hkept : ∀ file, session.files[slot]? = some file → ∀ i,
      volume.Lists file.item.headerSector i →
      ¬ session.Removes request (volume.directory.entry i)) :
    session'.FileIsListed slot := by
  rw [h.sound.fileIsListed_iff]
  intro file' hfile' hzero
  rcases h.files_from slot file' hfile' with ⟨file, hfile, hvolume, hcontinues⟩ | hholds
  · -- the handle was there before, or it was opened just now
    obtain ⟨i, hlists⟩ := hsound.fileIsListed_iff.1 hlisted file hfile (hvolume.trans hzero)
    rw [Volume.HoldsFile, hcontinues]
    exact ⟨i, h.evolves.lists hlists (hkept file hfile i hlists)⟩
  · exact hholds

end Advanced

end Session

end SectorStore
