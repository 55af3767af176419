import SectorStore.Proofs.Pipe.Straying
import SectorStore.Proofs.Session.Remount
import SectorStore.Proofs.Volume.Retired

/-!
# Handles that outlast their files

A handle knows its file by the sector of the header only, and goes on using that sector after the
file was removed. `Outlasting numSectors retired device session` follows a session from laying out a
disk on, through permitted requests and through requests on handles of removed files. These files
are told by the sectors of their headers, `retired`; a file is among them from its removal on, until
one of the sectors that it had is handed out to anybody but itself.

In such a session a write through the handle of a removed file runs through, if its end can be told,
and changes neither the directory nor a file in it (`Outlasting.write_unharmed`). Without the
condition on the sectors it would: see `write_reaches_new_file`.
-/

namespace SectorStore

namespace Session

/-! ## Requests on removed files -/

/-- The request reads or writes the file whose header is in the sector, through the handle in its
slot. -/
def Reaches (session : Session) (sector : SectorId) : Request → Prop
  | .readAt slot .. | .read slot _ | .writeAt slot .. | .write slot _ | .length slot
  | .header slot => ∃ file volume, session.fileIn? slot = some (file, volume) ∧
      file.item.headerSector = sector
  | .stepPipe slot _ | .readWaiting slot .. | .writeWaiting slot .. =>
    ∃ pipe volume, session.pipeIn? slot = some (pipe, volume) ∧
      pipe.item.file.headerSector = sector
  | _ => False

/-- The sector is that of the header of a file that was removed, by the request or before, and the
request has handed out no sector that the file had, unless it was the file itself that got it. -/
def Retains (session : Session) (volume : Volume) (disk : Disk) (retired : List SectorId)
    (request : Request) (volume' : Volume) (sector : SectorId) : Prop :=
  (sector ∈ retired ∨ ∃ i, volume.Lists sector i) ∧ (∀ i, ¬ volume'.Lists sector i) ∧
    (session.Reaches sector request ∨ ∀ s ∈ disk.fileSectors sector, ¬ volume.HandsOut volume' s)

variable {session session' : Session} {volume volume' : Volume} {disk disk' : Disk}
  {lost lost' : List SectorId} {sector : SectorId} {request : Request} {slot : Slot}
  {header header' : FileHeader} {allowed : String → Prop} {file : Attached OpenFile}
  {offset : Nat} {data : Bytes}

/-- A request is about one file. -/
theorem Reaches.unique {a b : SectorId} (h : session.Reaches a request)
    (h' : session.Reaches b request) : a = b := by
  cases request with
  | readAt slot offset buffer | read slot buffer | writeAt slot offset data | write slot data
  | length slot | header slot | stepPipe slot step | readWaiting slot buffer peer
  | writeWaiting slot data peer =>
    obtain ⟨handle, volume, hin, rfl⟩ := h
    obtain ⟨handle', volume', hin', rfl⟩ := h'
    obtain ⟨⟩ := hin.symm.trans hin'
    rfl
  | _ => exact h.elim

/-- A permitted request reads and writes files of the directory only. -/
theorem Reaches.exists_lists (h : session.Reaches sector request)
    (hsound : session.Sound volume disk lost) (hpermits : session.Permits allowed request) :
    ∃ i, volume.Lists sector i := by
  cases request with
  | readAt slot offset buffer | read slot buffer | writeAt slot offset data | write slot data
  | length slot | header slot =>
    obtain ⟨file, volume₁, hin, rfl⟩ := h
    obtain ⟨-, -, rfl⟩ := hsound.of_fileIn? hin
    exact hpermits file volume₁ hin
  | stepPipe slot step | readWaiting slot buffer peer | writeWaiting slot data peer =>
    obtain ⟨pipe, volume₁, hin, rfl⟩ := h
    obtain ⟨-, -, rfl⟩ := hsound.of_pipeIn? hin
    obtain ⟨i, hlists, -⟩ := hpermits pipe volume₁ hin
    exact ⟨i, hlists⟩
  | _ => exact h.elim

/-- What a request on a removed file makes of a session on one volume. -/
structure Strays (session : Session) (volume : Volume) (disk : Disk) (sector : SectorId)
    (header : FileHeader) (session' : Session) (volume' : Volume) (disk' : Disk)
    (lost' : List SectorId) (header' : FileHeader) : Prop where
  /-- There is one volume. -/
  volumes_eq : session'.volumes = #[volume']
  /-- The names of the pipes stay different. -/
  numbered : session.Numbered → session'.Numbered
  /-- The volume is left alone. -/
  onVolume : volume.Strays disk sector header volume' disk' lost' header'

namespace Sound

/-- A request that leaves the volume and the pipes alone. -/
theorem strays_self (h : session.Sound volume disk lost)
    (hdormant : volume.Dormant disk sector header)
    (hvolumes : session'.volumes = session.volumes) (hpipes : session'.pipes = session.pipes)
    (hnext : session'.nextPipe = session.nextPipe) :
    session.Strays volume disk sector header session' volume disk lost header where
  volumes_eq := hvolumes.trans h.volumes_eq
  numbered hnumbered := hnumbered.congr hpipes (Nat.le_of_eq hnext.symm)
  onVolume := .refl hdormant h.intact h.flushed

/-- A request that writes a removed file. -/
theorem strays_setVolume (h : session.Sound volume disk lost)
    (hstrays : volume.Strays disk sector header volume' disk' lost' header')
    (hvolumes : session'.volumes = (session.setVolume 0 volume').volumes)
    (hpipes : session'.pipes = session.pipes) (hnext : session'.nextPipe = session.nextPipe) :
    session.Strays volume disk sector header session' volume' disk' lost' header' where
  volumes_eq := hvolumes.trans (volumes_setVolume h.volumes_eq volume')
  numbered hnumbered := hnumbered.congr hpipes (Nat.le_of_eq hnext.symm)
  onVolume := hstrays

/-- A request that moves on with a pipe on a removed file. -/
theorem strays_updatePipe (h : session.Sound volume disk lost) {old : Attached Pipe} {pipe : Pipe}
    (hold : session.pipes[slot]? = some old) (hvolume : old.volume = 0)
    (hstrayed : old.item.Strayed volume disk header pipe volume' disk') :
    ∃ lost' header', session.Strays volume disk old.item.file.headerSector header
      (session.updatePipe slot old pipe volume') volume' disk' lost' header' := by
  obtain ⟨hcontinues, -, lost', header', hstrays⟩ := hstrayed
  refine ⟨lost', header', volumes_updatePipe h.volumes_eq hvolume slot pipe volume',
    fun hnumbered => ?_, hstrays⟩
  have hpipes : (session.updatePipe slot old pipe volume').pipes =
      session.pipes.insert slot { old with item := pipe } := rfl
  exact hnumbered.update hold hcontinues.name_eq hpipes rfl

/-- A write through the handle of a removed file runs through and leaves the volume alone. -/
theorem yields_write_strays (h : session.Sound volume disk lost)
    (hin : session.fileIn? slot = some (file, volume))
    (hdormant : volume.Dormant disk file.item.headerSector header)
    (hsum : offset + data.length < sumLimit)
    (hrequest : request = .writeAt slot offset data ∨
      request = .write slot data ∧ offset = file.item.position) :
    (session.perform request).Yields disk fun answer disk' => ∃ count volume' lost' header',
      answer.1 = .count count ∧
        session.Strays volume disk file.item.headerSector header answer.2 volume' disk' lost'
          header' ∧
        header'.length = FileHeader.reach header.length volume.numFree (offset + data.length) := by
  obtain ⟨-, hfile, -⟩ := h.of_fileIn? hin
  have hwrite := hdormant.yields_writeAt h.intact h.flushed rfl hsum
  rcases hrequest with rfl | ⟨rfl, rfl⟩
  · rw [perform, onFile, hin]
    refine hwrite.bind ?_
    rintro ⟨count, volume'⟩ disk' ⟨lost', header', hstrays, hlength, -⟩
    refine Transfer.yields_pure.2 ⟨count, volume', lost', header', rfl, ?_, hlength⟩
    exact h.strays_setVolume hstrays (by rw [hfile]) rfl rfl
  · rw [perform, onFile, hin]
    simp only [OpenFile.write, bind_assoc]
    refine hwrite.bind ?_
    rintro ⟨count, volume'⟩ disk' ⟨lost', header', hstrays, hlength, -⟩
    refine Transfer.yields_pure.2 ⟨count, volume', lost', header', rfl, ?_, hlength⟩
    exact h.strays_setVolume hstrays (by rw [hfile]; rfl) rfl rfl

/-- A request that reads the header of a removed file, and then only looks at the file, leaves the
volume and the pipes alone. -/
theorem yields_look_strays (h : session.Sound volume disk lost)
    (hdormant : volume.Dormant disk file.item.headerSector header) {α : Type}
    {f : FileHeader → Transfer α} {conclude : α → Transfer (Answer × Session)}
    (hlook : (f header).Yields disk fun _ disk' => disk' = disk)
    (hconclude : ∀ a, ∃ answer session', conclude a = pure (answer, session') ∧
      session'.volumes = session.volumes ∧ session'.pipes = session.pipes ∧
      session'.nextPipe = session.nextPipe) :
    (file.item.header >>= fun header => f header >>= conclude).Yields disk fun answer disk' =>
      ∃ volume' lost' header', session.Strays volume disk file.item.headerSector header answer.2
        volume' disk' lost' header' := by
  rw [Transfer.yields_bind, hdormant.yields_header rfl]
  refine hlook.bind ?_
  rintro a _ rfl
  obtain ⟨answer, session', heq, hvolumes, hpipes, hnext⟩ := hconclude a
  rw [heq]
  exact Transfer.yields_pure.2
    ⟨volume, lost, header, h.strays_self hdormant hvolumes hpipes hnext⟩

/-- What is done with a pipe whose file was removed leaves the volume alone, as a pipe is a loop
over reads and writes of its file. -/
theorem yields_usePipe_strays (h : session.Sound volume disk lost) {pipe : Attached Pipe}
    (hrings : session.AllHave (fun _ => True) Pipe.InRing)
    (hin : session.pipeIn? slot = some (pipe, volume))
    (hdormant : volume.Dormant disk pipe.item.file.headerSector header) {α : Type}
    {use : Transfer α} {pipeOf : α → Pipe} {volumeOf : α → Volume}
    {finish : α → Answer × Session}
    (huse : pipe.item.Strayed volume disk header pipe.item volume disk →
      use.Yields disk fun answer disk' =>
        pipe.item.Strayed volume disk header (pipeOf answer) (volumeOf answer) disk')
    (hfinish : ∀ answer, (finish answer).2 =
      session.updatePipe slot pipe (pipeOf answer) (volumeOf answer)) :
    (use >>= fun answer => pure (finish answer)).Yields disk fun answer disk' =>
      ∃ volume' lost' header', session.Strays volume disk pipe.item.file.headerSector header
        answer.2 volume' disk' lost' header' := by
  obtain ⟨hpipe, hzero, -⟩ := h.of_pipeIn? hin
  refine (huse (.refl (hrings.pipe slot pipe hpipe) hdormant h.intact h.flushed)).bind ?_
  intro answer disk' hstrayed
  refine Transfer.yields_pure.2 ⟨volumeOf answer, ?_⟩
  rw [hfinish]
  exact h.strays_updatePipe hpipe hzero hstrayed

/-- A request on a removed file whose sums fit runs through and leaves the volume alone. -/
theorem yields_strays (h : session.Sound volume disk lost)
    (hrings : session.AllHave (fun _ => True) Pipe.InRing)
    (hreaches : session.Reaches sector request) (hfits : session.SumsFit request)
    (hdormant : volume.Dormant disk sector header) :
    (session.perform request).Yields disk fun answer disk' => ∃ volume' lost' header',
      session.Strays volume disk sector header answer.2 volume' disk' lost' header' := by
  cases request with
  -- what only looks at the file goes through `yields_look_strays`, which leaves all as it is
  | readAt slot offset buffer =>
    obtain ⟨file, volume₁, hin, rfl⟩ := hreaches
    rw [perform, onFile, hin]
    simp only [OpenFile.readAt, FileHeader.readAt, bind_assoc, pure_bind]
    have hread := hdormant.sited.yields_readBytes (hfits file _ hin)
    exact h.yields_look_strays hdormant hread fun _ => ⟨_, _, rfl, rfl, rfl, rfl⟩
  | read slot buffer =>
    obtain ⟨file, volume₁, hin, rfl⟩ := hreaches
    rw [perform, onFile, hin]
    simp only [OpenFile.read, OpenFile.readAt, FileHeader.readAt, bind_assoc, pure_bind]
    have hread := hdormant.sited.yields_readBytes (hfits file _ hin)
    exact h.yields_look_strays hdormant hread fun _ => ⟨_, _, rfl, rfl, rfl, rfl⟩
  | writeAt slot offset data =>
    obtain ⟨file, volume₁, hin, rfl⟩ := hreaches
    obtain ⟨-, -, rfl⟩ := h.of_fileIn? hin
    refine (h.yields_write_strays hin hdormant (hfits file _ hin) (.inl rfl)).mono ?_
    rintro answer disk' ⟨-, volume', lost', header', -, hstrays, -⟩
    exact ⟨volume', lost', header', hstrays⟩
  | write slot data =>
    obtain ⟨file, volume₁, hin, rfl⟩ := hreaches
    obtain ⟨-, -, rfl⟩ := h.of_fileIn? hin
    refine (h.yields_write_strays hin hdormant (hfits file _ hin) (.inr ⟨rfl, rfl⟩)).mono ?_
    rintro answer disk' ⟨-, volume', lost', header', -, hstrays, -⟩
    exact ⟨volume', lost', header', hstrays⟩
  | length slot =>
    obtain ⟨file, volume₁, hin, rfl⟩ := hreaches
    rw [perform, onFile, hin]
    simp only [OpenFile.length, bind_assoc, pure_bind]
    exact h.yields_look_strays hdormant (f := pure) (Transfer.yields_pure.2 rfl) fun _ =>
      ⟨_, _, rfl, rfl, rfl, rfl⟩
  | header slot =>
    obtain ⟨file, volume₁, hin, rfl⟩ := hreaches
    rw [perform, onFile, hin]
    exact h.yields_look_strays hdormant (f := pure) (Transfer.yields_pure.2 rfl) fun _ =>
      ⟨_, _, rfl, rfl, rfl, rfl⟩
  | stepPipe slot step =>
    obtain ⟨pipe, volume₁, hin, rfl⟩ := hreaches
    obtain ⟨-, -, rfl⟩ := h.of_pipeIn? hin
    rw [perform, onPipe, hin]
    exact h.yields_usePipe_strays hrings hin hdormant
      ((Pipe.invariant_strayed ..).yields_step · step) fun _ => rfl
  | readWaiting slot buffer peer =>
    obtain ⟨pipe, volume₁, hin, rfl⟩ := hreaches
    obtain ⟨-, -, rfl⟩ := h.of_pipeIn? hin
    rw [perform, onPipe, hin]
    exact h.yields_usePipe_strays hrings hin hdormant
      ((Pipe.invariant_strayed ..).yields_readWaiting · buffer peer) fun _ => rfl
  | writeWaiting slot data peer =>
    obtain ⟨pipe, volume₁, hin, rfl⟩ := hreaches
    obtain ⟨-, -, rfl⟩ := h.of_pipeIn? hin
    rw [perform, onPipe, hin]
    exact h.yields_usePipe_strays hrings hin hdormant
      ((Pipe.invariant_strayed ..).yields_writeWaiting · data peer) fun _ => rfl
  | _ => exact hreaches.elim

end Sound

/-! ## Runs -/

section Runs

variable {δ : Type} [BlockDevice δ]

/-- A device and a session that come of laying out a disk, of permitted requests, and of requests on
removed files. The sectors `retired` are those of the headers of removed files of which no sector
was handed out again, but perhaps to the file itself. -/
inductive Outlasting (numSectors : Nat) : List SectorId → δ → Session → Prop
  /-- The disk was laid out just now. -/
  | format {device device' : δ} {slot : Slot} {session : Session}
      (hblocks : HasBlocks device numSectors)
      (hrun : (start.perform (.format slot numSectors)).run device =
        (.ok (.done, session), device')) :
      Outlasting numSectors [] device' session
  /-- A request was carried out. -/
  | perform {device device' : δ} {session session' : Session} {volume volume' : Volume}
      {retired retired' : List SectorId} {request : Request} {answer : Answer}
      (h : Outlasting numSectors retired device session)
      (hallowed : session.Permits (fun _ => True) request ∨
        ∃ sector ∈ retired, session.Reaches sector request)
      (hrun : (session.perform request).run device = (.ok (answer, session'), device'))
      (hvolumes : session.volumes = #[volume]) (hvolumes' : session'.volumes = #[volume'])
      (hretains : ∀ sector ∈ retired', session.Retains volume (Disk.image device numSectors)
        retired request volume' sector) :
      Outlasting numSectors retired' device' session'

/-- A write through a handle on a removed file has done no harm. -/
structure Unharmed (volume : Volume) (device : δ) (numSectors : Nat) (file : OpenFile) (stop : Nat)
    (volume' : Volume) (device' : δ) : Prop where
  /-- The directory is as before. -/
  directory_eq : volume'.directory = volume.directory
  /-- All files of the directory have the same bytes. -/
  contents?_eq : ∀ i, volume'.contents? (Disk.image device' numSectors) i =
    volume.contents? (Disk.image device numSectors) i
  /-- The sectors that the removed file needed in addition are taken. -/
  exists_headers : ∃ header header', file.header.run device = (.ok header, device) ∧
    file.header.run device' = (.ok header', device') ∧
    header'.length = FileHeader.reach header.length volume.numFree stop ∧
    volume'.numFree + totalSectorsFor header'.length =
      volume.numFree + totalSectorsFor header.length
  /-- The tables on the disk are those in memory. -/
  run_mount : (Volume.mount numSectors).run device' = (.ok (volume'.withClock .silent), device')

variable [LawfulBlockDevice δ] {device device' : δ} {numSectors : Nat} {retired : List SectorId}

omit [LawfulBlockDevice δ] in
/-- A session stays sound through a request on a removed file. -/
theorem SoundOn.of_strays (h : session.SoundOn device numSectors volume lost)
    (hblocks : HasBlocks device' numSectors)
    (hrings : session'.AllHave (fun _ => True) Pipe.InRing)
    (hstrays : session.Strays volume (Disk.image device numSectors) sector header session' volume'
      (Disk.image device' numSectors) lost' header') :
    session'.SoundOn device' numSectors volume' lost' where
  hasBlocks := hblocks
  sound := ⟨hstrays.volumes_eq, hstrays.onVolume.intact, hstrays.onVolume.flushed⟩
  size_eq := hstrays.onVolume.size_eq.trans h.size_eq
  numbered := hstrays.numbered h.numbered
  rings := hrings
  freeMapFile_length := by rw [hstrays.onVolume.fields_eq, h.freeMapFile_length]

namespace Outlasting

/-- The session is sound, and the removed files are dormant. -/
theorem exists_soundOn (h : Outlasting numSectors retired device session) :
    ∃ volume lost, session.SoundOn device numSectors volume lost ∧
      volume.Retires (Disk.image device numSectors) retired := by
  induction h with
  | format hblocks hrun =>
    obtain ⟨hblocks', volume, rfl, hformatted⟩ := formatted_of_run hblocks hrun
    exact ⟨volume, [], soundOn_format hblocks' hformatted, nofun, nofun⟩
  | perform _ hallowed hrun hvolumes hvolumes' hretains ih =>
    obtain ⟨volume, lost, hsound, hretires⟩ := ih
    obtain rfl := eq_of_volumes_eq hvolumes hsound.sound.volumes_eq
    have hintact := hsound.sound.intact
    rcases hallowed with hpermits | ⟨sector, hretired, hreaches⟩
    · obtain ⟨volume', lost', hadvanced, hsound'⟩ := hsound.exists_advanced hpermits hrun
      obtain rfl := eq_of_volumes_eq hvolumes' hsound'.sound.volumes_eq
      -- what a permitted request takes were free sectors, and no removed file has any of these
      refine ⟨_, lost', hsound',
        hretires.of_spares hintact (hadvanced.spares hsound.numbered) rfl ?_⟩
      intro a ha
      obtain ⟨hold | ⟨i, hlists⟩, hgone, hkept⟩ := hretains a ha
      · -- a permitted request reaches no file that is not in the directory
        refine .inl ⟨hold, hkept.resolve_left fun hreaches => ?_⟩
        obtain ⟨i, hlists⟩ := hreaches.exists_lists hsound.sound hpermits
        exact hretires.not_lists hintact hold i hlists
      · refine .inr ⟨i, hlists, fun hentry => hgone i ?_⟩
        rw [Volume.Lists, hentry]
        exact hlists
    · -- a request on a removed file: the directory stays, so that no other file is removed by it
      obtain ⟨header, hdormant⟩ := hretires.exists_dormant sector hretired
      obtain ⟨hblocks', volume', lost', header', hstrays⟩ :=
        (hsound.sound.yields_strays hsound.rings hreaches (sumsFit_of_run hrun) hdormant).of_run
          hsound.hasBlocks hrun
      obtain rfl := eq_of_volumes_eq hvolumes' hstrays.volumes_eq
      refine ⟨_, lost', hsound.of_strays hblocks' (hsound.rings.inRing_of_run hrun) hstrays,
        hretires.of_strays hretired hstrays.onVolume rfl fun a ha => ?_⟩
      obtain ⟨hold | ⟨i, hlists⟩, hgone, hkept⟩ := hretains a ha
      · exact ⟨hold, hkept.imp_left fun hreaches' => hreaches'.unique hreaches⟩
      · refine absurd ?_ (hgone i)
        rw [Volume.Lists, hstrays.onVolume.directory_eq]
        exact hlists

/-- Permitted requests need no removed files. -/
theorem of_reachable (h : Reachable (fun _ => True) numSectors device session) :
    Outlasting numSectors [] device session := by
  induction h with
  | format hblocks hrun => exact .format hblocks hrun
  | perform _ hpermits hrun ih =>
    obtain ⟨volume, lost, hsound, -⟩ := ih.exists_soundOn
    obtain ⟨volume', lost', -, hsound'⟩ := hsound.exists_advanced hpermits hrun
    exact .perform ih (.inl hpermits) hrun hsound.sound.volumes_eq hsound'.sound.volumes_eq nofun

/-- A write through a handle of a removed file, none of whose sectors was handed out again to
anybody else, runs through if its end can be told. It changes neither the directory nor any file in
it, and takes no sectors but those that the removed file needs to become longer. -/
theorem write_unharmed (h : Outlasting numSectors retired device session)
    (hin : session.fileIn? slot = some (file, volume))
    (hretired : file.item.headerSector ∈ retired) (hsum : offset + data.length < sumLimit)
    (hrequest : request = .writeAt slot offset data ∨
      request = .write slot data ∧ offset = file.item.position) :
    ∃ count session' device' volume',
      (session.perform request).run device = (.ok (.count count, session'), device') ∧
      session'.volumes = #[volume'] ∧
      Unharmed volume device numSectors file.item (offset + data.length) volume' device' := by
  obtain ⟨volume, lost, hsound, hretires⟩ := h.exists_soundOn
  obtain ⟨-, -, rfl⟩ := hsound.sound.of_fileIn? hin
  obtain ⟨header, hdormant⟩ := hretires.exists_dormant _ hretired
  obtain ⟨⟨answer, session'⟩, device', hrun, hblocks', count, volume', lost', header', rfl, hstrays,
    hlength⟩ :=
      (hsound.sound.yields_write_strays hin hdormant hsum hrequest).exists_run hsound.hasBlocks
  have hdormant' := hstrays.onVolume.dormant
  have hsound' := hsound.of_strays hblocks' (hsound.rings.inRing_of_run hrun) hstrays
  refine ⟨count, session', device', volume', hrun, hstrays.volumes_eq,
    hstrays.onVolume.directory_eq, hstrays.onVolume.contents?_eq, ⟨header, header', ?_, ?_, hlength,
    hstrays.onVolume.numFree_eq⟩, hsound'.run_mount⟩
  · exact FileHeader.run_loadHome hsound.hasBlocks hdormant.lt_count hdormant.header?_eq
  · exact FileHeader.run_loadHome hblocks' hdormant'.lt_count hdormant'.header?_eq

end Outlasting

end Runs

/-- Making and removing files opens and closes none. -/
theorem always_changeVolume_files_eq (session : Session) (slot : Slot)
    (change : Volume → ExceptT Refusal Transfer Volume) :
    (session.changeVolume slot change).Always fun answer => answer.2.files = session.files := by
  rw [changeVolume, onVolume]
  split
  · refine Transfer.always_bind fun answer => ?_
    split <;> exact Transfer.always_pure rfl
  · exact Transfer.always_pure rfl

/-- On a memory disk of 20 blocks, a file is removed while it is open, and then written through the
handle with one byte and with more bytes than it had sectors for. -/
theorem Outlasting.write_unharmed_of_remove : ∃ (session : Session) (device : RamDisk sectorSize)
    (file : Attached OpenFile) (volume : Volume),
    (start.performAll [.format 0 20, .create 0 "a" 1, .openFile 0 0 "a", .remove 0 "a",
      .names 0]).run (RamDisk.zeroed 20 sectorSize) =
        (.ok ([.done, .done, .done, .done, .names []], session), device) ∧
    session.fileIn? 0 = some (file, volume) ∧
    Outlasting 20 [file.item.headerSector] device session ∧
    ∀ data ∈ [[255], List.replicate 200 255], 0 + data.length < sumLimit ∧
      ∃ count session' device' volume',
        (session.perform (.writeAt 0 0 data)).run device = (.ok (.count count, session'), device') ∧
        session'.volumes = #[volume'] ∧
        Unharmed volume device 20 file.item (0 + data.length) volume' device' := by
  have hanswers : answers? ((start.performAll [.format 0 20, .create 0 "a" 1, .openFile 0 0 "a",
      .remove 0 "a", .names 0]).run (RamDisk.zeroed 20 sectorSize)) =
        some [.done, .done, .done, .done, .names []] := by decide +kernel
  obtain ⟨session, device, hrun⟩ := exists_of_answers? hanswers
  obtain ⟨session₁, device₁, hformat, hrest⟩ := run_performAll_cons hrun
  obtain ⟨session₂, device₂, hcreate, hrest⟩ := run_performAll_cons hrest
  obtain ⟨session₃, device₃, hopen, hrest⟩ := run_performAll_cons hrest
  obtain ⟨session₄, device₄, hremove, hrest⟩ := run_performAll_cons hrest
  obtain ⟨session₅, device₅, hnames, hrest⟩ := run_performAll_cons hrest
  obtain ⟨-, rfl, rfl⟩ := run_performAll_nil hrest
  have hpermits₁ : session₁.Permits (fun _ => True) (.create 0 "a" 1) := trivial
  have hpermits₂ : session₂.Permits (fun _ => True) (.openFile 0 0 "a") := trivial
  have hpermits₃ : session₃.Permits (fun _ => True) (.remove 0 "a") := trivial
  have hreachable₂ : Reachable (fun _ => True) 20 device₂ session₂ :=
    .perform (.format (RamDisk.hasBlocks _) hformat) hpermits₁ hcreate
  have hreachable₃ := hreachable₂.perform hpermits₂ hopen
  obtain ⟨volume₂, lost₂, hsound₂, -⟩ := hreachable₂.exists_soundOn
  obtain ⟨file, i, rfl, rfl, hlists⟩ := hsound₂.sound.exists_lists_of_openFile hopen
  obtain ⟨volume₃, lost₃, hsound₃, -⟩ := hreachable₃.exists_soundOn
  obtain rfl := eq_of_volumes_eq hsound₂.sound.volumes_eq hsound₃.sound.volumes_eq
  obtain ⟨volume, lost, -, hsound⟩ := hsound₃.exists_advanced hpermits₃ hremove
  -- the names tell that the directory has no file any more
  have hgone : volume.names = [] ∧ session = session₄ ∧ device = device₄ := by
    rw [Session.perform] at hnames
    rcases hsound.sound.onVolume_cases 0 _ with heq | ⟨-, heq⟩
    · rw [heq] at hnames
      cases hnames
    · rw [heq, Transfer.run_pure] at hnames
      simp only [Prod.mk.injEq, Except.ok.injEq, Answer.names.injEq] at hnames
      exact ⟨hnames.1.1, hnames.1.2.symm, hnames.2.symm⟩
  obtain ⟨hnone, rfl, rfl⟩ := hgone
  have houtlasting : Outlasting 20 [file.headerSector] device session := by
    refine .perform (.of_reachable hreachable₃) (.inl hpermits₃) hremove
      hsound₃.sound.volumes_eq hsound.sound.volumes_eq fun sector hsector => ?_
    obtain rfl := List.mem_singleton.1 hsector
    -- removing hands out nothing: the sectors of the file were taken before
    refine ⟨.inr ⟨i, hlists⟩, fun j hj => ?_, .inr fun s hs hout => ?_⟩
    · have hunused := hj.1
      rw [Directory.isUnused_of_names_eq_nil hnone] at hunused
      cases hunused
    · have hs := (hsound₃.sound.intact.exists_holds hlists).2 hs
      exact hout.1 (hsound₃.sound.intact.partition.mem (Volume.mem_sectorsOf_of_nil _ hs).2)
  -- the handle is still in its slot, for removing touches no open file
  have hfiles : session.files = (session₂.setFile 0 ⟨0, file⟩).files :=
    (always_changeVolume_files_eq _ _ _).of_run hremove
  have hin : session.fileIn? 0 = some (⟨0, file⟩, volume) := by
    have hslot : session.files[0]? = some ⟨0, file⟩ := by
      rw [hfiles, setFile, getElem?_insert_slot, if_pos rfl]
    exact (hsound.sound.fileIn?_eq hslot).trans (if_pos rfl)
  refine ⟨_, device, ⟨0, file⟩, volume, hrun, hin, houtlasting, fun data hdata => ?_⟩
  have hsum : 0 + data.length < sumLimit := by
    simp only [List.mem_cons, List.not_mem_nil, or_false] at hdata
    rcases hdata with rfl | rfl
    · decide
    · rw [List.length_replicate]
      decide
  exact ⟨hsum, houtlasting.write_unharmed hin (List.mem_singleton_self _) hsum (.inl rfl)⟩

/-- Where the sectors of a removed file were handed out again, a write through its handle reaches
the file that has them now; and also where they were not, a write that makes it longer takes
sectors. -/
theorem write_reaches_new_file :
    answers? ((start.performAll [.format 0 20, .create 0 "a" 1, .openFile 0 0 "a", .remove 0 "a",
        .create 0 "b" 1, .openFile 0 1 "b", .readAt 1 0 [7], .writeAt 0 0 [255],
        .readAt 1 0 [7]]).run (RamDisk.zeroed 20 sectorSize)) =
      some [.done, .done, .done, .done, .done, .done, .filled ⟨1, [0]⟩, .count 1,
        .filled ⟨1, [255]⟩] ∧
    ∀ requests ∈ [([], 13), ([.writeAt 0 0 (List.replicate 200 255)], 12)],
      (((start.performAll ([.format 0 20, .create 0 "a" 1, .openFile 0 0 "a",
          .remove 0 "a"] ++ requests.1)).run (RamDisk.zeroed 20 sectorSize)).1.toOption.map
        fun outcome => outcome.2.volumes.toList.map Volume.numFree) = some [requests.2] := by
  decide +kernel

end Session

end SectorStore
