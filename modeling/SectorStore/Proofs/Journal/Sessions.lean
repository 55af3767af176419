import SectorStore.Proofs.Journal.Pipes
import SectorStore.Proofs.Session.Steps

/-!
# Journals of sessions

In a sound session whose volume is told by a journal, every permitted request that does not change
the clock runs through in the same way with the journal as without, and leaves the volume told
(`Sound.records_perform`). Requests that only look leave volume and journal alone.
-/

namespace SectorStore

/-- The request gives a volume another clock. -/
def Request.SetsClock : Request → Prop
  | .setClock .. => True
  | _ => False

namespace Session

open Journaling

variable {session session' : Session} {volume volume' : Volume} {disk disk' : Disk}
  {lost : List SectorId} {request : Request} {slot : Slot} {allowed : String → Prop}
  {readings : Nat → String} {journal start : Journal}

/-- The events tell of a request that it has made a file, in the sector that was next, or that it
has changed files that it writes. -/
def Notes (session : Session) (volume : Volume) (request : Request) (answer : Answer)
    (events : Journal) : Prop :=
  match request.made? answer with
  | some (slot, name) => ∃ sector, session.nextHeader? slot = some sector ∧
      events = [.made sector name]
  | none => ∀ event ∈ events, ∃ i, (volume.directory.entry i).isUnused = false ∧
      event = .changed (volume.directory.entry i).header ∧
      session.Writes request (volume.directory.entry i)

/-- A request leaves one volume, which is told by a journal that has gone on with what is to be
noted of the request. -/
def LeavesTold (session : Session) (volume : Volume) (request : Request)
    (readings : Nat → String) (start : Journal) (answer : Answer × Session) (journal : Journal)
    (disk : Disk) : Prop :=
  ∃ volume' events, answer.2.volumes = #[volume'] ∧ journal = start ++ events ∧
    volume'.Told disk readings journal ∧ session.Notes volume request answer.1 events

/-- A request that has made no file is no event. -/
theorem made_eq_nil {answer : Answer} (h : request.made? answer = none) :
    session.made request answer = [] := by
  rw [made, h]

/-- Nothing has happened to the volume. -/
theorem leavesTold_self {answer : Answer} (hvolumes : session'.volumes = #[volume'])
    (htold : volume'.Told disk readings journal) (hmade : request.made? answer = none) :
    session.LeavesTold volume request readings journal (answer, session') journal disk := by
  refine ⟨volume', [], hvolumes, (List.append_nil _).symm, htold, ?_⟩
  rw [Notes, hmade]
  nofun

/-- What has happened to the volume are changes of a file that the request writes. -/
theorem leavesTold_changed {answer : Answer} {i : Fin numEntries} {sector : SectorId}
    (hvolumes : session'.volumes = #[volume']) (htold : volume'.Told disk readings journal)
    (hmade : request.made? answer = none) (hlists : volume.Lists sector i)
    (hwrites : session.Writes request (volume.directory.entry i))
    (hgoes : start.GoesOn journal (· = .changed sector)) :
    session.LeavesTold volume request readings start (answer, session') journal disk := by
  obtain ⟨events, rfl, hevents⟩ := hgoes
  refine ⟨volume', events, hvolumes, rfl, htold, ?_⟩
  rw [Notes, hmade]
  exact fun event hevent => ⟨i, hlists.1, hlists.2 ▸ hevents event hevent, hwrites⟩

/-- A request that is carried out as it is, with the file that it has made, if any, as an event. -/
theorem records_noted
    (h : (session.perform request).Yields disk fun answer disk' =>
      session.LeavesTold volume request readings journal answer
        (journal ++ session.made request answer.1) disk') :
    Records (do
        let outcome ← session.perform request
        note (session.made request outcome.1)
        return outcome)
      (session.perform request) disk journal
      (session.LeavesTold volume request readings journal) := by
  obtain ⟨answer, disk', hrun, hleaves⟩ := h
  refine ⟨answer, _, disk', ?_, hrun, hleaves⟩
  show ((session.perform request >>= fun outcome => pure (outcome, journal)) >>= _ :
    Transfer _).run disk = _
  rw [bind_assoc, Transfer.run_bind, hrun]
  rfl

namespace Sound

/-! ## Requests that make and remove files -/

/-- No file was made. -/
theorem leavesTold_noted {answer : Answer} (hvolumes : session'.volumes = #[volume'])
    (htold : volume'.Told disk readings journal) (hmade : request.made? answer = none) :
    session.LeavesTold volume request readings journal (answer, session')
      (journal ++ session.made request answer) disk := by
  rw [made_eq_nil hmade, List.append_nil]
  exact leavesTold_self hvolumes htold hmade

/-- The next file will have its header in the sector that is free first. -/
theorem nextHeader?_eq (h : session.Sound volume disk lost) {sector : SectorId} {map : FreeMap}
    (hmounted : session.mounted[slot]? = some 0)
    (htake : volume.freeMap.take? = some (sector, map)) :
    session.nextHeader? slot = some sector := by
  simp only [nextHeader?, h.volumeIn?_eq, if_pos hmounted, Option.bind_eq_bind, Option.bind_some,
    htake]
  rfl

/-- What is noted of a request that has made a file is the file, in the sector that was free
first. -/
theorem made_eq_singleton (h : session.Sound volume disk lost) {answer : Answer} {name : String}
    {sector : SectorId} {map : FreeMap} (hmounted : session.mounted[slot]? = some 0)
    (htake : volume.freeMap.take? = some (sector, map))
    (hmade : request.made? answer = some (slot, name)) :
    session.made request answer = [.made sector name] := by
  rw [made, hmade]
  simp only [h.nextHeader?_eq hmounted htake]
  rfl

/-- A file was made in the sector that was free first. -/
theorem leavesTold_made (h : session.Sound volume disk lost) {answer : Answer} {name : String}
    {sector : SectorId} {map : FreeMap} (hmounted : session.mounted[slot]? = some 0)
    (htake : volume.freeMap.take? = some (sector, map))
    (hmade : request.made? answer = some (slot, name)) (hvolumes : session'.volumes = #[volume'])
    (htold : volume'.Told disk' readings (journal ++ [.made sector name])) :
    session.LeavesTold volume request readings journal (answer, session')
      (journal ++ session.made request answer) disk' := by
  rw [h.made_eq_singleton hmounted htake hmade]
  refine ⟨volume', _, hvolumes, rfl, htold, ?_⟩
  rw [Notes, hmade]
  exact ⟨sector, h.nextHeader?_eq hmounted htake, rfl⟩

theorem yields_create_told (h : session.Sound volume disk lost)
    (htold : volume.Told disk readings journal) (name : String) (size : Nat) :
    (session.perform (.create slot name size)).Yields disk fun answer disk' =>
      session.LeavesTold volume (.create slot name size) readings journal answer
        (journal ++ session.made (.create slot name size) answer.1) disk' := by
  refine h.yields_onVolume (leavesTold_noted h.volumes_eq htold rfl) fun hmounted => ?_
  refine (htold.yields_create h.intact name size).bind ?_
  rintro (cause | volume') disk' houtcome
  · obtain rfl : disk' = disk := houtcome
    exact Transfer.yields_pure.2 (leavesTold_noted h.volumes_eq htold rfl)
  · obtain ⟨sector, map, htake, htold'⟩ := houtcome
    exact Transfer.yields_pure.2
      (h.leavesTold_made hmounted htake rfl (volumes_setVolume h.volumes_eq volume') htold')

theorem yields_remove_told (h : session.Sound volume disk lost)
    (htold : volume.Told disk readings journal) (name : String) :
    (session.perform (.remove slot name)).Yields disk fun answer disk' =>
      session.LeavesTold volume (.remove slot name) readings journal answer
        (journal ++ session.made (.remove slot name) answer.1) disk' := by
  refine h.yields_onVolume (leavesTold_noted h.volumes_eq htold rfl) fun _ => ?_
  refine (htold.yields_remove h.intact name).bind ?_
  rintro (cause | volume') disk' houtcome
  · obtain rfl : disk' = disk := houtcome
    exact Transfer.yields_pure.2 (leavesTold_noted h.volumes_eq htold rfl)
  · exact Transfer.yields_pure.2
      (leavesTold_noted (volumes_setVolume h.volumes_eq volume') houtcome rfl)

/-- Dropping a pipe is no event. -/
theorem yields_discard_told (h : session.Sound volume disk lost)
    (htold : volume.Told disk readings journal) (pipe : Attached Pipe) :
    (session.discard pipe).Yields disk fun session' disk' =>
      ∃ volume', session'.volumes = #[volume'] ∧ volume'.Told disk' readings journal := by
  rw [discard, h.getElem?_volumes]
  split_ifs with hzero
  · refine (htold.yields_drop h.intact pipe.item).bind fun volume' disk' htold' => ?_
    exact Transfer.yields_pure.2 ⟨volume', hzero ▸ volumes_setVolume h.volumes_eq volume', htold'⟩
  · exact Transfer.yields_pure.2 ⟨volume, h.volumes_eq, htold⟩

theorem yields_makePipe_told (h : session.Sound volume disk lost)
    (htold : volume.Told disk readings journal) {pipeSlot : Slot} {size : Nat}
    (hfits : session.SumsFit (.makePipe slot pipeSlot size)) :
    (session.perform (.makePipe slot pipeSlot size)).Yields disk fun answer disk' =>
      session.LeavesTold volume (.makePipe slot pipeSlot size) readings journal answer
        (journal ++ session.made (.makePipe slot pipeSlot size) answer.1) disk' := by
  refine h.yields_onVolume (leavesTold_noted h.volumes_eq htold rfl) fun hmounted => ?_
  have hsum := hfits 0 volume ((h.volumeIn?_eq slot).trans (if_pos hmounted))
  refine ((Pipe.yields_make h.intact session.nextPipe hsum).and
    (htold.yields_make h.intact session.nextPipe hsum)).bind ?_
  rintro ⟨cause | ⟨pipe, volume₁⟩, next⟩ disk₁ ⟨⟨-, houtcome⟩, hmakes⟩
  · obtain rfl : disk₁ = disk := houtcome
    exact Transfer.yields_pure.2 (leavesTold_noted h.volumes_eq htold rfl)
  obtain ⟨-, i, hmade⟩ := houtcome
  obtain ⟨sector, map, htake, htold₁⟩ := hmakes pipe volume₁ rfl
  let session₁ := (({ session with nextPipe := next }).setVolume 0 volume₁).setPipe pipeSlot
    ⟨0, pipe⟩
  have hvolumes₁ : session₁.volumes = #[volume₁] := volumes_setVolume h.volumes_eq volume₁
  -- a pipe that was in the slot is dropped once the new one is made
  rcases hold : session.pipes[pipeSlot]? with _ | old
  · simp only [hold]
    exact Transfer.yields_pure.2 (h.leavesTold_made hmounted htake rfl hvolumes₁ htold₁)
  · simp only [hold]
    obtain ⟨lost₁, hintact₁, -⟩ := hmade.created.intact
    have h₁ : session₁.Sound volume₁ disk₁ lost₁ := ⟨hvolumes₁, hintact₁, hmade.created.flushed⟩
    refine (h₁.yields_discard_told htold₁ old).bind ?_
    rintro session' disk' ⟨volume', hvolumes, htold'⟩
    exact Transfer.yields_pure.2 (h.leavesTold_made hmounted htake rfl hvolumes htold')

theorem yields_dropPipe_told (h : session.Sound volume disk lost)
    (htold : volume.Told disk readings journal) :
    (session.perform (.dropPipe slot)).Yields disk fun answer disk' =>
      session.LeavesTold volume (.dropPipe slot) readings journal answer
        (journal ++ session.made (.dropPipe slot) answer.1) disk' := by
  refine h.yields_onPipe (leavesTold_noted h.volumes_eq htold rfl) fun pipe _ _ _ => ?_
  let session₁ : Session := { session with pipes := session.pipes.erase slot }
  have h₁ : session₁.Sound volume disk lost := ⟨h.volumes_eq, h.intact, h.flushed⟩
  refine (h₁.yields_discard_told htold pipe).bind ?_
  rintro session' disk' ⟨volume', hvolumes, htold'⟩
  exact Transfer.yields_pure.2 (leavesTold_noted hvolumes htold' rfl)

/-! ## Requests that write -/

/-- A write through an open file is noted if it has changed the file. -/
theorem records_writeFile (h : session.Sound volume disk lost) (request : Request)
    (htold : volume.Told disk readings journal) (hlisted : session.FileIsListed slot)
    {file : Attached OpenFile} (hin : session.fileIn? slot = some (file, volume))
    (hwrites : ∀ entry : DirEntry, entry.header = file.item.headerSector →
      session.Writes request entry) {offset : Nat} {data : Bytes}
    (hsum : offset + data.length < sumLimit) :
    Records (writeAt file.item volume offset data) (file.item.writeAt volume offset data) disk
      journal fun answer journal' disk' => ∀ answer' session',
        session'.volumes = (session.setVolume file.volume answer.2).volumes →
        request.made? answer' = none →
        session.LeavesTold volume request readings journal (answer', session') journal' disk' := by
  obtain ⟨i, hlists⟩ := hlisted file volume hin
  obtain ⟨-, hzero, -⟩ := h.of_fileIn? hin
  refine (htold.records_writeAt h.intact hlists hsum).mono ?_
  rintro answer journal' disk' ⟨-, -, htold', hgoes⟩ answer' session' hvolumes hmade
  rw [hzero, volumes_setVolume h.volumes_eq] at hvolumes
  exact leavesTold_changed hvolumes htold' hmade hlists (hwrites _ hlists.2) hgoes

/-- A pipe that is at hand is told, and what is done with it leaves its volume told. -/
theorem exists_isTold (h : session.Sound volume disk lost)
    (hrings : session.AllHave (fun _ => True) Pipe.InRing) (request : Request)
    (htold : volume.Told disk readings journal) (hlisted : session.PipeIsListed slot)
    {old : Attached Pipe} (hin : session.pipeIn? slot = some (old, volume))
    (hwrites : ∀ entry : DirEntry, entry.header = old.item.file.headerSector →
      session.Writes request entry) :
    ∃ sector, old.item.IsTold volume disk lost sector readings journal journal ∧
      ∀ pipe volume' journal' disk' answer,
        pipe.IsTold volume' disk' lost sector readings journal journal' →
        request.made? answer = none →
        session.LeavesTold volume request readings journal
          (answer, session.updatePipe slot old pipe volume') journal' disk' := by
  obtain ⟨i, hlists, -⟩ := hlisted old volume hin
  obtain ⟨hold, hzero, -⟩ := h.of_pipeIn? hin
  refine ⟨_, ⟨rfl, ⟨i, h.intact, hlists, hrings.pipe _ old hold⟩, htold, .refl _ _⟩, ?_⟩
  intro pipe volume' journal' disk' answer hpipe hmade
  exact leavesTold_changed (volumes_updatePipe h.volumes_eq hzero slot pipe volume') hpipe.told
    hmade hlists (hwrites _ hlists.2) hpipe.goes_on

/-! ## All requests -/

/-- A permitted request whose sums fit and that does not change the clock does with the journal what
it does without, and leaves the volume told. -/
theorem records_perform (h : session.Sound volume disk lost)
    (hrings : session.AllHave (fun _ => True) Pipe.InRing)
    (htold : volume.Told disk readings journal) (hpermits : session.Permits allowed request)
    (hfits : session.SumsFit request) (hclock : ¬ request.SetsClock) :
    Records (session.journal request) (session.perform request) disk journal
      (session.LeavesTold volume request readings journal) := by
  have hself : ∀ answer : Answer, request.made? answer = none →
      session.LeavesTold volume request readings journal (answer, session) journal disk :=
    fun _ => leavesTold_self h.volumes_eq htold
  have hlook : request.OnlyLooks → (∀ answer, request.made? answer = none) →
      (session.perform request).Yields disk fun answer disk' =>
        session.LeavesTold volume request readings journal answer
          (journal ++ session.made request answer.1) disk' := by
    intro hlooks hmade
    refine (h.yields_look hlooks hpermits hfits).mono ?_
    rintro answer _ ⟨rfl, hvolumes, -⟩
    exact leavesTold_noted (hvolumes.trans h.volumes_eq) htold (hmade answer.1)
  cases request with
  -- most requests are carried out as they are, with the file that they make as their only event
  | format slot numSectors => exact hpermits.elim
  | mount slot numSectors => exact hpermits.elim
  | setClock slot clock => exact absurd trivial hclock
  | create slot name size => exact records_noted (h.yields_create_told htold name size)
  | remove slot name => exact records_noted (h.yields_remove_told htold name)
  | makePipe slot pipeSlot size => exact records_noted (h.yields_makePipe_told htold hfits)
  | dropPipe slot => exact records_noted (h.yields_dropPipe_told htold)
  -- what may write a file is repeated with the journal
  | writeAt slot offset data =>
    rw [Session.journal, perform, onFile]
    rcases hin : session.fileIn? slot with _ | ⟨file, volume₁⟩
    · exact records_pure (hself _ rfl)
    obtain ⟨-, -, rfl⟩ := h.of_fileIn? hin
    refine (h.records_writeFile (.writeAt slot offset data) htold hpermits hin
      (fun _ heq => ⟨file, _, hin, heq⟩) (hfits file _ hin)).bind fun _ _ _ hleaves => ?_
    exact records_pure (hleaves _ _ rfl rfl)
  | write slot data =>
    rw [Session.journal, perform, onFile]
    rcases hin : session.fileIn? slot with _ | ⟨file, volume₁⟩
    · exact records_pure (hself _ rfl)
    obtain ⟨-, -, rfl⟩ := h.of_fileIn? hin
    simp only [OpenFile.write, bind_assoc]
    refine (h.records_writeFile (.write slot data) htold hpermits hin
      (fun _ heq => ⟨file, _, hin, heq⟩) (hfits file _ hin)).bind fun _ _ _ hleaves => ?_
    exact records_pure (hleaves _ _ rfl rfl)
  | stepPipe slot peerStep =>
    rw [Session.journal, perform, onPipe]
    rcases hin : session.pipeIn? slot with _ | ⟨old, volume₁⟩
    · exact records_pure (hself _ rfl)
    obtain ⟨-, -, rfl⟩ := h.of_pipeIn? hin
    obtain ⟨sector, hpipe, hleaves⟩ := h.exists_isTold hrings (.stepPipe slot peerStep) htold
      hpermits hin fun _ heq => ⟨old, _, hin, heq⟩
    exact (hpipe.records_step peerStep).bind fun _ _ _ hpipe' =>
      records_pure (hleaves _ _ _ _ _ hpipe' rfl)
  | readWaiting slot buffer peer =>
    rw [Session.journal, perform, onPipe]
    rcases hin : session.pipeIn? slot with _ | ⟨old, volume₁⟩
    · exact records_pure (hself _ rfl)
    obtain ⟨-, -, rfl⟩ := h.of_pipeIn? hin
    obtain ⟨sector, hpipe, hleaves⟩ := h.exists_isTold hrings (.readWaiting slot buffer peer) htold
      hpermits hin fun _ heq => ⟨old, _, hin, heq⟩
    exact (hpipe.records_readWaiting buffer peer).bind fun _ _ _ hpipe' =>
      records_pure (hleaves _ _ _ _ _ hpipe' rfl)
  | writeWaiting slot data peer =>
    rw [Session.journal, perform, onPipe]
    rcases hin : session.pipeIn? slot with _ | ⟨old, volume₁⟩
    · exact records_pure (hself _ rfl)
    obtain ⟨-, -, rfl⟩ := h.of_pipeIn? hin
    obtain ⟨sector, hpipe, hleaves⟩ := h.exists_isTold hrings (.writeWaiting slot data peer) htold
      hpermits hin fun _ heq => ⟨old, _, hin, heq⟩
    exact (hpipe.records_writeWaiting data peer).bind fun _ _ _ hpipe' =>
      records_pure (hleaves _ _ _ _ _ hpipe' rfl)
  | _ => exact records_noted (hlook trivial fun _ => rfl)

end Sound

end Session

end SectorStore
