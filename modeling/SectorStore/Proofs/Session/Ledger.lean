import SectorStore.Proofs.Session.Steps

/-!
# What was written

Beside a session goes a `Ledger` of the positions that requests wrote in each file, and of the pipes
that still have the file that they were made with. The ledger is told by requests, answers and
sessions alone (`Ledger.after`), and begins anew for each new file.

It `Fits` the bytes of the files if all that it does not list are zero. A permitted request keeps it
so, as long as its sums fit and pipes are used only while they have their files
(`Fits.yields_perform`).
-/

namespace SectorStore

/-- The request makes a pipe and puts it into a slot. -/
def Request.MakesPipeIn (slot : Slot) : Request → Answer → Prop
  | .makePipe _ other _, .text _ => other = slot
  | _, _ => False

theorem Request.MakesPipeIn.makesPipe {slot : Slot} {request : Request} {answer : Answer}
    (h : request.MakesPipeIn slot answer) : request.MakesPipe := by
  cases request with
  | makePipe volumeSlot other size => trivial
  | _ => exact h.elim

theorem Request.UsesPipe.not_makesPipe {slot : Slot} {request : Request}
    (h : request.UsesPipe slot) : ¬ request.MakesPipe := by
  cases request with
  | makePipe volumeSlot other size => exact h.elim
  | _ => exact id

namespace Session

/-- The sector is that of the header of a file in the directory. -/
def HasFile (session : Session) (sector : SectorId) : Prop :=
  ∃ volume ∈ session.volumes, ∃ i, volume.Lists sector i

/-- The request writes a position of the file with its header in a sector: the answer tells how many
bytes were written through a handle, and a pipe writes as many places of its ring as it takes bytes
in. -/
def WritesAt (session : Session) (request : Request) (answer : Answer) (session' : Session)
    (sector : SectorId) (position : Nat) : Prop :=
  match request, answer with
  | .writeAt slot offset _, .count n =>
    ∃ file, session.files[slot]? = some file ∧ file.item.headerSector = sector ∧
      offset ≤ position ∧ position < offset + n
  | .write slot _, .count n =>
    ∃ file, session.files[slot]? = some file ∧ file.item.headerSector = sector ∧
      file.item.position ≤ position ∧ position < file.item.position + n
  | .stepPipe slot _, answer | .readWaiting slot .., answer | .writeWaiting slot .., answer =>
    ∃ pipe pipe', session.pipes[slot]? = some pipe ∧ session'.pipes[slot]? = some pipe' ∧
      pipe.item.file.headerSector = sector ∧
      pipe.item.Reaches (pipe.item.taken answer.handed pipe'.item) position
  | _, _ => False

/-- A request on a pipe writes the places of the ring that the pipe reaches. -/
theorem writesAt_of_usesPipe {session session' : Session} {slot : Slot}
    {request : Request} {answer : Answer} {sector : SectorId} {position : Nat}
    (h : request.UsesPipe slot)
    (hreaches : ∃ pipe pipe', session.pipes[slot]? = some pipe ∧
      session'.pipes[slot]? = some pipe' ∧
      pipe.item.file.headerSector = sector ∧
      pipe.item.Reaches (pipe.item.taken answer.handed pipe'.item) position) :
    session.WritesAt request answer session' sector position := by
  cases request <;> first | exact h.elim | exact (show _ = slot from h) ▸ hreaches

end Session

/-- What was written through a session, and which pipes still have their files. -/
structure Ledger where
  /-- The positions that were written in the file with its header in a sector. -/
  written : SectorId → Nat → Prop
  /-- The pipe in a slot still has the file that it was made with. -/
  keepsFile : Slot → Prop

namespace Ledger

/-- The ledger in which nothing is written. -/
def blank : Ledger where
  written _ _ := False
  keepsFile _ := False

/-- The ledger after a request. In a file that was not there before nothing was written. -/
def after (ledger : Ledger) (session : Session) (request : Request) (answer : Answer)
    (session' : Session) : Ledger where
  written sector position :=
    (session.HasFile sector ∧ ledger.written sector position) ∨
      session.WritesAt request answer session' sector position
  keepsFile slot :=
    (ledger.keepsFile slot ∨ request.MakesPipeIn slot answer) ∧
      ∀ pipe, session'.pipes[slot]? = some pipe → session'.HasFile pipe.item.file.headerSector

/-- Pipes are used only while they have the files that they were made with. -/
def Allows (ledger : Ledger) (session : Session) : Request → Prop
  | .stepPipe slot _ | .readWaiting slot .. | .writeWaiting slot .. =>
    ∀ pipe, session.pipes[slot]? = some pipe → ledger.keepsFile slot
  | _ => True

theorem Allows.keepsFile {ledger : Ledger} {session : Session} {request : Request} {slot : Slot}
    {pipe : Attached Pipe} (h : ledger.Allows session request) (huses : request.UsesPipe slot)
    (hpipe : session.pipes[slot]? = some pipe) : ledger.keepsFile slot := by
  cases request with
  | stepPipe other step =>
    obtain rfl : other = slot := huses
    exact h pipe hpipe
  | readWaiting other buffer peer =>
    obtain rfl : other = slot := huses
    exact h pipe hpipe
  | writeWaiting other data peer =>
    obtain rfl : other = slot := huses
    exact h pipe hpipe
  | _ => exact huses.elim

variable {ledger : Ledger} {session session' : Session} {volume volume' : Volume}
  {disk disk' : Disk} {lost lost' : List SectorId} {request : Request} {answer : Answer}
  {slot : Slot} {i : Fin numEntries} {allowed : String → Prop}

/-- The file of a pipe of the volume is in the directory, and is as long as the ring. -/
def HoldsRing (volume : Volume) (disk : Disk) (pipe : Attached Pipe) : Prop :=
  pipe.volume = 0 ∧ ∃ i bytes, volume.Lists pipe.item.file.headerSector i ∧
    volume.contents? disk i = some bytes ∧ pipe.item.ringSize ≤ bytes.length

/-- The bytes that are not in the ledger are zero, and pipes that have their files find there all
places of their rings. -/
structure Fits (ledger : Ledger) (session : Session) (volume : Volume) (disk : Disk) : Prop where
  /-- What was not written is zero. -/
  getD_eq : ∀ i bytes, volume.contents? disk i = some bytes → ∀ position,
    ¬ ledger.written (volume.directory.entry i).header position → bytes.getD position 0 = 0
  /-- A file of a pipe is as long as the ring. -/
  holdsRing : ∀ (slot : Slot) (pipe : Attached Pipe), ledger.keepsFile slot →
    session.pipes[slot]? = some pipe → HoldsRing volume disk pipe

/-- After a request the ledger fits the files of the volume. -/
def FitsAfter (ledger : Ledger) (session : Session) (request : Request) (answer : Answer × Session)
    (disk : Disk) : Prop :=
  ∃ volume, answer.2.volumes = #[volume] ∧
    (ledger.after session request answer.1 answer.2).Fits answer.2 volume disk

theorem hasFile_iff (hvolumes : session.volumes = #[volume]) {sector : SectorId} :
    session.HasFile sector ↔ ∃ i, volume.Lists sector i := by
  rw [Session.HasFile, hvolumes]
  constructor
  · rintro ⟨volume₁, hmem, hlists⟩
    obtain rfl := Array.mem_singleton.1 hmem
    exact hlists
  · exact fun hlists => ⟨volume, Array.mem_singleton.2 rfl, hlists⟩

theorem isUnused_eq_of_contents? {bytes : Bytes} (h : volume.contents? disk i = some bytes) :
    (volume.directory.entry i).isUnused = false := by
  obtain ⟨header, hheader, -⟩ := Volume.Intact.header?_of_contents? h
  exact (Volume.header?_eq_some_iff.1 hheader).1

/-! ## What a request does to files -/

/-- Every file is new, or is there as before but for the positions that were written, and has not
become shorter. -/
def WritesOnly (volume : Volume) (disk : Disk) (written : SectorId → Nat → Prop) (volume' : Volume)
    (disk' : Disk) : Prop :=
  ∀ i : Fin numEntries, (volume'.directory.entry i).isUnused = false →
    (volume'.directory.entry i = volume.directory.entry i ∧ ∃ bytes bytes',
      volume.contents? disk i = some bytes ∧ volume'.contents? disk' i = some bytes' ∧
      bytes.length ≤ bytes'.length ∧ ∀ position,
        ¬ written (volume.directory.entry i).header position →
        bytes'.getD position 0 = bytes.getD position 0) ∨ volume.IsNew volume' disk' i

/-- A request that writes no file. -/
theorem writesOnly_of_evolves {removes writes : DirEntry → Prop} (hintact : volume.Intact disk lost)
    (h : volume.Evolves disk removes writes volume' disk' lost')
    (hunwritten : ∀ entry, ¬ writes entry) (written : SectorId → Nat → Prop) :
    WritesOnly volume disk written volume' disk' := by
  intro i hused
  refine (h.entry_from i hused (hunwritten _)).imp_left ?_
  rintro ⟨hentry, hcontents⟩
  obtain ⟨bytes, hbytes⟩ := hintact.exists_contents? (hentry ▸ hused)
  exact ⟨hentry, bytes, bytes, hbytes, hcontents.trans hbytes, Nat.le_refl _, fun _ _ => rfl⟩

/-- A request that writes one file. -/
theorem writesOnly_of_changesOnly {written : SectorId → Nat → Prop} {bytes bytes' : Bytes}
    (hintact : volume.Intact disk lost) (h : volume.ChangesOnly disk i volume' disk')
    (hbytes : volume.contents? disk i = some bytes)
    (hbytes' : volume'.contents? disk' i = some bytes') (hlength : bytes.length ≤ bytes'.length)
    (hsame : ∀ position, ¬ written (volume.directory.entry i).header position →
      bytes'.getD position 0 = bytes.getD position 0) :
    WritesOnly volume disk written volume' disk' := by
  intro j hused
  have hentry : volume'.directory.entry j = volume.directory.entry j := by rw [h.directory_eq]
  refine .inl ⟨hentry, ?_⟩
  by_cases hj : j = i
  · subst hj
    exact ⟨bytes, bytes', hbytes, hbytes', hlength, hsame⟩
  · obtain ⟨bytes₁, hbytes₁⟩ := hintact.exists_contents? (hentry ▸ hused)
    exact ⟨bytes₁, bytes₁, hbytes₁, (h.contents?_of_ne j hj).trans hbytes₁, Nat.le_refl _,
      fun _ _ => rfl⟩

/-- A file of a pipe that is still there after a request is still as long as the ring. -/
theorem HoldsRing.after {written : SectorId → Nat → Prop} {pipe pipe' : Attached Pipe}
    (h : HoldsRing volume disk pipe) (hintact : volume.Intact disk lost)
    (hwrites : WritesOnly volume disk written volume' disk')
    (hvolume : pipe.volume = pipe'.volume) (hcontinues : pipe.item.Continues pipe'.item)
    (hfile : ∃ i, volume'.Lists pipe'.item.file.headerSector i) :
    HoldsRing volume' disk' pipe' := by
  obtain ⟨hzero, i, bytes, hlists, hbytes, hlength⟩ := h
  obtain ⟨j, hused, hheader⟩ := hfile
  rw [hcontinues.file_eq] at hheader
  refine ⟨hvolume.symm.trans hzero, ?_⟩
  rw [hcontinues.file_eq, hcontinues.ringSize_eq]
  rcases hwrites j hused with ⟨hentry, bytes₁, bytes', hbytes₁, hbytes', hle, -⟩ | hnew
  · obtain rfl := hintact.entry_inj (hentry ▸ hused) hlists.1
      ((hentry ▸ hheader).trans hlists.2.symm)
    obtain rfl := Option.some.inj (hbytes.symm.trans hbytes₁)
    exact ⟨j, bytes', ⟨hused, hheader⟩, hbytes', Nat.le_trans hlength hle⟩
  · exact absurd (hlists.2.trans hheader.symm) (hnew.header_ne i hlists.1)

namespace Fits

/-- The ledger still fits after a request that writes only what the ledger lists. -/
theorem after (h : ledger.Fits session volume disk) (hintact : volume.Intact disk lost)
    (hvolumes : session.volumes = #[volume]) (hvolumes' : session'.volumes = #[volume'])
    (hwrites : WritesOnly volume disk (session.WritesAt request answer session') volume' disk')
    (hpipes : ∀ (slot : Slot) (pipe' : Attached Pipe), session'.pipes[slot]? = some pipe' →
      (¬ request.MakesPipeIn slot answer ∧ ∃ pipe, session.pipes[slot]? = some pipe ∧
        pipe.volume = pipe'.volume ∧ pipe.item.Continues pipe'.item) ∨
      HoldsRing volume' disk' pipe') :
    (ledger.after session request answer session').Fits session' volume' disk' where
  getD_eq i bytes' hbytes' position hunlisted := by
    -- an old file changes only where the request writes; a new one is all zeros
    rcases hwrites i (isUnused_eq_of_contents? hbytes') with
      ⟨hentry, bytes, bytes₁, hbytes, hbytes₁, -, hsame⟩ | hnew
    · obtain rfl := Option.some.inj (hbytes'.symm.trans hbytes₁)
      rw [hentry, Ledger.after, not_or] at hunlisted
      rw [hsame position hunlisted.2]
      refine h.getD_eq i bytes hbytes position fun hlisted => hunlisted.1 ⟨?_, hlisted⟩
      exact (hasFile_iff hvolumes).2 ⟨i, isUnused_eq_of_contents? hbytes, rfl⟩
    · obtain ⟨size, hsize⟩ := hnew.exists_contents?
      obtain rfl := Option.some.inj (hbytes'.symm.trans hsize)
      rw [List.getD_eq_getElem?_getD, List.getElem?_replicate]
      split <;> rfl
  holdsRing slot pipe' hkeeps hpipe' := by
    obtain ⟨hkept, hfile⟩ := hkeeps
    -- a pipe that went on keeps its ring, a new one has one
    rcases hpipes slot pipe' hpipe' with ⟨hmakes, pipe, hpipe, hvolume, hcontinues⟩ | hholds
    · exact (h.holdsRing slot pipe (hkept.resolve_right hmakes) hpipe).after hintact hwrites hvolume
        hcontinues ((hasFile_iff hvolumes').1 (hfile pipe' hpipe'))
    · exact hholds

/-! ## Requests one by one -/

/-- A request that is refused. -/
theorem after_self (h : ledger.Fits session volume disk) (hsound : session.Sound volume disk lost)
    (hmakes : ¬ request.MakesPipe) (answer : Answer) :
    (ledger.after session request answer session).Fits session volume disk := by
  have hevolves : volume.Evolves disk (fun _ => False) (fun _ => False) volume disk lost :=
    .refl hsound.intact hsound.flushed
  exact h.after hsound.intact hsound.volumes_eq hsound.volumes_eq
    (writesOnly_of_evolves hsound.intact hevolves (fun _ => id) _)
    fun slot pipe hpipe => .inl ⟨fun hin => hmakes hin.makesPipe, pipe, hpipe, rfl, .refl _⟩

/-- A request that writes no file and makes no pipe. -/
theorem after_of_advanced (h : ledger.Fits session volume disk)
    (hsound : session.Sound volume disk lost) (hnumbered : session.Numbered)
    (hadvanced : session.Advanced volume disk lost request session' volume' disk' lost')
    (hunwritten : ∀ entry, ¬ session.Writes request entry) (hmakes : ¬ request.MakesPipe)
    (answer : Answer) :
    (ledger.after session request answer session').Fits session' volume' disk' := by
  refine h.after hsound.intact hsound.volumes_eq hadvanced.volumes_eq
    (writesOnly_of_evolves hsound.intact hadvanced.evolves hunwritten _) fun slot pipe' hpipe' => ?_
  rcases hadvanced.pipes_from hnumbered slot pipe' hpipe' with hold | ⟨hmade, -⟩
  · exact .inl ⟨fun hin => hmakes hin.makesPipe, hold⟩
  · exact absurd hmade hmakes

/-- A write through a handle. -/
theorem after_of_written (h : ledger.Fits session volume disk)
    (hsound : session.Sound volume disk lost) {offset n : Nat} {bytes data : Bytes}
    (hbytes : volume.contents? disk i = some bytes)
    (hwritten : volume.Written disk lost i bytes offset data n volume' disk')
    (hvolumes' : session'.volumes = (session.setVolume 0 volume').volumes)
    (hpipes' : session'.pipes = session.pipes) (hmakes : ¬ request.MakesPipe)
    (hwrites : ∀ position, offset ≤ position ∧ position < offset + n →
      session.WritesAt request answer session' (volume.directory.entry i).header position) :
    (ledger.after session request answer session').Fits session' volume' disk' := by
  obtain ⟨bytes', hbytes', hlength, hsame⟩ := hwritten.exists_contents?
  have hvolumes : session'.volumes = #[volume'] :=
    hvolumes'.trans (Session.volumes_setVolume hsound.volumes_eq volume')
  refine h.after hsound.intact hsound.volumes_eq hvolumes
    (writesOnly_of_changesOnly hsound.intact hwritten.changesOnly hbytes hbytes' hlength
      fun position hunlisted => hsame position fun hin => hunlisted (hwrites position hin))
    fun slot pipe hpipe =>
      .inl ⟨fun hin => hmakes hin.makesPipe, pipe, hpipes' ▸ hpipe, rfl, .refl _⟩

/-- A request on a pipe that has its file. -/
theorem after_of_moved (h : ledger.Fits session volume disk)
    (hsound : session.Sound volume disk lost) {pipe : Pipe} {old : Attached Pipe}
    (huses : request.UsesPipe slot) (hallows : ledger.Allows session request)
    (hold : session.pipes[slot]? = some old)
    (hmoved : old.item.Moved volume disk lost i answer.handed pipe volume' disk') :
    (ledger.after session request answer (session.updatePipe slot old pipe volume')).Fits
      (session.updatePipe slot old pipe volume') volume' disk' := by
  obtain ⟨hzero, j, bytes, hlists, hbytes, hlength⟩ :=
    h.holdsRing slot old (hallows.keepsFile huses hold) hold
  have honFile : volume.Lists old.item.file.headerSector i := by
    rw [← hmoved.continues.file_eq, Volume.Lists, ← hmoved.changesOnly.directory_eq]
    exact hmoved.onFile.lists
  -- the file that the pipe has and the file of which the ledger knows are one
  obtain rfl := hsound.intact.entry_inj honFile.1 hlists.1 (honFile.2.trans hlists.2.symm)
  obtain ⟨bytes', hbytes', hpasses⟩ := hmoved.exists_passes bytes hbytes hlength
  have hslot := Session.getElem?_pipes_updatePipe session slot old pipe volume'
  have hvolumes := Session.volumes_updatePipe hsound.volumes_eq hzero slot pipe volume'
  refine h.after hsound.intact hsound.volumes_eq hvolumes
    (writesOnly_of_changesOnly hsound.intact hmoved.changesOnly hbytes hbytes' hpasses.length_le
      fun position hunlisted => hpasses.getD_eq position fun hreaches => hunlisted ?_)
    fun other pipe' hpipe' => .inl ⟨fun hin => huses.not_makesPipe hin.makesPipe, ?_⟩
  · exact Session.writesAt_of_usesPipe huses ⟨old, _, hold, hslot, hlists.2.symm, hreaches⟩
  · -- the pipe went on with the same file; all the others are as they were
    by_cases hother : slot = other
    · subst hother
      obtain rfl := Option.some.inj (hslot.symm.trans hpipe')
      exact ⟨old, hold, rfl, hmoved.continues⟩
    · rw [Session.getElem?_pipes_updatePipe_of_ne hother] at hpipe'
      exact ⟨pipe', hpipe', rfl, .refl _⟩

/-- A request that makes a pipe. -/
theorem yields_makePipe (h : ledger.Fits session volume disk)
    (hsound : session.Sound volume disk lost) (hnumbered : session.Numbered)
    {volumeSlot pipeSlot : Slot} {size : Nat}
    (hfits : session.SumsFit (.makePipe volumeSlot pipeSlot size)) :
    (session.perform (.makePipe volumeSlot pipeSlot size)).Yields disk
      (ledger.FitsAfter session (.makePipe volumeSlot pipeSlot size)) := by
  refine (hsound.yields_makePipe hfits).mono ?_
  rintro ⟨answer, session'⟩ disk' ⟨⟨volume', lost', hadvanced⟩, hnew, hrefused⟩
  refine ⟨volume', hadvanced.volumes_eq, h.after hsound.intact hsound.volumes_eq
    hadvanced.volumes_eq (writesOnly_of_evolves hsound.intact hadvanced.evolves (fun _ => id) _) ?_⟩
  intro slot pipe' hpipe'
  cases answer with
  | text name =>
    by_cases hslot : pipeSlot = slot
    · subst hslot
      obtain ⟨volume₁, i, pipe, hvolumes, hnewPipe⟩ := hnew name rfl hnumbered
      obtain rfl := Session.eq_of_volumes_eq hadvanced.volumes_eq hvolumes
      obtain rfl := Option.some.inj (hpipe'.symm.trans hnewPipe.pipes_eq)
      refine .inr ⟨rfl, i, _, hnewPipe.lists, hnewPipe.contents?_eq, ?_⟩
      rw [hnewPipe.pipe_eq, List.length_replicate]
    · rw [hadvanced.pipes_eq slot fun heq => hslot (Option.some.inj heq)] at hpipe'
      exact .inl ⟨hslot, pipe', hpipe', rfl, .refl _⟩
  | _ =>
    rw [show session'.pipes = session.pipes from hrefused nofun] at hpipe'
    exact .inl ⟨id, pipe', hpipe', rfl, .refl _⟩

/-- A permitted request whose sums fit keeps a ledger that fits. -/
theorem yields_perform (h : ledger.Fits session volume disk)
    (hsound : session.Sound volume disk lost) (hnumbered : session.Numbered)
    (hrings : session.AllHave (fun _ => True) Pipe.InRing)
    (hpermits : session.Permits allowed request) (hfits : session.SumsFit request)
    (hallows : ledger.Allows session request) :
    (session.perform request).Yields disk (ledger.FitsAfter session request) := by
  -- a request that finds no handle or no volume
  have hself : ¬ request.MakesPipe → ∀ answer,
      ledger.FitsAfter session request (answer, session) disk :=
    fun hmakes answer => ⟨volume, hsound.volumes_eq, h.after_self hsound hmakes answer⟩
  have hquiet : (∀ entry, ¬ session.Writes request entry) → ¬ request.MakesPipe →
      (session.perform request).Yields disk (ledger.FitsAfter session request) := by
    intro hunwritten hmakes
    refine (hsound.yields_perform hrings hpermits hfits).mono ?_
    rintro ⟨answer, session'⟩ disk' ⟨volume', lost', hadvanced⟩
    exact ⟨volume', hadvanced.volumes_eq,
      h.after_of_advanced hsound hnumbered hadvanced hunwritten hmakes answer⟩
  have husesPipe : ∀ {slot : Slot}, request.UsesPipe slot → session.PipeIsListed slot →
      (session.perform request).Yields disk (ledger.FitsAfter session request) := by
    intro slot huses hlisted
    refine (hsound.yields_usePipe huses hrings hlisted).mono ?_
    rintro ⟨answer, session'⟩ disk' (⟨hanswer, rfl⟩ | ⟨old, i, pipe, volume', hold, hzero, -,
      hsession', hmoved⟩)
    · cases hanswer
      exact hself huses.not_makesPipe .noHandle
    · obtain rfl : session' = session.updatePipe slot old pipe volume' := hsession'
      exact ⟨volume', Session.volumes_updatePipe hsound.volumes_eq hzero slot pipe volume',
        h.after_of_moved hsound huses hallows hold hmoved⟩
  cases request with
  | writeAt slot offset data =>
    refine hsound.yields_onFile (hself id .noHandle) fun file hfile hzero hin => ?_
    obtain ⟨i, bytes, hlists, hbytes⟩ := hsound.exists_file hpermits hin
    refine (hsound.intact.yields_writeAt hlists hbytes (hfits file volume hin)).bind ?_
    rintro ⟨n, volume'⟩ disk' hwritten
    have hvolumes := Session.volumes_setVolume hsound.volumes_eq volume'
    exact Transfer.yields_pure.2 ⟨volume', hzero ▸ hvolumes,
      h.after_of_written hsound hbytes hwritten (by rw [hzero]) rfl id
        fun _ hin => ⟨file, hfile, hlists.2.symm, hin⟩⟩
  | write slot data =>
    refine hsound.yields_onFile (hself id .noHandle) fun file hfile hzero hin => ?_
    obtain ⟨i, bytes, hlists, hbytes⟩ := hsound.exists_file hpermits hin
    rw [OpenFile.write, bind_assoc]
    refine (hsound.intact.yields_writeAt hlists hbytes (hfits file volume hin)).bind ?_
    rintro ⟨n, volume'⟩ disk' hwritten
    have hvolumes := Session.volumes_setVolume hsound.volumes_eq volume'
    exact Transfer.yields_pure.2 ⟨volume', hzero ▸ hvolumes,
      h.after_of_written hsound hbytes hwritten (by rw [hzero]; rfl) rfl id
        fun _ hin => ⟨file, hfile, hlists.2.symm, hin⟩⟩
  | makePipe volumeSlot pipeSlot size =>
    exact h.yields_makePipe hsound hnumbered hfits
  | stepPipe slot step => exact husesPipe rfl hpermits
  | readWaiting slot buffer peer => exact husesPipe rfl hpermits
  | writeWaiting slot data peer => exact husesPipe rfl hpermits
  | _ => exact hquiet (fun _ => id) id

end Fits

end Ledger

end SectorStore
