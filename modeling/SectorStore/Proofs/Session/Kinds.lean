import SectorStore.Proofs.Journal.Sessions
import SectorStore.Proofs.Session.Chunks
import SectorStore.Proofs.Session.Naming
import SectorStore.Proofs.Volume.Kinds

/-!
# The types that files show

The type of a file is fixed when the file is made, and told by its name. `Registered` follows a
session from laying out a disk on, with a journal of the files that were made. In every reachable
session, which is such a one (`Reachable.exists_registered`), the journal types the volume
(`Registered.exists_typed`): no request changes the type of a file, and the files of pipes have
names without an extension. So the header of a file that is opened shows a type that is sensible for
the name under which this file was made (`Registered.shows_sensible_types`).

Extensions of line ends only, and those that begin with the zero character, are left out: of them
nothing is shown at all (`shows_other_types`).
-/

namespace SectorStore.Session

variable {session session' : Session} {volume volume' : Volume} {disk disk' : Disk}
  {lost : List SectorId} {request : Request} {answer : Answer} {slot fileSlot : Slot}
  {allowed : String → Prop} {journal : Journal}

/-- The names under which a session makes files: the allowed ones, and those of pipes. -/
def Makes (allowed : String → Prop) (name : String) : Prop :=
  allowed name ∨ ∃ ringSize number, name = Pipe.fileName ringSize number

/-- The only volume is typed by the journal. -/
def LeavesTyped (allowed : String → Prop) (journal : Journal) (session : Session) (disk : Disk) :
    Prop :=
  ∃ volume, session.volumes = #[volume] ∧ volume.Typed (Makes allowed) journal disk

/-- A request that has made no file leaves the journal. -/
theorem LeavesTyped.noted (h : session'.LeavesTyped allowed journal disk)
    (hmade : request.made? answer = none) :
    session'.LeavesTyped allowed (journal ++ session.made request answer) disk := by
  rwa [made_eq_nil hmade, List.append_nil]

namespace Sound

theorem yields_discard_typed (h : session.Sound volume disk lost)
    (htyped : volume.Typed (Makes allowed) journal disk) (pipe : Attached Pipe) :
    (session.discard pipe).Yields disk
      fun session' disk' => session'.LeavesTyped allowed journal disk' := by
  rw [discard, h.getElem?_volumes]
  split_ifs with hzero
  · refine (Pipe.yields_drop_typed htyped h.intact pipe.item).bind fun volume' disk' htyped' => ?_
    exact Transfer.yields_pure.2
      ⟨volume', hzero ▸ volumes_setVolume h.volumes_eq volume', htyped'⟩
  · exact Transfer.yields_pure.2 ⟨volume, h.volumes_eq, htyped⟩

/-- A change of the volume, or its refusal. -/
theorem yields_changeVolume_typed (h : session.Sound volume disk lost)
    (htyped : volume.Typed (Makes allowed) journal disk)
    {change : Volume → ExceptT Refusal Transfer Volume}
    (hchange : (change volume).run.Yields disk fun answer disk' =>
      match answer with
      | .error _ => disk' = disk
      | .ok volume' => volume'.Typed (Makes allowed) journal disk') :
    (session.changeVolume slot change).Yields disk fun answer disk' =>
      answer.2.LeavesTyped allowed journal disk' := by
  rw [changeVolume]
  refine h.yields_onVolume ⟨volume, h.volumes_eq, htyped⟩ fun _ => hchange.bind ?_
  rintro (cause | volume') disk' houtcome
  · obtain rfl : disk' = disk := houtcome
    exact Transfer.yields_pure.2 ⟨volume, h.volumes_eq, htyped⟩
  · exact Transfer.yields_pure.2 ⟨volume', volumes_setVolume h.volumes_eq volume', houtcome⟩

/-- Making a file is noted with its name. -/
theorem yields_create_typed (h : session.Sound volume disk lost)
    (htyped : volume.Typed (Makes allowed) journal disk) {name : String} (hallowed : allowed name)
    (size : Nat) :
    (session.perform (.create slot name size)).Yields disk fun answer disk' =>
      answer.2.LeavesTyped allowed
        (journal ++ session.made (.create slot name size) answer.1) disk' := by
  have hself : session.LeavesTyped allowed journal disk := ⟨volume, h.volumes_eq, htyped⟩
  refine h.yields_onVolume (hself.noted rfl) fun hmounted => ?_
  refine (htyped.yields_create h.intact (.inl hallowed) size).bind ?_
  rintro (cause | volume') disk' houtcome
  · obtain rfl : disk' = disk := houtcome
    exact Transfer.yields_pure.2 (hself.noted rfl)
  · obtain ⟨sector, map, htake, htyped'⟩ := houtcome
    refine Transfer.yields_pure.2 ⟨volume', volumes_setVolume h.volumes_eq volume', ?_⟩
    rw [h.made_eq_singleton hmounted htake rfl]
    exact htyped'

/-- Making a pipe is noted with the name of its file. -/
theorem yields_makePipe_typed (h : session.Sound volume disk lost)
    (htyped : volume.Typed (Makes allowed) journal disk) {pipeSlot : Slot} {size : Nat}
    (hfits : session.SumsFit (.makePipe slot pipeSlot size)) :
    (session.perform (.makePipe slot pipeSlot size)).Yields disk fun answer disk' =>
      answer.2.LeavesTyped allowed
        (journal ++ session.made (.makePipe slot pipeSlot size) answer.1) disk' := by
  have hself : session.LeavesTyped allowed journal disk := ⟨volume, h.volumes_eq, htyped⟩
  refine h.yields_onVolume (hself.noted rfl) fun hmounted => ?_
  have hsum := hfits 0 volume ((h.volumeIn?_eq slot).trans (if_pos hmounted))
  refine ((Pipe.yields_make h.intact session.nextPipe hsum).and
    (Pipe.yields_make_typed htyped h.intact hsum (.inr ⟨_, _, rfl⟩))).bind ?_
  rintro ⟨cause | ⟨pipe, volume₁⟩, next⟩ disk₁ ⟨⟨-, houtcome⟩, hmakes⟩
  · obtain rfl : disk₁ = disk := houtcome
    exact Transfer.yields_pure.2 (LeavesTyped.noted ⟨volume, h.volumes_eq, htyped⟩ rfl)
  obtain ⟨-, i, hmade⟩ := houtcome
  obtain ⟨sector, map, htake, htyped₁⟩ := hmakes pipe volume₁ rfl
  have hevents : session.made (.makePipe slot pipeSlot size) (.text pipe.name) =
      [.made sector pipe.name] := h.made_eq_singleton hmounted htake rfl
  rw [← hevents] at htyped₁
  let session₁ := (({ session with nextPipe := next }).setVolume 0 volume₁).setPipe pipeSlot
    ⟨0, pipe⟩
  have hvolumes₁ : session₁.volumes = #[volume₁] := volumes_setVolume h.volumes_eq volume₁
  -- a pipe that was in the slot is dropped once the new one is made
  rcases hold : session.pipes[pipeSlot]? with _ | old
  · simp only [hold]
    exact Transfer.yields_pure.2 ⟨volume₁, hvolumes₁, htyped₁⟩
  · simp only [hold]
    obtain ⟨lost₁, hintact₁, -⟩ := hmade.created.intact
    have h₁ : session₁.Sound volume₁ disk₁ lost₁ := ⟨hvolumes₁, hintact₁, hmade.created.flushed⟩
    exact (h₁.yields_discard_typed htyped₁ old).bind fun _ _ hleaves =>
      Transfer.yields_pure.2 hleaves

/-- A write through an open file that is in the directory. -/
theorem yields_writeFile_typed (h : session.Sound volume disk lost)
    (htyped : volume.Typed (Makes allowed) journal disk) (hlisted : session.FileIsListed slot)
    {file : Attached OpenFile} (hin : session.fileIn? slot = some (file, volume)) {offset : Nat}
    {data : Bytes} (hsum : offset + data.length < sumLimit) :
    (file.item.writeAt volume offset data).Yields disk fun answer disk' =>
      ∀ session' : Session, session'.volumes = (session.setVolume file.volume answer.2).volumes →
        session'.LeavesTyped allowed journal disk' := by
  obtain ⟨i, hlists⟩ := hlisted file volume hin
  obtain ⟨-, hzero, -⟩ := h.of_fileIn? hin
  refine (htyped.yields_writeAt h.intact hlists hsum).mono ?_
  rintro answer disk' ⟨-, -, htyped'⟩ session' hvolumes
  rw [hzero, volumes_setVolume h.volumes_eq] at hvolumes
  exact ⟨answer.2, hvolumes, htyped'⟩

/-- What is done with a pipe that is in the directory. -/
theorem yields_usePipe_typed {α : Type} (h : session.Sound volume disk lost)
    (hrings : session.AllHave (fun _ => True) Pipe.InRing)
    (htyped : volume.Typed (Makes allowed) journal disk) (hlisted : session.PipeIsListed slot)
    {use : Pipe → Volume → Transfer α} {pipeOf : α → Pipe} {volumeOf : α → Volume}
    {finish : Attached Pipe → α → Answer × Session}
    (huse : ∀ {pipe volume disk}, (∃ i, pipe.OnFile volume disk lost i) ∧
        volume.Typed (Makes allowed) journal disk →
      (use pipe volume).Yields disk fun answer disk' =>
        (∃ i, (pipeOf answer).OnFile (volumeOf answer) disk' lost i) ∧
          (volumeOf answer).Typed (Makes allowed) journal disk')
    (hfinish : ∀ old answer, (finish old answer).2 =
      session.updatePipe slot old (pipeOf answer) (volumeOf answer)) :
    (session.onPipe slot fun old volume => do
      let answer ← use old.item volume
      return finish old answer).Yields disk fun answer disk' =>
        answer.2.LeavesTyped allowed journal disk' := by
  refine h.yields_onPipe ⟨volume, h.volumes_eq, htyped⟩ fun old hold hzero hin => ?_
  obtain ⟨i, hlists, -⟩ := hlisted old volume hin
  refine (huse ⟨⟨i, h.intact, hlists, hrings.pipe slot old hold⟩, htyped⟩).bind ?_
  rintro answer disk' ⟨-, htyped'⟩
  refine Transfer.yields_pure.2 ⟨volumeOf answer, ?_, htyped'⟩
  rw [hfinish]
  exact volumes_updatePipe h.volumes_eq hzero slot (pipeOf answer) (volumeOf answer)

/-- A permitted request whose sums fit leaves the volume typed, by the journal with the file that
the request has made, if any. -/
theorem yields_perform_typed (h : session.Sound volume disk lost)
    (hrings : session.AllHave (fun _ => True) Pipe.InRing)
    (htyped : volume.Typed (Makes allowed) journal disk)
    (hpermits : session.Permits allowed request) (hfits : session.SumsFit request) :
    (session.perform request).Yields disk fun answer disk' =>
      answer.2.LeavesTyped allowed (journal ++ session.made request answer.1) disk' := by
  have hself : session.LeavesTyped allowed journal disk := ⟨volume, h.volumes_eq, htyped⟩
  have hquiet : (∀ answer, request.made? answer = none) →
      (session.perform request).Yields disk (fun answer disk' =>
        answer.2.LeavesTyped allowed journal disk') →
      (session.perform request).Yields disk fun answer disk' =>
        answer.2.LeavesTyped allowed (journal ++ session.made request answer.1) disk' :=
    fun hmade hyields => hyields.mono fun answer _ hleaves => hleaves.noted (hmade answer.1)
  -- a request that only looks writes no header
  have hlook : request.OnlyLooks → (session.perform request).Yields disk fun answer disk' =>
      answer.2.LeavesTyped allowed journal disk' := by
    intro hlooks
    refine (h.yields_look hlooks hpermits hfits).mono ?_
    rintro answer _ ⟨rfl, hvolumes, -⟩
    exact ⟨volume, hvolumes.trans h.volumes_eq, htyped⟩
  have hpipes := Pipe.invariant_typed (Makes allowed) journal lost
  cases request with
  | format slot numSectors => exact hpermits.elim
  | mount slot numSectors => exact hpermits.elim
  | create slot name size => exact h.yields_create_typed htyped hpermits size
  | makePipe slot pipeSlot size => exact h.yields_makePipe_typed htyped hfits
  | setClock slot clock =>
    exact hquiet (fun _ => rfl)
      (h.yields_changeVolume_typed htyped (Transfer.yields_run_pure.2 htyped))
  | remove slot name =>
    exact hquiet (fun _ => rfl)
      (h.yields_changeVolume_typed htyped (htyped.yields_remove h.intact name))
  | writeAt slot offset data =>
    refine hquiet (fun _ => rfl) (h.yields_onFile hself fun file _ _ hin => ?_)
    exact (h.yields_writeFile_typed htyped hpermits hin (hfits file volume hin)).bind
      fun _ _ hleaves => Transfer.yields_pure.2 (hleaves _ rfl)
  | write slot data =>
    refine hquiet (fun _ => rfl) (h.yields_onFile hself fun file _ _ hin => ?_)
    rw [OpenFile.write, bind_assoc]
    exact (h.yields_writeFile_typed htyped hpermits hin (hfits file volume hin)).bind
      fun _ _ hleaves => Transfer.yields_pure.2 (hleaves _ rfl)
  | stepPipe slot step =>
    exact hquiet (fun _ => rfl)
      (h.yields_usePipe_typed hrings htyped hpermits (hpipes.yields_step · step) fun _ _ => rfl)
  | readWaiting slot buffer peer =>
    exact hquiet (fun _ => rfl) (h.yields_usePipe_typed hrings htyped hpermits
      (hpipes.yields_readWaiting · buffer peer) fun _ _ => rfl)
  | writeWaiting slot data peer =>
    exact hquiet (fun _ => rfl) (h.yields_usePipe_typed hrings htyped hpermits
      (hpipes.yields_writeWaiting · data peer) fun _ _ => rfl)
  | dropPipe slot =>
    refine hquiet (fun _ => rfl) (h.yields_onPipe hself fun pipe _ _ _ => ?_)
    -- the slot is emptied before the file goes
    let session₁ : Session := { session with pipes := session.pipes.erase slot }
    have h₁ : session₁.Sound volume disk lost := ⟨h.volumes_eq, h.intact, h.flushed⟩
    exact (h₁.yields_discard_typed htyped pipe).bind fun _ _ hleaves =>
      Transfer.yields_pure.2 hleaves
  | _ => exact hquiet (fun _ => rfl) (hlook trivial)

end Sound

/-! ## Reachable sessions -/

section Reaching

variable {δ : Type} [BlockDevice δ] {device device' : δ} {numSectors size : Nat} {name : String}
  {i : Fin numEntries} {header : FileHeader}

/-- The header of the file that was opened in a slot shows a type that is sensible for the name. -/
def ShowsSensible (session : Session) (device : δ) (fileSlot : Slot) (name : String) : Prop :=
  ∃ header, (session.perform (.header fileSlot)).run device =
    (.ok (.header header, session), device) ∧ Sensible name header.kind.text

/-- Whatever file is opened, its header shows a type that is sensible for the name under which this
file was made, as the journal tells, and the file was opened under this name, up to the first zero
character. -/
def ShowsTypes (session : Session) (allowed : String → Prop) (journal : Journal) (device : δ) :
    Prop :=
  ∀ slot fileSlot name session' device',
    (session.perform (.openFile slot fileSlot name)).run device =
      (.ok (.done, session'), device') →
    ∃ file made, session'.files[fileSlot]? = some file ∧
      journal.MadeLast file.item.headerSector made ∧ Makes allowed made ∧
      name = Utf8.upToZero made ∧
      (Extension.IsPlain made → session'.ShowsSensible device' fileSlot made)

/-- The device and the session come of laying out a disk and of permitted requests afterwards, and
the journal tells which files were made, under which names and in which order. -/
inductive Registered (allowed : String → Prop) (numSectors : Nat) : δ → Session → Journal → Prop
  /-- The disk was laid out just now. -/
  | format {device device' : δ} {slot : Slot} {session : Session}
      (hblocks : HasBlocks device numSectors)
      (hrun : (start.perform (.format slot numSectors)).run device =
        (.ok (.done, session), device')) :
      Registered allowed numSectors device' session []
  /-- A permitted request was carried out, and the file was noted that it has made, if any. -/
  | perform {device device' : δ} {session session' : Session} {journal : Journal}
      {request : Request} {answer : Answer}
      (h : Registered allowed numSectors device session journal)
      (hpermits : session.Permits allowed request)
      (hrun : (session.perform request).run device = (.ok (answer, session'), device')) :
      Registered allowed numSectors device' session' (journal ++ session.made request answer)

/-- What is reached is reached with a journal. -/
theorem Reachable.exists_registered (h : Reachable allowed numSectors device session) :
    ∃ journal, Registered allowed numSectors device session journal := by
  induction h with
  | format hblocks hrun => exact ⟨[], .format hblocks hrun⟩
  | perform _ hpermits hrun ih =>
    obtain ⟨journal, hregistered⟩ := ih
    exact ⟨_, hregistered.perform hpermits hrun⟩

variable [LawfulBlockDevice δ]

/-- The volume of a registered session is sound, and typed by the journal. -/
theorem Registered.exists_typed (h : Registered allowed numSectors device session journal) :
    ∃ volume lost, session.SoundOn device numSectors volume lost ∧
      volume.Typed (Makes allowed) journal (Disk.image device numSectors) := by
  induction h with
  | format hblocks hrun =>
    obtain ⟨hblocks', volume, rfl, hformatted⟩ := formatted_of_run hblocks hrun
    exact ⟨volume, [], soundOn_format hblocks' hformatted, hformatted.typed⟩
  | perform _ hpermits hrun ih =>
    obtain ⟨volume, lost, hsound, htyped⟩ := ih
    obtain ⟨volume', lost', -, hsound'⟩ := hsound.exists_advanced hpermits hrun
    obtain ⟨-, volume₁, hvolumes, htyped'⟩ := (hsound.sound.yields_perform_typed hsound.rings
      htyped hpermits (sumsFit_of_run hrun)).of_run hsound.hasBlocks hrun
    obtain rfl := eq_of_volumes_eq hvolumes hsound'.sound.volumes_eq
    exact ⟨volume₁, lost', hsound', htyped'⟩

namespace SoundOn

/-- A file that was opened is the one in the entry of its name, and its header is read from
there. -/
theorem exists_header_of_openFile (h : session.SoundOn device numSectors volume lost)
    (hrun : (session.perform (.openFile slot fileSlot name)).run device =
      (.ok (.done, session'), device')) :
    ∃ i header file, volume.directory.indexOf? name = some i ∧
      volume.header? (Disk.image device numSectors) i = some header ∧
      session'.files[fileSlot]? = some file ∧
      file.item.headerSector = (volume.directory.entry i).header ∧
      (session'.perform (.header fileSlot)).run device' =
        (.ok (.header header, session'), device') := by
  rw [perform] at hrun
  rcases h.sound.onVolume_cases slot _ with heq | ⟨-, heq⟩
  · rw [heq] at hrun
    cases hrun
  rw [heq, Volume.open, Directory.find?_eq] at hrun
  rcases hindex : volume.directory.indexOf? name with _ | i
  · rw [hindex] at hrun
    cases hrun
  rw [hindex] at hrun
  cases hrun
  -- opening reads nothing: the entry tells where the header is
  have hused := Directory.isUnused_of_indexOf? hindex
  obtain ⟨header, hheader, -⟩ := h.sound.intact.exists_header i hused
  let file : Attached OpenFile := ⟨0, (volume.directory.entry i).header, 0⟩
  have hset : (session.setFile fileSlot file).Sound volume (Disk.image device numSectors) lost :=
    ⟨h.sound.volumes_eq, h.sound.intact, h.sound.flushed⟩
  have hslot : (session.setFile fileSlot file).files[fileSlot]? = some file := by
    rw [setFile, getElem?_insert_slot, if_pos rfl]
  have hin := (hset.fileIn?_eq hslot).trans (if_pos rfl)
  have hlists : volume.Lists file.item.headerSector i := ⟨hused, rfl⟩
  refine ⟨i, header, file, rfl, hheader, hslot, rfl, ?_⟩
  show ((session.setFile fileSlot file).perform _).run device = _
  rw [perform, onFile, hin]
  simp only [Transfer.run_bind, run_header h.hasBlocks h.sound.intact hlists hheader,
    Transfer.run_pure]
  rfl

/-- After a file was made under a name without zeros, the header in the entry of the name is typed
by it. -/
theorem typedBy_of_create (h : session.SoundOn device numSectors volume lost)
    (hzero : '\x00' ∉ name.toList)
    (hrun : (session.perform (.create slot name size)).run device =
      (.ok (.done, session'), device'))
    (hvolumes : session'.volumes = #[volume']) (hindex : volume'.directory.indexOf? name = some i)
    (hheader : volume'.header? (Disk.image device' numSectors) i = some header) :
    header.TypedBy (volume'.directory.entry i) name := by
  have hyields : (session.perform (.create slot name size)).Yields (Disk.image device numSectors)
      fun answer disk' => answer.1 = .done → ∀ volume', answer.2.volumes = #[volume'] → ∀ i header,
        volume'.directory.indexOf? name = some i → volume'.header? disk' i = some header →
          header.TypedBy (volume'.directory.entry i) name := by
    refine h.sound.yields_onVolume nofun fun _ => ?_
    refine (h.sound.intact.yields_create_typed name size).bind ?_
    rintro (cause | volume₁) disk' houtcome
    · exact Transfer.yields_pure.2 nofun
    obtain ⟨hnew, j, map, header₁, hcreated, -, hheader₁, htyped⟩ := houtcome
    refine Transfer.yields_pure.2 fun _ volume₂ hvolumes₂ i header hindex hheader => ?_
    obtain rfl := eq_of_volumes_eq hvolumes₂ (volumes_setVolume h.sound.volumes_eq volume₁)
    -- the name is found in the new entry
    obtain rfl := Option.some.inj (hindex.symm.trans (hcreated.indexOf?_eq hzero hnew))
    obtain rfl := Option.some.inj
      (hheader₁.symm.trans (Volume.header?_eq_some_iff.1 hheader).2)
    exact htyped
  exact (hyields.of_run h.hasBlocks hrun).2 rfl volume' hvolumes i header hindex hheader

/-- Where the volume is typed by a journal, files show types as the journal tells. -/
theorem showsTypes (h : session.SoundOn device numSectors volume lost)
    (htyped : volume.Typed (Makes allowed) journal (Disk.image device numSectors)) :
    session.ShowsTypes allowed journal device := by
  intro slot fileSlot name session' device' hrun
  obtain ⟨i, header, file, hindex, hheader, hslot, hsector, hshown⟩ :=
    h.exists_header_of_openFile hrun
  obtain ⟨made, hmade, hmakes, htypedBy⟩ := htyped i header hheader
  refine ⟨file, made, hslot, hsector ▸ hmade, hmakes, ?_,
    fun hplain => ⟨header, hshown, htypedBy.sensible hplain⟩⟩
  rw [← Directory.name_of_indexOf? hindex, htypedBy.name_eq]

/-- The header of a new file shows a type that is sensible for its name. -/
theorem showsSensible_of_create (h : session.SoundOn device numSectors volume lost)
    (hzero : '\x00' ∉ name.toList) (hplain : Extension.IsPlain name)
    (hrun : (session.perform (.create slot name size)).run device =
      (.ok (.done, session'), device')) (fileSlot : Slot) :
    ∃ session'', (session'.perform (.openFile slot fileSlot name)).run device' =
      (.ok (.done, session''), device') ∧ session''.ShowsSensible device' fileSlot name := by
  obtain ⟨session'', hopen⟩ := (h.keepsName hzero hrun).openFile fileSlot
  have hpermits : session.Permits (fun _ => True) (.create slot name size) := trivial
  obtain ⟨volume', lost', -, hsound'⟩ := h.exists_advanced hpermits hrun
  obtain ⟨i, header, -, hindex, hheader, -, -, hshown⟩ := hsound'.exists_header_of_openFile hopen
  have htyped := h.typedBy_of_create hzero hrun hsound'.sound.volumes_eq hindex hheader
  exact ⟨session'', hopen, header, hshown, htyped.sensible hplain⟩

end SoundOn

/-- The file that was made under a name shows, when it is opened under it, a type that is sensible
for the name, unless its extension has line ends only. At any later time, and when the disk is taken
up anew, each file shows a type that is sensible for the name under which it was made, as the
journal tells. -/
theorem Registered.shows_sensible_types
    (h : Registered allowed numSectors device session journal) :
    (∀ slot name size session₁ device₁,
      (session.perform (.create slot name size)).run device = (.ok (.done, session₁), device₁) →
      '\x00' ∉ name.toList → Extension.IsPlain name → ∀ fileSlot, ∃ session₂,
        (session₁.perform (.openFile slot fileSlot name)).run device₁ =
          (.ok (.done, session₂), device₁) ∧ session₂.ShowsSensible device₁ fileSlot name) ∧
    session.ShowsTypes allowed journal device ∧
    ∀ slot answer session₁ device₁, (start.perform (.mount slot numSectors)).run device =
      (.ok (answer, session₁), device₁) → session₁.ShowsTypes allowed journal device₁ := by
  obtain ⟨volume, lost, hsound, htyped⟩ := h.exists_typed
  refine ⟨?_, hsound.showsTypes htyped, ?_⟩
  · intro slot name size session₁ device₁ hrun hzero hplain fileSlot
    exact hsound.showsSensible_of_create hzero hplain hrun fileSlot
  · intro slot answer session₁ device₁ hrun
    rw [Session.perform, Transfer.run_bind, hsound.run_mount] at hrun
    cases hrun
    have hmounted : (start.addVolume slot (volume.withClock .silent)).SoundOn device numSectors
        (volume.withClock .silent) lost := {
      hasBlocks := hsound.hasBlocks
      sound := ⟨rfl, hsound.sound.intact.withClock _, hsound.sound.flushed.freeMap_eq,
        hsound.sound.flushed.directory_eq⟩
      size_eq := hsound.size_eq
      numbered := numbered_addVolume_start slot _
      rings := allHave_inRing_addVolume_start slot _
      freeMapFile_length := hsound.freeMapFile_length }
    exact hmounted.showsTypes htyped

end Reaching

/-- A memory disk of 20 blocks on which a file was made under a name with an extension. -/
theorem Registered.shows_sensible_types_of_create :
    ∃ (session₁ session₂ session₃ : Session) (device₁ device₂ : RamDisk sectorSize),
      (start.perform (.format 0 20)).run (RamDisk.zeroed 20 sectorSize) =
        (.ok (.done, session₁), device₁) ∧
      (session₁.perform (.create 0 "menu.été" 200)).run device₁ =
        (.ok (.done, session₂), device₂) ∧
      (session₂.perform (.openFile 0 0 "menu.été")).run device₂ =
        (.ok (.done, session₃), device₂) ∧
      session₃.ShowsSensible device₂ 0 "menu.été" ∧
      session₂.ShowsTypes (fun _ => True) [.made 7 "menu.été"] device₂ := by
  have hanswers : answers? ((start.performAll [.format 0 20, .create 0 "menu.été" 200]).run
      (RamDisk.zeroed 20 sectorSize)) = some [.done, .done] := by decide +kernel
  have hmade : ((start.performAll [.format 0 20]).run (RamDisk.zeroed 20 sectorSize)).1.toOption.map
      (fun outcome => outcome.2.made (.create 0 "menu.été" 200) .done) =
        some [.made 7 "menu.été"] := by decide +kernel
  obtain ⟨session, device, hrun⟩ := exists_of_answers? hanswers
  obtain ⟨session₁, device₁, hformat, hrest⟩ := run_performAll_cons hrun
  obtain ⟨session₂, device₂, hcreate, -⟩ := run_performAll_cons hrest
  have hblocks : HasBlocks (RamDisk.zeroed 20 sectorSize) 20 := RamDisk.hasBlocks _
  have hregistered : Registered (fun _ => True) 20 device₁ session₁ [] := .format hblocks hformat
  have hplain : Extension.IsPlain "menu.été" :=
    Extension.isPlain_iff.2 fun _ => ⟨by decide, 't', by decide, by decide⟩
  obtain ⟨session₃, hopen, hshows⟩ := hregistered.shows_sensible_types.1 0 "menu.été" 200 session₂
    device₂ hcreate (by decide) hplain 0
  have hpermits : session₁.Permits (fun _ => True) (.create 0 "menu.été" 200) := trivial
  have hlater := (hregistered.perform hpermits hcreate).shows_sensible_types.2.1
  rw [run_performAll_of_run hformat rfl] at hmade
  have hevents : session₁.made (.create 0 "menu.été" 200) .done = [.made 7 "menu.été"] :=
    Option.some.inj hmade
  rw [List.nil_append, hevents] at hlater
  exact ⟨session₁, session₂, session₃, device₁, device₂, hformat, hcreate, hopen, hshows, hlater⟩

/-! ## Other types -/

/-- Lays out a memory disk of 20 blocks, makes a file under one name, opens a file under another and
asks for its header. -/
def openNew (made opened : String) : Except Fault (List Answer × Session) × RamDisk sectorSize :=
  (start.performAll [.format 0 20, .create 0 made 0, .openFile 0 0 opened, .header 0]).run
    (RamDisk.zeroed 20 sectorSize)

/-- The header that was told at the end of such a run. -/
def openedHeader? : List Answer → Option FileHeader
  | [.done, .done, .done, .header header] => some header
  | _ => none

theorem exists_header_of_openNew {made opened : String} {kind : FixedText kindWidth}
    (h : ((answers? (openNew made opened)).bind openedHeader?).map FileHeader.kind = some kind) :
    ∃ header session device, openNew made opened =
      (.ok ([.done, .done, .done, .header header], session), device) ∧ header.kind = kind := by
  obtain ⟨header, hheader, hkind⟩ := Option.map_eq_some_iff.1 h
  obtain ⟨answers, hanswers, hopened⟩ := Option.bind_eq_some_iff.1 hheader
  obtain ⟨session, device, hrun⟩ := exists_of_answers? hanswers
  rw [openedHeader?.eq_def] at hopened
  split at hopened
  · cases hopened
    exact ⟨header, session, device, hrun, hkind⟩
  · cases hopened

/-- An extension can be `None` itself, and nothing is shown of one that has line ends only or that
begins with the zero character. -/
theorem shows_other_types :
    (∃ header session device, openNew "a.None" "a.None" =
        (.ok ([.done, .done, .done, .header header], session), device) ∧
      header.kind.text = "None" ∧ Extension.Behind "a.None" "None".toList) ∧
    (∃ header session device, openNew "a.\n" "a.\n" =
        (.ok ([.done, .done, .done, .header header], session), device) ∧
      header.kind.text = "" ∧ Extension.Behind "a.\n" "\n".toList) ∧
    ∃ header session device, openNew "a.\x00b" "a." =
        (.ok ([.done, .done, .done, .header header], session), device) ∧
      header.kind.text = "" ∧ Extension.Behind "a.\x00b" "\x00b".toList := by
  have hnone : ((answers? (openNew "a.None" "a.None")).bind openedHeader?).map FileHeader.kind =
      some (.ofString "None") := by decide +kernel
  have hline : ((answers? (openNew "a.\n" "a.\n")).bind openedHeader?).map FileHeader.kind =
      some (.ofString "\n") := by decide +kernel
  have hzero : ((answers? (openNew "a.\x00b" "a.")).bind openedHeader?).map FileHeader.kind =
      some (.ofString "\x00b") := by decide +kernel
  obtain ⟨header₁, session₁, device₁, hrun₁, hkind₁⟩ := exists_header_of_openNew hnone
  obtain ⟨header₂, session₂, device₂, hrun₂, hkind₂⟩ := exists_header_of_openNew hline
  obtain ⟨header₃, session₃, device₃, hrun₃, hkind₃⟩ := exists_header_of_openNew hzero
  refine ⟨⟨header₁, session₁, device₁, hrun₁, ?_, by decide, "a".toList, by decide, rfl⟩,
    ⟨header₂, session₂, device₂, hrun₂, ?_, by decide, "a".toList, by decide, rfl⟩,
    header₃, session₃, device₃, hrun₃, ?_, by decide, "a".toList, by decide, rfl⟩
  · rw [hkind₁]
    exact FixedText.text_ofString (by decide) (by decide)
  · rw [hkind₂, FixedText.text_ofString_eq]
    rfl
  · rw [hkind₃, FixedText.text_ofString_eq]
    rfl

end SectorStore.Session
