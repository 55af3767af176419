import SectorStore.Proofs.Journal.Sessions
import SectorStore.Proofs.Session.Queueing

/-!
# Time lines

A `Timeline` starts with a disk that is laid out and with a clock for the volume on it, and goes on
with permitted requests. Along each time line the clock is read once for each event of the journal,
and all headers on the device carry the readings that belong to them (`Timeline.tells_truth`).
-/

namespace SectorStore

open Journaling

variable {journal : Journal} {readings : Nat → String} {numSectors : Nat}

/-! ## What is to be seen on a device -/

namespace Volume

/-- The clock was read once for each event of the journal, and the headers of the files on the
device carry the readings. -/
structure ToldOn {δ : Type} [BlockDevice δ] (volume : Volume) (device : δ)
    (readings : Nat → String) (journal : Journal) : Prop where
  /-- There is a reading for each event. -/
  clock_eq : volume.clock = ⟨readings, journal.length⟩
  /-- Each header has the readings of the events about its file. -/
  exists_dated : ∀ i, (volume.directory.entry i).isUnused = false → ∃ header,
    (FileHeader.loadHome (volume.directory.entry i).header).run device = (.ok header, device) ∧
      header.Dated readings journal (volume.directory.entry i)

variable {δ : Type} [BlockDevice δ] [LawfulBlockDevice δ] {device : δ} {volume : Volume}
  {lost : List SectorId} {i : Fin numEntries} {header : FileHeader}

/-- The header of a file is read on the device. -/
theorem Intact.run_loadHome (h : volume.Intact (Disk.image device numSectors) lost)
    (hblocks : HasBlocks device numSectors)
    (hheader : volume.header? (Disk.image device numSectors) i = some header) :
    (FileHeader.loadHome (volume.directory.entry i).header).run device = (.ok header, device) :=
  FileHeader.run_loadHome hblocks (h.header_lt_count hheader) (header?_eq_some_iff.1 hheader).2

/-- A clock that was not read yet belongs to a disk without files. -/
theorem Formatted.told_withClock {disk : Disk} (h : Formatted numSectors volume disk)
    (readings : Nat → String) : (volume.withClock ⟨readings, 0⟩).Told disk readings [] where
  clock_eq := rfl
  dated i header hheader := by
    have hused : (volume.directory.entry i).isUnused = false := (header?_eq_some_iff.1 hheader).1
    rw [h.directory_eq, Directory.entry_empty] at hused
    cases hused

theorem Told.toldOn (h : volume.Told (Disk.image device numSectors) readings journal)
    (hintact : volume.Intact (Disk.image device numSectors) lost)
    (hblocks : HasBlocks device numSectors) : volume.ToldOn device readings journal where
  clock_eq := h.clock_eq
  exists_dated i hused := by
    obtain ⟨header, hheader, -⟩ := hintact.exists_header i hused
    exact ⟨header, hintact.run_loadHome hblocks hheader, h.dated i header hheader⟩

end Volume

namespace Session

variable {session session' : Session} {request : Request} {answer : Answer} {events : Journal}

/-! ## Single requests -/

section Step

variable {volume volume' : Volume} {disk disk' : Disk} {lost lost' : List SectorId}
  {i : Fin numEntries} {header : FileHeader} {event : Event} {slot : Slot}

namespace Sound

/-- The header of the next file will be in a free sector. -/
theorem notMem_of_nextHeader? (h : session.Sound volume disk lost) {sector : SectorId}
    (hnext : session.nextHeader? slot = some sector) : sector.toNat ∉ volume.freeMap := by
  rw [nextHeader?, h.volumeIn?_eq] at hnext
  split_ifs at hnext
  · rcases htake : volume.freeMap.take? with _ | ⟨taken, map⟩
    · simp [htake] at hnext
    · simp only [htake, Option.bind_eq_bind, Option.bind_some, Option.pure_def,
        Option.some.injEq] at hnext
      obtain rfl := hnext
      exact (FreeMap.takes_of_take? h.intact.size_le_pow htake).free _ (List.mem_singleton_self _)
  · cases hnext

/-- What is noted about a file that is there already is that it was changed. -/
theorem eq_changed_of_isAbout (h : session.Sound volume disk lost)
    (hheader : volume.header? disk i = some header)
    (hnotes : session.Notes volume request answer events) (hevent : event ∈ events)
    (habout : event.IsAbout (volume.directory.entry i).header) :
    event = .changed (volume.directory.entry i).header := by
  rw [Notes] at hnotes
  split at hnotes
  · -- a new file has its header in a free sector, so it is not this one
    obtain ⟨sector, hnext, rfl⟩ := hnotes
    obtain rfl := List.mem_singleton.1 hevent
    obtain rfl : sector = _ := habout
    exact absurd (h.intact.partition.mem (Volume.metaSectors_subset _
      (Volume.Intact.header_mem hheader))) (h.notMem_of_nextHeader? hnext)
  · obtain ⟨j, -, rfl, -⟩ := hnotes event hevent
    exact congrArg Event.changed habout

theorem not_makes (h : session.Sound volume disk lost)
    (hheader : volume.header? disk i = some header)
    (hnotes : session.Notes volume request answer events) (hevent : event ∈ events) :
    ¬ event.Makes (volume.directory.entry i).header := by
  intro hmakes
  rw [h.eq_changed_of_isAbout hheader hnotes hevent hmakes.isAbout] at hmakes
  exact hmakes

end Sound

end Step

/-- What a request does to the times of the files, with the events that are noted. -/
structure Noted {δ : Type} [BlockDevice δ] (session : Session) (volume : Volume) (device : δ)
    (readings : Nat → String) (journal : Journal) (request : Request) (answer : Answer)
    (session' : Session) (volume' : Volume) (device' : δ) (events : Journal) : Prop where
  /-- The request is carried out. -/
  run_perform : (session.perform request).run device = (.ok (answer, session'), device')
  /-- The events are what a journal says of it. -/
  run_journal : (((session.journal request).run journal).run device).1 =
    .ok ((answer, session'), journal ++ events)
  /-- The file that was made is noted, or else only files that the request writes are. -/
  notes : session.Notes volume request answer events
  /-- There is one volume. -/
  volumes_eq : session'.volumes = #[volume']
  /-- The clock was read once for each event, and all files carry their readings. -/
  toldOn : volume'.ToldOn device' readings (journal ++ events)
  /-- Files that are not removed keep what was fixed when they were made, and are changed only if
  an event says so. -/
  exists_headers : ∀ i, (volume.directory.entry i).isUnused = false →
    ¬ session.Removes request (volume.directory.entry i) →
    volume'.directory.entry i = volume.directory.entry i ∧ ∃ header header',
      (FileHeader.loadHome (volume.directory.entry i).header).run device = (.ok header, device) ∧
      (FileHeader.loadHome (volume.directory.entry i).header).run device' =
        (.ok header', device') ∧
      header.SameOrigin header' ∧
      (.changed (volume.directory.entry i).header ∉ events → header'.modified = header.modified)

section Runs

variable {δ : Type} [BlockDevice δ]

/-- The device, the session and the journal come of laying out a disk, of giving the volume on it a
clock, and of permitted requests afterwards that leave the clock as it is. -/
inductive Timeline (numSectors : Nat) (readings : Nat → String) : δ → Session → Journal → Prop
  /-- The clock was set just now. -/
  | setClock {device device' device'' : δ} {slot clockSlot : Slot} {session session' : Session}
      (hblocks : HasBlocks device numSectors)
      (hformat : (start.perform (.format slot numSectors)).run device =
        (.ok (.done, session), device'))
      (hclock : (session.perform (.setClock clockSlot ⟨readings, 0⟩)).run device' =
        (.ok (.done, session'), device'')) :
      Timeline numSectors readings device'' session' []
  /-- A permitted request was carried out and noted. -/
  | perform {device device' : δ} {session session' : Session} {journal journal' : Journal}
      {request : Request} {answer : Answer}
      (h : Timeline numSectors readings device session journal)
      (hpermits : session.Permits (fun _ => True) request) (hclock : ¬ request.SetsClock)
      (hrun : (session.perform request).run device = (.ok (answer, session'), device'))
      (hjournal : (((session.journal request).run journal).run device).1 =
        .ok ((answer, session'), journal')) :
      Timeline numSectors readings device' session' journal'

variable [LawfulBlockDevice δ] {device device' : δ} {volume volume' : Volume}
  {lost lost' : List SectorId} {slot : Slot}

omit [LawfulBlockDevice δ] in
/-- Giving the volume another clock does nothing else. -/
theorem Sound.of_setClock {disk : Disk} {clock : Clock} (h : session.Sound volume disk lost)
    (hrun : (session.perform (.setClock slot clock)).run device =
      (.ok (.done, session'), device')) :
    session' = session.setVolume 0 (volume.withClock clock) ∧ device' = device := by
  rw [perform, changeVolume] at hrun
  rcases h.onVolume_cases slot _ with heq | ⟨-, heq⟩ <;> rw [heq] at hrun <;> cases hrun
  exact ⟨rfl, rfl⟩

namespace Timeline

/-- Along a time line the session is sound, and its volume is told by the journal. -/
theorem exists_told (h : Timeline numSectors readings device session journal) :
    ∃ volume lost, session.SoundOn device numSectors volume lost ∧
      volume.Told (Disk.image device numSectors) readings journal := by
  induction h with
  | @setClock _ _ _ slot clockSlot _ _ hblocks hformat hclock =>
    -- there are no files yet, so nothing has happened to any
    obtain ⟨hblocks', volume, rfl, hformatted⟩ := formatted_of_run hblocks hformat
    have hsound : (start.addVolume slot volume).SoundOn _ numSectors volume [] :=
      soundOn_format hblocks' hformatted
    obtain ⟨rfl, rfl⟩ := hsound.sound.of_setClock hclock
    have hpermits : (start.addVolume slot volume).Permits (fun _ => True)
      (.setClock clockSlot ⟨readings, 0⟩) := trivial
    obtain ⟨volume', lost', hadvanced, hsound'⟩ := hsound.exists_advanced hpermits hclock
    obtain rfl := eq_of_volumes_eq hsound'.sound.volumes_eq
      (volumes_setVolume hsound.sound.volumes_eq _)
    exact ⟨_, lost', hsound', hformatted.told_withClock readings⟩
  | perform h hpermits hnot hrun hjournal ih =>
    -- the request was carried out with the journal as without
    obtain ⟨volume, lost, hsound, htold⟩ := ih
    obtain ⟨volume', lost', hadvanced, hsound'⟩ := hsound.exists_advanced hpermits hrun
    obtain ⟨volume'', events, hvolumes, -, htold', -⟩ :=
      (hsound.sound.records_perform hsound.rings htold hpermits (sumsFit_of_run hrun) hnot).of_run
        hsound.hasBlocks hrun hjournal
    obtain rfl := eq_of_volumes_eq hvolumes hsound'.sound.volumes_eq
    exact ⟨volume'', lost', hsound', htold'⟩

end Timeline

/-- A permitted request whose sums fit runs through, and what is noted of it tells the times of the
files. -/
theorem SoundOn.exists_noted (h : session.SoundOn device numSectors volume lost)
    (htold : volume.Told (Disk.image device numSectors) readings journal)
    (hpermits : session.Permits (fun _ => True) request) (hfits : session.SumsFit request)
    (hclock : ¬ request.SetsClock) :
    ∃ answer session' volume' device' events, session.Noted volume device readings journal request
      answer session' volume' device' events := by
  obtain ⟨⟨answer, session'⟩, _, device', hjournal, hrun, hblocks', volume', events, hvolumes, rfl,
    htold', hnotes⟩ :=
      (h.sound.records_perform h.rings htold hpermits hfits hclock).exists_run h.hasBlocks
  obtain ⟨volume', lost', hadvanced, hsound'⟩ := h.exists_advanced hpermits hrun
  obtain rfl := eq_of_volumes_eq hvolumes hsound'.sound.volumes_eq
  have hintact := h.sound.intact
  have hintact' := hsound'.sound.intact
  refine ⟨answer, session', _, device', events, hrun, hjournal, hnotes, hvolumes,
    htold'.toldOn hintact' hblocks', fun i hused hkept => ?_⟩
  -- the file is in its entry as before, so both journals tell of the same file
  have hentry := hadvanced.evolves.entry_eq i hused hkept
  obtain ⟨header, hheader, -⟩ := hintact.exists_header i hused
  obtain ⟨header', hheader', -⟩ := hintact'.exists_header i (hentry ▸ hused)
  have hdated := htold.dated i header hheader
  have hdated' := htold'.dated i header' hheader'
  have hrun' := hintact'.run_loadHome hblocks' hheader'
  rw [hentry] at hdated' hrun'
  refine ⟨hentry, header, header', hintact.run_loadHome h.hasBlocks hheader, hrun',
    hdated.sameOrigin hdated' fun event hevent => h.sound.not_makes hheader hnotes hevent,
    fun hunchanged => ?_⟩
  refine hdated.modified_eq hdated' fun event hevent habout => hunchanged ?_
  exact h.sound.eq_changed_of_isAbout hheader hnotes hevent habout ▸ hevent

/-- Along each time line the clock is read once for each event, and all headers on the device carry
the readings that belong to them. So it goes on with each request that is permitted and whose sums
fit: it runs through, and the type and the times of a file change only with the events about it. -/
theorem Timeline.tells_truth (h : Timeline numSectors readings device session journal) :
    ∃ volume, session.volumes = #[volume] ∧ volume.ToldOn device readings journal ∧
      ∀ request, session.Permits (fun _ => True) request → session.SumsFit request →
        ¬ request.SetsClock →
          ∃ answer session' volume' device' events, session.Noted volume device readings journal
            request answer session' volume' device' events := by
  obtain ⟨volume, lost, hsound, htold⟩ := h.exists_told
  exact ⟨volume, hsound.sound.volumes_eq, htold.toldOn hsound.sound.intact hsound.hasBlocks,
    fun _ hpermits hfits hclock => hsound.exists_noted htold hpermits hfits hclock⟩

/-! ## A run -/

omit [LawfulBlockDevice δ] in
/-- What is done along a time line is done in reach of a disk that was laid out. -/
theorem Timeline.reachable (h : Timeline numSectors readings device session journal) :
    Reachable (fun _ => True) numSectors device session := by
  induction h with
  | @setClock _ _ _ _ clockSlot session _ hblocks hformat hclock =>
    have hpermits : session.Permits (fun _ => True) (.setClock clockSlot ⟨readings, 0⟩) := trivial
    exact (Reachable.format hblocks hformat).perform hpermits hclock
  | perform h hpermits hnot hrun hjournal ih => exact ih.perform hpermits hrun

/-- The journal with what is noted of a request after a run. -/
def journalAfter? {σ : Type} [BlockDevice σ] (journal : Journal) (request : Request)
    (outcome : Except Fault (List Answer × Session) × σ) : Option Journal := do
  let (_, session) ← outcome.1.toOption
  let (_, journal) ← (((session.journal request).run journal).run outcome.2).1.toOption
  return journal

/-- A time line goes on with a request and with what is noted of it. -/
theorem Timeline.next {answers : List Answer} {journal' : Journal}
    (h : Timeline numSectors readings device session journal)
    (hpermits : session.Permits (fun _ => True) request) (hclock : ¬ request.SetsClock)
    (hrun : (session.perform request).run device = (.ok (answer, session'), device'))
    (hjournal : journalAfter? journal request (.ok (answers, session), device) = some journal') :
    Timeline numSectors readings device' session' journal' := by
  obtain ⟨volume, lost, hsound, htold⟩ := h.exists_told
  obtain ⟨answer₁, session₁, volume₁, device₁, events, hnoted⟩ :=
    hsound.exists_noted htold hpermits (sumsFit_of_run hrun) hclock
  have hperform := hnoted.run_perform
  rw [hrun, Prod.mk.injEq, Except.ok.injEq, Prod.mk.injEq] at hperform
  obtain ⟨⟨rfl, rfl⟩, rfl⟩ := hperform
  have hevents : some (journal ++ events) = some journal' := by
    rw [← hjournal]
    simp only [journalAfter?, Except.toOption, Option.bind_eq_bind, Option.bind_some,
      hnoted.run_journal]
    rfl
  rw [← Option.some.inj hevents]
  exact h.perform hpermits hclock hrun hnoted.run_journal

/-- On a memory disk of 20 blocks, a pipe with a ring of four bytes is made, filled, read and filled
again around the end of its ring, for which its file is changed twice. -/
theorem Timeline.tells_truth_of_pipe : ∃ (session : Session) (device : RamDisk sectorSize),
    (start.performAll [.format 0 20, .setClock 0 (.ofList ["one", "two", "three", "four"]),
        .makePipe 0 0 3, .stepPipe 0 (.write [1, 2, 3]), .stepPipe 0 (.read [0, 0]),
        .stepPipe 0 (.write [4, 5])]).run (RamDisk.zeroed 20 sectorSize) =
      (.ok ([.done, .done, .text "__pipe_4_0__", .stepped (.wrote 3),
        .stepped (.filled ⟨2, [1, 2]⟩), .stepped (.wrote 2)], session), device) ∧
    Timeline 20 (Clock.ofList ["one", "two", "three", "four"]).readings device session
      [.made 7 "__pipe_4_0__", .changed 7, .changed 7, .changed 7] ∧
    ∃ volume, session.volumes = #[volume] ∧
      volume.ToldOn device (Clock.ofList ["one", "two", "three", "four"]).readings
        [.made 7 "__pipe_4_0__", .changed 7, .changed 7, .changed 7] ∧
      ∀ request, session.Permits (fun _ => True) request → session.SumsFit request →
        ¬ request.SetsClock → ∃ answer session' volume' device' events, session.Noted volume device
          (Clock.ofList ["one", "two", "three", "four"]).readings
          [.made 7 "__pipe_4_0__", .changed 7, .changed 7, .changed 7] request answer session'
          volume' device' events := by
  have hanswers : answers? ((start.performAll [.format 0 20,
      .setClock 0 (.ofList ["one", "two", "three", "four"]), .makePipe 0 0 3,
      .stepPipe 0 (.write [1, 2, 3]), .stepPipe 0 (.read [0, 0]),
      .stepPipe 0 (.write [4, 5])]).run (RamDisk.zeroed 20 sectorSize)) =
        some [.done, .done, .text "__pipe_4_0__", .stepped (.wrote 3),
          .stepped (.filled ⟨2, [1, 2]⟩), .stepped (.wrote 2)] := by decide +kernel
  have hnotes₁ : journalAfter? [] (.makePipe 0 0 3) ((start.performAll [.format 0 20,
      .setClock 0 (.ofList ["one", "two", "three", "four"])]).run (RamDisk.zeroed 20 sectorSize)) =
        some [.made 7 "__pipe_4_0__"] := by decide +kernel
  have hnotes₂ : journalAfter? [.made 7 "__pipe_4_0__"] (.stepPipe 0 (.write [1, 2, 3]))
      ((start.performAll [.format 0 20, .setClock 0 (.ofList ["one", "two", "three", "four"]),
        .makePipe 0 0 3]).run (RamDisk.zeroed 20 sectorSize)) =
        some [.made 7 "__pipe_4_0__", .changed 7] := by decide +kernel
  have hnotes₃ : journalAfter? [.made 7 "__pipe_4_0__", .changed 7] (.stepPipe 0 (.read [0, 0]))
      ((start.performAll [.format 0 20, .setClock 0 (.ofList ["one", "two", "three", "four"]),
        .makePipe 0 0 3, .stepPipe 0 (.write [1, 2, 3])]).run (RamDisk.zeroed 20 sectorSize)) =
        some [.made 7 "__pipe_4_0__", .changed 7] := by decide +kernel
  have hnotes₄ : journalAfter? [.made 7 "__pipe_4_0__", .changed 7] (.stepPipe 0 (.write [4, 5]))
      ((start.performAll [.format 0 20, .setClock 0 (.ofList ["one", "two", "three", "four"]),
        .makePipe 0 0 3, .stepPipe 0 (.write [1, 2, 3]), .stepPipe 0 (.read [0, 0])]).run
          (RamDisk.zeroed 20 sectorSize)) =
        some [.made 7 "__pipe_4_0__", .changed 7, .changed 7, .changed 7] := by decide +kernel
  obtain ⟨session, device, hrun⟩ := exists_of_answers? hanswers
  obtain ⟨session₁, device₁, hformat, hrest⟩ := run_performAll_cons hrun
  obtain ⟨session₂, device₂, hclock, hrest⟩ := run_performAll_cons hrest
  obtain ⟨session₃, device₃, hmake, hrest⟩ := run_performAll_cons hrest
  obtain ⟨session₄, device₄, hfill, hrest⟩ := run_performAll_cons hrest
  obtain ⟨session₅, device₅, hread, hrest⟩ := run_performAll_cons hrest
  obtain ⟨session₆, device₆, hrefill, hrest⟩ := run_performAll_cons hrest
  obtain ⟨-, rfl, rfl⟩ := run_performAll_nil hrest
  rw [run_performAll_of_run hformat (run_performAll_of_run hclock rfl)] at hnotes₁
  rw [run_performAll_of_run hformat (run_performAll_of_run hclock
    (run_performAll_of_run hmake rfl))] at hnotes₂
  rw [run_performAll_of_run hformat (run_performAll_of_run hclock (run_performAll_of_run hmake
    (run_performAll_of_run hfill rfl)))] at hnotes₃
  rw [run_performAll_of_run hformat (run_performAll_of_run hclock (run_performAll_of_run hmake
    (run_performAll_of_run hfill (run_performAll_of_run hread rfl))))] at hnotes₄
  have hblocks : HasBlocks (RamDisk.zeroed 20 sectorSize) 20 := RamDisk.hasBlocks _
  have htimes₂ := Timeline.setClock hblocks hformat hclock
  have hmakes : session₂.Permits (fun _ => True) (.makePipe 0 0 3) := trivial
  have htimes₃ := htimes₂.next hmakes id hmake hnotes₁
  -- the pipe stays good for use while nothing else is done
  have huses : ∀ step, (Request.stepPipe 0 step).UsesPipe 0 := fun _ => rfl
  have hpipe₃ := PipeHistory.made htimes₂.reachable hmake
  have htimes₄ := htimes₃.next (hpipe₃.permits (huses _) _) id hfill hnotes₂
  have hpipe₄ := hpipe₃.use (huses _) hfill
  have htimes₅ := htimes₄.next (hpipe₄.permits (huses _) _) id hread hnotes₃
  have hpipe₅ := hpipe₄.use (huses _) hread
  have htimes := htimes₅.next (hpipe₅.permits (huses _) _) id hrefill hnotes₄
  exact ⟨session, device, hrun, htimes, htimes.tells_truth⟩

end Runs

end Session

end SectorStore
