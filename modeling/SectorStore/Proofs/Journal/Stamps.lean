import SectorStore.Proofs.Journal.Basic
import SectorStore.Proofs.Volume.Evolution
import SectorStore.Proofs.Volume.Joining

/-!
# Time stamps

A volume is `Told` by a journal if its clock was read once for each event, and if the header of each
file carries the readings that belong to it: the times of creation and of visit are the reading of
the event in which the file was made, the time of change is that of the last event about the file
(`FileHeader.Dated`). Sectors are used again after a removal, so it is always the last event that
counts.

Making, removing and writing a file keep a volume told, with the events that a journal notes
(`Told.yields_create`, `Told.yields_remove`, `Told.records_writeAt`).
-/

namespace SectorStore

variable {journal : Journal} {events : List Event} {event : Event} {sector : SectorId}
  {readings : Nat → String}

/-! ## Journals -/

/-- The file with its header in the sector is made. -/
def Event.Makes (sector : SectorId) : Event → Prop
  | .made other _ => other = sector
  | .changed _ => False

/-- The event has happened to the file with its header in the sector. -/
def Event.IsAbout (sector : SectorId) : Event → Prop
  | .made other _ => other = sector
  | .changed other => other = sector

/-- An event that makes a file is about this file. -/
theorem Event.Makes.isAbout (h : event.Makes sector) : event.IsAbout sector := by
  cases event with
  | made other name => exact h
  | changed other => exact h.elim

/-- A journal has gone on to a later one with events of one kind. -/
def Journal.GoesOn (start journal : Journal) (kind : Event → Prop) : Prop :=
  ∃ events, journal = start ++ events ∧ ∀ event ∈ events, kind event

namespace Journal.GoesOn

variable {start journal' : Journal} {kind : Event → Prop}

theorem refl (journal : Journal) (kind : Event → Prop) : journal.GoesOn journal kind :=
  ⟨[], (List.append_nil _).symm, nofun⟩

/-- A journal goes on by the events that are added. -/
theorem append (h : ∀ event ∈ events, kind event) : journal.GoesOn (journal ++ events) kind :=
  ⟨events, rfl, h⟩

theorem trans (h : start.GoesOn journal kind) (h' : journal.GoesOn journal' kind) :
    start.GoesOn journal' kind := by
  obtain ⟨events, rfl, hevents⟩ := h
  obtain ⟨events', rfl, hevents'⟩ := h'
  refine ⟨events ++ events', List.append_assoc .., fun event hevent => ?_⟩
  exact (List.mem_append.1 hevent).elim (hevents event) (hevents' event)

end Journal.GoesOn

/-- The event at an index is the last one of a kind. -/
structure Journal.LastAt (journal : Journal) (kind : Event → Prop) (index : Nat) (event : Event) :
    Prop where
  /-- The event is in the journal. -/
  getElem?_eq : journal[index]? = some event
  /-- It is of the kind. -/
  is_kind : kind event
  /-- No later one is. -/
  not_later : ∀ later other, index < later → journal[later]? = some other → ¬ kind other

namespace Journal.LastAt

variable {kind : Event → Prop} {index index' : Nat} {event' : Event}

/-- An event stays the last one of its kind while only others follow. -/
theorem append (h : journal.LastAt kind index event) (hnone : ∀ event ∈ events, ¬ kind event) :
    Journal.LastAt (journal ++ events) kind index event where
  getElem?_eq := by
    have hlt := (List.getElem?_eq_some_iff.1 h.getElem?_eq).1
    rw [List.getElem?_append_left hlt, h.getElem?_eq]
  is_kind := h.is_kind
  not_later later other hlater hother := by
    rcases Nat.lt_or_ge later journal.length with hlt | hge
    · rw [List.getElem?_append_left hlt] at hother
      exact h.not_later later other hlater hother
    · rw [List.getElem?_append_right hge] at hother
      exact hnone other (List.mem_of_getElem? hother)

/-- The event at the end of a journal is the last one of its kind. -/
theorem of_append (hkind : kind event) :
    Journal.LastAt (journal ++ [event]) kind journal.length event where
  getElem?_eq := by rw [List.getElem?_append_right (Nat.le_refl _), Nat.sub_self]; rfl
  is_kind := hkind
  not_later later other hlater hother := by
    have hlt := (List.getElem?_eq_some_iff.1 hother).1
    rw [List.length_append, List.length_singleton] at hlt
    omega

/-- There is one last event of a kind. -/
theorem unique (h : journal.LastAt kind index event) (h' : journal.LastAt kind index' event') :
    index = index' ∧ event = event' := by
  -- of two different places the earlier one is followed by an event of the kind
  obtain hlt | rfl | hlt := Nat.lt_trichotomy index index'
  · exact absurd h'.is_kind (h.not_later index' event' hlt h'.getElem?_eq)
  · exact ⟨rfl, Option.some.inj (h.getElem?_eq.symm.trans h'.getElem?_eq)⟩
  · exact absurd h.is_kind (h'.not_later index event hlt h.getElem?_eq)

end Journal.LastAt

/-! ## Headers -/

namespace FileHeader

/-- The header is of a file that was made under a name at a time. -/
structure MadeAt (header : FileHeader) (name time : String) : Prop where
  /-- The type is told by the name. -/
  kind_eq : header.kind = (header.setKind (Extension.ofName name)).kind
  /-- The file was made at that time. -/
  created_eq : header.created = .ofString time
  /-- It was looked at when it was made, and never since. -/
  visited_eq : header.visited = .ofString time

/-- The times of the header of a directory entry are those of the events about its file. -/
structure Dated (header : FileHeader) (readings : Nat → String) (journal : Journal)
    (entry : DirEntry) : Prop where
  /-- The file was made when one was made last in its sector, under the name that is listed. -/
  exists_made : ∃ name index,
    journal.LastAt (Event.Makes entry.header) index (.made entry.header name) ∧
      header.MadeAt name (readings index) ∧ ('\x00' ∉ name.toList → entry.name = name)
  /-- It was changed when something happened to it last. -/
  exists_changed : ∃ index event, journal.LastAt (Event.IsAbout entry.header) index event ∧
    header.modified = .ofString (readings index)

/-- The headers are alike in what is fixed when a file is made. -/
structure SameOrigin (header header' : FileHeader) : Prop where
  /-- The type is the same. -/
  kind_eq : header'.kind = header.kind
  /-- The time of creation is the same. -/
  created_eq : header'.created = header.created
  /-- The time of visit is the same. -/
  visited_eq : header'.visited = header.visited

variable {header header' : FileHeader} {entry : DirEntry} {name : String}

/-- What tells when a file was made is its origin. -/
theorem MadeAt.congr {time : String} (h : header.MadeAt name time)
    (hsame : header.SameOrigin header') : header'.MadeAt name time :=
  ⟨hsame.kind_eq.trans h.kind_eq, hsame.created_eq.trans h.created_eq,
    hsame.visited_eq.trans h.visited_eq⟩

/-- Name and time of its making tell what is fixed of a header. -/
theorem MadeAt.sameOrigin {time : String} (h : header.MadeAt name time)
    (h' : header'.MadeAt name time) : header.SameOrigin header' where
  kind_eq := by rw [h.kind_eq, h'.kind_eq, setKind, setKind]
  created_eq := h'.created_eq.trans h.created_eq.symm
  visited_eq := h'.visited_eq.trans h.visited_eq.symm

namespace Dated

/-- Events about other files are of no matter. -/
theorem append (h : header.Dated readings journal entry)
    (hnone : ∀ event ∈ events, ¬ event.IsAbout entry.header) :
    header.Dated readings (journal ++ events) entry := by
  obtain ⟨name, made, hmade, hmadeAt⟩ := h.exists_made
  obtain ⟨changed, event, hchanged, hmodified⟩ := h.exists_changed
  exact ⟨⟨name, made, hmade.append fun event hevent hmakes => hnone event hevent hmakes.isAbout,
    hmadeAt⟩, changed, event, hchanged.append hnone, hmodified⟩

/-- A file that is changed is changed at that time, and was made when it was made. -/
theorem changed (h : header.Dated readings journal entry) (hsame : header.SameOrigin header')
    (hmodified : header'.modified = .ofString (readings journal.length)) :
    header'.Dated readings (journal ++ [.changed entry.header]) entry := by
  obtain ⟨name, made, hmade, hmadeAt, hname⟩ := h.exists_made
  -- a change is no making, so what was fixed then stays
  refine ⟨⟨name, made, hmade.append ?_, hmadeAt.congr hsame, hname⟩,
    journal.length, _, .of_append rfl, hmodified⟩
  intro event hevent
  rw [List.mem_singleton.1 hevent]
  exact id

/-- A file that is made has all its times from there. -/
theorem made (hmadeAt : header.MadeAt name (readings journal.length))
    (hmodified : header.modified = .ofString (readings journal.length))
    (hname : '\x00' ∉ name.toList → entry.name = name) :
    header.Dated readings (journal ++ [.made entry.header name]) entry :=
  ⟨⟨name, journal.length, .of_append rfl, hmadeAt, hname⟩, journal.length, _, .of_append rfl,
    hmodified⟩

/-- What is fixed when a file is made stays until a file is made in its sector again. -/
theorem sameOrigin (h : header.Dated readings journal entry)
    (h' : header'.Dated readings (journal ++ events) entry)
    (hnone : ∀ event ∈ events, ¬ event.Makes entry.header) : header.SameOrigin header' := by
  obtain ⟨name, made, hmade, hmadeAt, -⟩ := h.exists_made
  obtain ⟨name', made', hmade', hmadeAt', -⟩ := h'.exists_made
  obtain ⟨rfl, ⟨⟩⟩ := (hmade.append hnone).unique hmade'
  exact hmadeAt.sameOrigin hmadeAt'

/-- The time of change stays until something happens to the file. -/
theorem modified_eq (h : header.Dated readings journal entry)
    (h' : header'.Dated readings (journal ++ events) entry)
    (hnone : ∀ event ∈ events, ¬ event.IsAbout entry.header) :
    header'.modified = header.modified := by
  obtain ⟨changed, event, hchanged, hmodified⟩ := h.exists_changed
  obtain ⟨changed', event', hchanged', hmodified'⟩ := h'.exists_changed
  obtain ⟨rfl, -⟩ := (hchanged.append hnone).unique hchanged'
  rw [hmodified, hmodified']

end Dated

end FileHeader

/-! ## Volumes -/

namespace Volume

variable {volume volume' : Volume} {disk disk' : Disk} {lost : List SectorId}
  {i : Fin numEntries} {header header' : FileHeader} {name : String} {size offset written : Nat}
  {data : Bytes} {file : OpenFile}

/-- The clock was read once for each event of the journal, and the files carry the readings. -/
structure Told (volume : Volume) (disk : Disk) (readings : Nat → String) (journal : Journal) :
    Prop where
  /-- There is a reading for each event. -/
  clock_eq : volume.clock = ⟨readings, journal.length⟩
  /-- Each header has the readings of the events about its file. -/
  dated : ∀ i header, volume.header? disk i = some header →
    header.Dated readings journal (volume.directory.entry i)

namespace Told

/-- What leaves the clock and the headers alone is no event. -/
theorem of_kept (h : volume.Told disk readings journal) (hclock : volume'.clock = volume.clock)
    (hkept : ∀ j header, volume'.header? disk' j = some header →
      volume'.directory.entry j = volume.directory.entry j ∧ volume.header? disk j = some header) :
    volume'.Told disk' readings journal where
  clock_eq := hclock.trans h.clock_eq
  dated j header hheader := by
    obtain ⟨hentry, hold⟩ := hkept j header hheader
    exact hentry ▸ h.dated j header hold

/-- With an event, the headers of the files that it is not about stay as they are. -/
theorem of_event (h : volume.Told disk readings journal)
    (hclock : volume'.clock = volume.now.2.clock)
    (hcases : ∀ j header, volume'.header? disk' j = some header →
      header.Dated readings (journal ++ [event]) (volume'.directory.entry j) ∨
        ¬ event.IsAbout (volume'.directory.entry j).header ∧
          volume'.directory.entry j = volume.directory.entry j ∧
          volume.header? disk j = some header) :
    volume'.Told disk' readings (journal ++ [event]) where
  clock_eq := by
    rw [hclock, now, Clock.now, h.clock_eq, List.length_append, List.length_singleton]
  dated j header hheader := by
    rcases hcases j header hheader with hdated | ⟨hnot, hentry, hold⟩
    · exact hdated
    · rw [hentry] at hnot ⊢
      exact (h.dated j header hold).append fun event' hevent' =>
        (List.mem_singleton.1 hevent').symm ▸ hnot

/-- The clock gives the reading of the next event. -/
theorem now_eq (h : volume.Told disk readings journal) :
    volume.now.1 = readings journal.length := by
  rw [now, Clock.now, h.clock_eq]

end Told

/-! ## Making a file -/

/-- The header of a new file is in the sector that was the next to be taken, and has the time of the
one reading of the clock. -/
theorem Intact.yields_create_stamped (h : volume.Intact disk lost) (name : String) (size : Nat) :
    (volume.create name size).run.Yields disk fun answer disk' =>
      ∀ volume', answer = .ok volume' → ∃ i map header,
        volume.directory.firstUnused? = some i ∧
        volume.freeMap.take? = some ((volume'.directory.entry i).header, map) ∧
        disk'.header? (volume'.directory.entry i).header = some header ∧
        header.MadeAt name volume.now.1 ∧ header.modified = .ofString volume.now.1 := by
  rcases hrefusal : volume.refusal? name size with _ | cause
  swap
  · rw [create_eq_throw h.size_le_pow hrefusal, Transfer.yields_run_throw]
    nofun
  obtain ⟨sector, map, entry, i, haccepted⟩ := exists_accepted h.size_le_pow hrefusal
  -- the clock is read once the sectors are taken, when nothing refuses any more
  rw [haccepted.create_eq, Transfer.yields_run_bind]
  refine (haccepted.yields_allocate h).mono ?_
  rintro - disk₁ ⟨header, map₂, rfl, halloc⟩
  simp only [Transfer.yields_run_bind, Transfer.yields_run_lift]
  refine (haccepted.yields_writeNew h halloc (header.sameLayout_describe _ _ _) rfl).mono ?_
  intro _ disk₃ hstored
  obtain ⟨lost', hintact, -⟩ := hstored.intact
  -- writing the tables back spares the header
  refine hintact.yields_flush.mono ?_
  rintro - disk₄ ⟨-, -, hoff⟩
  rw [Transfer.yields_run_pure]
  rintro _ ⟨⟩
  have hentry : ((volume.withFile map₂ i entry).directory.entry i).header = sector :=
    haccepted.header_eq map₂
  refine ⟨i, map, (header.describe (Extension.ofName name) volume.now.1).setHome sector,
    haccepted.firstUnused?_eq, ?_, ?_, ⟨rfl, rfl, rfl⟩, rfl⟩
  · rw [hentry]
    exact FreeMap.take?_eq_of_takes h.size_le_pow haccepted.takes
  · rw [hentry]
    exact (hstored.lodged_of_sameOff h hoff).header?_eq

/-- A new file has all its times from the one reading of the clock. -/
theorem Told.created (h : volume.Told disk readings journal) (hintact : volume.Intact disk lost)
    (hcreated : volume.Created disk lost name size i volume' disk')
    (hfree : (volume'.directory.entry i).header.toNat ∉ volume.freeMap)
    (hheader : disk'.header? (volume'.directory.entry i).header = some header)
    (hmadeAt : header.MadeAt name volume.now.1)
    (hmodified : header.modified = .ofString volume.now.1) :
    volume'.Told disk' readings
      (journal ++ [.made (volume'.directory.entry i).header name]) := by
  rw [h.now_eq] at hmadeAt hmodified
  refine h.of_event (by rw [hcreated.fields_eq]) fun j header' hheader' => ?_
  by_cases hj : j = i
  · subst hj
    obtain rfl := Option.some.inj (hheader.symm.trans (header?_eq_some_iff.1 hheader').2)
    exact .inl (.made hmadeAt hmodified hcreated.name_eq)
  -- an old file keeps its sectors, of which none was free
  have hentry := hcreated.entry_eq hj
  have hold : volume.header? disk j = some header' := by
    rw [← hheader', hcreated.header?_of_ne hintact hj]
  refine .inr ⟨fun habout => hfree ?_, hentry, hold⟩
  rw [show (volume'.directory.entry i).header = (volume'.directory.entry j).header from habout,
    hentry]
  exact hintact.partition.mem (metaSectors_subset _ (Intact.header_mem hold))

/-- Making a file is an event if it is not refused, and nothing otherwise. -/
theorem Told.yields_create (h : volume.Told disk readings journal)
    (hintact : volume.Intact disk lost) (name : String) (size : Nat) :
    (volume.create name size).run.Yields disk fun answer disk' =>
      match answer with
      | .error _ => disk' = disk
      | .ok volume' => ∃ sector map, volume.freeMap.take? = some (sector, map) ∧
          volume'.Told disk' readings (journal ++ [.made sector name]) := by
  refine ((hintact.yields_create name size).and (hintact.yields_create_stamped name size)).mono ?_
  rintro answer disk' ⟨houtcome, hstamped⟩
  rcases hrefusal : volume.refusal? name size with _ | cause
  · rw [hrefusal] at houtcome
    obtain ⟨volume', i, rfl, hcreated⟩ := houtcome
    obtain ⟨i', map, header, hfirst, htake, hheader, hmadeAt, hmodified⟩ := hstamped volume' rfl
    obtain rfl := Option.some.inj (hcreated.firstUnused?_eq.symm.trans hfirst)
    have htakes := FreeMap.takes_of_take? hintact.size_le_pow htake
    exact ⟨_, map, htake, h.created hintact hcreated
      (htakes.free _ (List.mem_singleton_self _)) hheader hmadeAt hmodified⟩
  · rw [hrefusal] at houtcome
    obtain ⟨rfl, rfl⟩ := houtcome
    rfl

/-! ## Removing a file -/

/-- The journal tells of the files that are left. -/
theorem Told.removed (h : volume.Told disk readings journal) (hintact : volume.Intact disk lost)
    (hremoved : volume.Removed disk lost i volume' disk') :
    volume'.Told disk' readings journal := by
  refine h.of_kept (by rw [hremoved.fields_eq]) fun j header hheader => ?_
  have hj := hremoved.ne_of_isUnused_eq (header?_eq_some_iff.1 hheader).1
  exact ⟨hremoved.entry_eq hj, by rw [← hheader, hremoved.header?_of_ne hintact hj]⟩

/-- Removing a file is no event, whether it is refused or not. -/
theorem Told.yields_remove (h : volume.Told disk readings journal)
    (hintact : volume.Intact disk lost) (name : String) :
    (volume.remove name).run.Yields disk fun answer disk' =>
      match answer with
      | .error _ => disk' = disk
      | .ok volume' => volume'.Told disk' readings journal := by
  refine (hintact.yields_remove name).mono fun answer disk' houtcome => ?_
  rcases hindex : volume.directory.indexOf? name with _ | i
  · rw [hindex] at houtcome
    obtain ⟨rfl, rfl⟩ := houtcome
    rfl
  · rw [hindex] at houtcome
    obtain ⟨volume', rfl, hremoved⟩ := houtcome
    exact h.removed hintact hremoved

/-! ## Writing to a file -/

/-- A write reads the clock if it has changed the file, and otherwise leaves clock and header. -/
theorem Intact.yields_writeAt_clock (h : volume.Intact disk lost)
    (hlists : volume.Lists file.headerSector i)
    (hheader : volume.header? disk i = some header) (hsum : offset + data.length < sumLimit) :
    (file.writeAt volume offset data).Yields disk fun answer disk' =>
      if 0 < answer.1 ∨
          FileHeader.reach header.length volume.numFree (offset + data.length) ≠ header.length then
        answer.2.clock = volume.now.2.clock
      else answer.2.clock = volume.clock ∧ answer.2.header? disk' i = some header := by
  rw [OpenFile.writeAt_eq _ _ hsum, Transfer.yields_bind, h.yields_header hlists hheader]
  refine (h.yields_extend hheader (Nat.le_add_right offset data.length) hsum).bind ?_
  rintro ⟨header', volume'⟩ disk₁ ⟨fresh, hext⟩
  simp only at hext
  have hclock : volume'.clock = volume.clock := by rw [hext.fields_eq]
  refine (hext.placed.yields_writeAt hsum).bind ?_
  rintro written disk₂ ⟨-, hoff, -⟩
  obtain ⟨h₂, hheader₂, -⟩ := hext.intact.congr_of_write hext.header?_eq hext.dataSectors_eq hoff
  simp only [← hext.length_eq]
  -- only the last step reads the clock, and stores the header
  split
  · have hlt := h₂.header_lt_count hheader₂
    rw [show volume'.directory = volume.directory by rw [hext.fields_eq], hlists.2] at hlt
    rw [FileHeader.store, Transfer.yields_bind, Transfer.yields_store hlt, Transfer.yields_pure,
      if_pos ‹_›]
    rw [now, now, hclock]
  · rw [Transfer.yields_pure, if_neg ‹_›]
    exact ⟨hclock, hheader₂⟩

/-- A write that has changed a file stamps it, and leaves all other files alone. -/
theorem Told.wrote (h : volume.Told disk readings journal) (hintact : volume.Intact disk lost)
    (hheader : volume.header? disk i = some header)
    (hwrote : volume.Wrote disk lost i header offset data written header' volume' disk')
    (hchanged : 0 < written ∨ header'.length ≠ header.length)
    (hclock : volume'.clock = volume.now.2.clock) :
    volume'.Told disk' readings (journal ++ [.changed (volume.directory.entry i).header]) := by
  have hdirectory := hwrote.outcome.directory_eq
  refine h.of_event hclock fun j header₁ hheader₁ => ?_
  rw [hdirectory]
  by_cases hj : j = i
  · subst hj
    obtain rfl := Option.some.inj (hwrote.changes.header?_eq.symm.trans hheader₁)
    have hmodified := (hwrote.changes.stamped hchanged).1
    rw [h.now_eq] at hmodified
    refine .inl ((h.dated j header hheader).changed ?_ hmodified)
    rw [hwrote.changes.header_eq]
    exact ⟨rfl, rfl, rfl⟩
  have hold : volume.header? disk j = some header₁ := by
    rw [← hheader₁, hwrote.header?_of_ne hintact hheader hj]
  -- no two files have their headers in one sector, so the event is not about this one
  refine .inr ⟨fun habout => hj ?_, rfl, hold⟩
  exact hintact.entry_inj (header?_eq_some_iff.1 hold).1 (header?_eq_some_iff.1 hheader).1
    (show _ = _ from habout).symm

/-- A write that has changed nothing of the file is no event. -/
theorem Told.wrote_nothing (h : volume.Told disk readings journal)
    (hintact : volume.Intact disk lost) (hheader : volume.header? disk i = some header)
    (hwrote : volume.Wrote disk lost i header offset data written header' volume' disk')
    (hclock : volume'.clock = volume.clock) (hsame : volume'.header? disk' i = some header) :
    volume'.Told disk' readings journal := by
  have hdirectory := hwrote.outcome.directory_eq
  refine h.of_kept hclock fun j header₁ hheader₁ => ⟨by rw [hdirectory], ?_⟩
  by_cases hj : j = i
  · subst hj
    rw [← Option.some.inj (hsame.symm.trans hheader₁), hheader]
  · rw [← hheader₁, hwrote.header?_of_ne hintact hheader hj]

/-- The length of a listed file is read without a write. -/
theorem Intact.run_length (h : volume.Intact disk lost)
    (hlists : volume.Lists file.headerSector i) (hheader : volume.header? disk i = some header) :
    file.length.run disk = (.ok header.length, disk) := by
  have hlength : file.length.Yields disk fun n disk' => n = header.length ∧ disk' = disk := by
    rw [OpenFile.length, Transfer.yields_bind, h.yields_header hlists hheader,
      Transfer.yields_pure]
    exact ⟨rfl, rfl⟩
  obtain ⟨_, _, hrun, rfl, rfl⟩ := hlength
  exact hrun

open Journaling

/-- A journaling write of which every part has run. -/
theorem run_journaling_writeAt {before after : Nat}
    (hbefore : file.length.run disk = (.ok before, disk))
    (hrun : (file.writeAt volume offset data).run disk = (.ok (written, volume'), disk'))
    (hafter : file.length.run disk' = (.ok after, disk')) :
    ((Journaling.writeAt file volume offset data).run journal).run disk =
      (.ok ((written, volume'), journal ++
        if 0 < written ∨ after ≠ before then [.changed file.headerSector] else []), disk') := by
  show (((file.length >>= fun before => pure (before, journal)) >>= _ : Transfer _)).run disk = _
  rw [bind_assoc, Transfer.run_bind, hbefore]
  show (((file.writeAt volume offset data >>= fun a => pure (a, journal)) >>= _ : Transfer _)).run
    disk = _
  rw [bind_assoc, Transfer.run_bind, hrun]
  show (((file.length >>= fun after => pure (after, journal)) >>= _ : Transfer _)).run disk' = _
  rw [bind_assoc, Transfer.run_bind, hafter]
  rfl

/-- A journaling write notes an event exactly if it has read the clock and stamped the file. -/
theorem Told.records_writeAt (h : volume.Told disk readings journal)
    (hintact : volume.Intact disk lost) (hlists : volume.Lists file.headerSector i)
    (hsum : offset + data.length < sumLimit) :
    Records (Journaling.writeAt file volume offset data) (file.writeAt volume offset data) disk
      journal fun answer journal' disk' =>
        answer.2.Intact disk' lost ∧ answer.2.Lists file.headerSector i ∧
          answer.2.Told disk' readings journal' ∧
          journal.GoesOn journal' (· = .changed file.headerSector) := by
  obtain ⟨header, hheader, -⟩ := hintact.exists_header i hlists.1
  obtain ⟨⟨written, volume'⟩, disk', hrun, ⟨hwritten, header', hrewritten⟩, hclock⟩ :=
    (hintact.yields_rewrite hlists hheader hsum).and
      (hintact.yields_writeAt_clock hlists hheader hsum)
  have hwrote : volume.Wrote disk lost i header offset data written header' volume' disk' :=
    ⟨hwritten, hrewritten⟩
  -- the lengths that the journal compares are those of the headers before and after
  have hlists' := hwritten.changesOnly.lists hlists
  have hbefore := hintact.run_length hlists hheader
  have hafter := hwritten.intact.run_length hlists' hrewritten.header?_eq
  refine ⟨_, _, disk', run_journaling_writeAt hbefore hrun hafter, hrun, hwritten.intact, hlists',
    ?_, .append ?_⟩
  · simp only [← hrewritten.length_eq] at hclock
    split at hclock
    · next hchanged =>
      rw [if_pos hchanged, ← hlists.2]
      exact h.wrote hintact hheader hwrote hchanged hclock
    · next hsame =>
      rw [if_neg hsame, List.append_nil]
      exact h.wrote_nothing hintact hheader hwrote hclock.1 hclock.2
  · intro event hevent
    split at hevent
    · exact List.mem_singleton.1 hevent
    · cases hevent

end Volume

end SectorStore
