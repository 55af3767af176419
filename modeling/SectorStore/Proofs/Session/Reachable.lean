import SectorStore.Proofs.Session.Steps
import SectorStore.Proofs.Volume.Format

/-!
# Reachable sessions

`Reachable allowed numSectors device session` says that a device and a session have come of laying
out a disk of `numSectors` sectors and of any number of requests that the session permitted, where
files were made under `allowed` names only. In such a session every permitted request runs through
unless a sum does not fit (`Reachable.run_cases`), and the volume and the device belong together
(`Reachable.exists_soundOn`).
-/

namespace SectorStore.Session

section Soundness

variable {δ : Type} [BlockDevice δ]

/-- The session and the device come of laying out a disk and of permitted requests afterwards. -/
inductive Reachable (allowed : String → Prop) (numSectors : Nat) : δ → Session → Prop
  /-- The disk was laid out just now. -/
  | format {device device' : δ} {slot : Slot} {session : Session}
      (hblocks : HasBlocks device numSectors)
      (hrun : (start.perform (.format slot numSectors)).run device =
        (.ok (.done, session), device')) :
      Reachable allowed numSectors device' session
  /-- A permitted request was carried out. -/
  | perform {device device' : δ} {session session' : Session} {request : Request} {answer : Answer}
      (h : Reachable allowed numSectors device session)
      (hpermits : session.Permits allowed request)
      (hrun : (session.perform request).run device = (.ok (answer, session'), device')) :
      Reachable allowed numSectors device' session'

/-- The session is sound on what the device shows, perhaps with more sectors than there is room for
in the file of the free map. -/
structure WideOn (session : Session) (device : δ) (numSectors : Nat) (volume : Volume)
    (lost : List SectorId) : Prop where
  /-- The device has the blocks of the volume. -/
  hasBlocks : HasBlocks device numSectors
  /-- The volume and the device belong together. -/
  sound : session.Sound volume (Disk.image device numSectors) lost
  /-- The volume has as many sectors as were asked for. -/
  size_eq : volume.freeMap.size = numSectors
  /-- The pipes have names of their own. -/
  numbered : session.Numbered
  /-- The pipes keep to their rings. -/
  rings : session.AllHave (fun _ => True) Pipe.InRing

/-- The session is sound on what the device shows, and the free map fills its file. -/
structure SoundOn (session : Session) (device : δ) (numSectors : Nat) (volume : Volume)
    (lost : List SectorId) : Prop extends session.WideOn device numSectors volume lost where
  /-- There is room for all marks. -/
  freeMapFile_length : volume.freeMapFile.length = FreeMap.bytesFor numSectors

variable [LawfulBlockDevice δ] {device device' : δ} {session session' : Session}
  {allowed : String → Prop} {numSectors : Nat} {volume : Volume} {lost : List SectorId}
  {request : Request} {answer : Answer} {slot : Slot}

/-! ## Laying out a disk -/

theorem yields_perform_format {disk : Disk} (hcount : numSectors ≤ disk.count)
    (hheaders : 2 ≤ numSectors) :
    (start.perform (.format slot numSectors)).Yields disk fun answer disk' =>
      match Volume.formatRefusal? numSectors with
      | some cause => answer = (.refused cause, start)
      | none => ∃ volume, answer = (.done, start.addVolume slot volume) ∧
          Volume.Formatted numSectors volume disk' := by
  rw [perform]
  refine (Volume.yields_format hcount hheaders).bind ?_
  rintro (cause | volume) disk' houtcome
  · rcases hrefusal : Volume.formatRefusal? numSectors with _ | cause'
    · rw [hrefusal] at houtcome
      obtain ⟨volume, hcontra, -⟩ := houtcome
      cases hcontra
    · rw [hrefusal] at houtcome
      cases houtcome
      exact Transfer.yields_pure.2 rfl
  · rcases hrefusal : Volume.formatRefusal? numSectors with _ | cause'
    · rw [hrefusal] at houtcome
      obtain ⟨volume', hvolume, hformatted⟩ := houtcome
      cases hvolume
      exact Transfer.yields_pure.2 ⟨volume, rfl, hformatted⟩
    · rw [hrefusal] at houtcome
      cases houtcome

/-- A session whose first request laid out a disk has one volume, as laid out. -/
theorem formatted_of_run (hblocks : HasBlocks device numSectors)
    (hrun : (start.perform (.format slot numSectors)).run device =
      (.ok (.done, session), device')) :
    HasBlocks device' numSectors ∧ ∃ volume, session = start.addVolume slot volume ∧
      Volume.Formatted numSectors volume (Disk.image device' numSectors) := by
  rcases Nat.lt_or_ge numSectors 2 with hheaders | hheaders
  · rw [perform, Transfer.run_bind, Volume.run_format_of_lt device hheaders] at hrun
    cases hrun
  have hcount : numSectors ≤ (Disk.image device numSectors).count := Nat.le_refl _
  obtain ⟨hblocks', houtcome⟩ := (yields_perform_format hcount hheaders).of_run hblocks hrun
  refine ⟨hblocks', ?_⟩
  rcases hrefusal : Volume.formatRefusal? numSectors with _ | cause
  · rw [hrefusal] at houtcome
    obtain ⟨volume, hanswer, hformatted⟩ := houtcome
    exact ⟨volume, (Prod.mk.inj hanswer).2, hformatted⟩
  · rw [hrefusal] at houtcome
    cases houtcome

/-- At first there are no pipes. -/
theorem numbered_addVolume_start (slot : Slot) (volume : Volume) :
    (start.addVolume slot volume).Numbered :=
  ⟨fun _ _ hpipe => absurd hpipe getElem?_empty_slot,
    fun _ _ _ _ hpipe => absurd hpipe getElem?_empty_slot⟩

/-- Without pipes there is none that does not keep to its ring. -/
theorem allHave_inRing_addVolume_start (slot : Slot) (volume : Volume) :
    (start.addVolume slot volume).AllHave (fun _ => True) Pipe.InRing :=
  AllHave.start.addVolume slot trivial

omit [LawfulBlockDevice δ] in
/-- A session that has only laid out a disk is sound. -/
theorem soundOn_format (hblocks : HasBlocks device numSectors)
    (hformatted : Volume.Formatted numSectors volume (Disk.image device numSectors)) :
    (start.addVolume slot volume).SoundOn device numSectors volume [] where
  hasBlocks := hblocks
  sound := ⟨rfl, hformatted.intact, hformatted.flushed⟩
  size_eq := hformatted.size_eq
  numbered := numbered_addVolume_start slot volume
  rings := allHave_inRing_addVolume_start slot volume
  freeMapFile_length := hformatted.freeMapFile_length

/-! ## Requests -/

omit [LawfulBlockDevice δ] in
/-- A list of requests is carried out one after another. -/
theorem run_performAll_cons {requests : List Request} {answers : List Answer}
    (hrun : (session.performAll (request :: requests)).run device =
      (.ok (answer :: answers, session'), device')) :
    ∃ session₁ device₁, (session.perform request).run device = (.ok (answer, session₁), device₁) ∧
      (session₁.performAll requests).run device₁ = (.ok (answers, session'), device') := by
  rw [performAll, Transfer.run_bind] at hrun
  rcases hfirst : (session.perform request).run device with ⟨cause | ⟨answer₁, session₁⟩, device₁⟩
  · simp [hfirst] at hrun
  simp only [hfirst, Transfer.run_bind] at hrun
  rcases hrest : (session₁.performAll requests).run device₁ with
    ⟨cause | ⟨answers₂, session₂⟩, device₂⟩
  · simp [hrest] at hrun
  simp only [hrest, Transfer.run_pure, Prod.mk.injEq, Except.ok.injEq, List.cons.injEq] at hrun
  obtain ⟨⟨⟨rfl, rfl⟩, rfl⟩, rfl⟩ := hrun
  exact ⟨session₁, device₁, rfl, hrest⟩

omit [LawfulBlockDevice δ] in
theorem run_performAll_of_run {session₁ : Session} {device₁ : δ} {requests : List Request}
    {answers : List Answer}
    (hrun : (session.perform request).run device = (.ok (answer, session₁), device₁))
    (hrest : (session₁.performAll requests).run device₁ = (.ok (answers, session'), device')) :
    (session.performAll (request :: requests)).run device =
      (.ok (answer :: answers, session'), device') := by
  rw [performAll, Transfer.run_bind, hrun]
  simp only [Transfer.run_bind, hrest, Transfer.run_pure]

omit [LawfulBlockDevice δ] in
theorem run_performAll_nil {answers : List Answer}
    (hrun : (session.performAll []).run device = (.ok (answers, session'), device')) :
    answers = [] ∧ session' = session ∧ device' = device := by
  simp only [performAll, Transfer.run_pure, Prod.mk.injEq, Except.ok.injEq] at hrun
  obtain ⟨⟨rfl, rfl⟩, rfl⟩ := hrun
  exact ⟨rfl, rfl, rfl⟩

/-- The answers of a run that met no fault. -/
def answers? {σ : Type} (outcome : Except Fault (List Answer × Session) × σ) :
    Option (List Answer) :=
  outcome.1.toOption.map Prod.fst

theorem exists_of_answers? {σ : Type} {outcome : Except Fault (List Answer × Session) × σ}
    {answers : List Answer} (h : answers? outcome = some answers) :
    ∃ session device, outcome = (.ok (answers, session), device) := by
  obtain ⟨cause | ⟨answers', session⟩, device⟩ := outcome
  · cases h
  · cases h
    exact ⟨session, device, rfl⟩

namespace WideOn

/-- A permitted request whose sums fit runs through. -/
theorem exists_run (h : session.WideOn device numSectors volume lost)
    (hpermits : session.Permits allowed request) (hfits : session.SumsFit request) :
    ∃ answer session' device',
      (session.perform request).run device = (.ok (answer, session'), device') := by
  obtain ⟨⟨answer, session'⟩, device', hrun, -, -⟩ :=
    (h.sound.yields_perform h.rings hpermits hfits).exists_run h.hasBlocks
  exact ⟨answer, session', device', hrun⟩

/-- A permitted request runs through, or makes a sum that does not fit. -/
theorem run_cases (h : session.WideOn device numSectors volume lost)
    (hpermits : session.Permits allowed request) :
    (∃ answer session' device',
      (session.perform request).run device = (.ok (answer, session'), device')) ∨
    session.Overflows device request := by
  by_cases hfits : session.SumsFit request
  · exact .inl (h.exists_run hpermits hfits)
  · exact .inr (h.sound.overflows h.hasBlocks hpermits hfits)

/-- A permitted request leaves the session sound. -/
theorem exists_advanced (h : session.WideOn device numSectors volume lost)
    (hpermits : session.Permits allowed request)
    (hrun : (session.perform request).run device = (.ok (answer, session'), device')) :
    ∃ volume' lost', session.Advanced volume (Disk.image device numSectors) lost request session'
      volume' (Disk.image device' numSectors) lost' ∧
        session'.WideOn device' numSectors volume' lost' := by
  obtain ⟨hblocks', volume', lost', hadvanced⟩ :=
    (h.sound.yields_perform h.rings hpermits (sumsFit_of_run hrun)).of_run h.hasBlocks hrun
  exact ⟨volume', lost', hadvanced, hblocks', hadvanced.sound,
    hadvanced.evolves.size_eq.trans h.size_eq, hadvanced.numbered h.numbered,
    h.rings.inRing_of_run hrun⟩

end WideOn

/-- A permitted request leaves the free map in its file, so there is still room for all marks. -/
theorem SoundOn.exists_advanced (h : session.SoundOn device numSectors volume lost)
    (hpermits : session.Permits allowed request)
    (hrun : (session.perform request).run device = (.ok (answer, session'), device')) :
    ∃ volume' lost', session.Advanced volume (Disk.image device numSectors) lost request session'
      volume' (Disk.image device' numSectors) lost' ∧
        session'.SoundOn device' numSectors volume' lost' := by
  obtain ⟨volume', lost', hadvanced, hwide⟩ := h.toWideOn.exists_advanced hpermits hrun
  refine ⟨volume', lost', hadvanced, hwide, ?_⟩
  rw [hadvanced.evolves.freeMapFile_eq, h.freeMapFile_length]

/-- If allowed names have no zero byte, a permitted request makes no file under one that does. -/
theorem Permits.isPlain (h : session.Permits allowed request)
    (hallowed : ∀ name, allowed name → '\x00' ∉ name.toList) : request.IsPlain := by
  cases request with
  | create slot name size => exact hallowed name h
  | _ => trivial

namespace Reachable

/-- A reachable session is sound, and loses sectors only where names with zero bytes are allowed. -/
theorem exists_soundOn (h : Reachable allowed numSectors device session) :
    ∃ volume lost, session.SoundOn device numSectors volume lost ∧
      ((∀ name, allowed name → '\x00' ∉ name.toList) → lost = []) := by
  induction h with
  | format hblocks hrun =>
    obtain ⟨hblocks', volume, rfl, hformatted⟩ := formatted_of_run hblocks hrun
    exact ⟨volume, [], soundOn_format hblocks' hformatted, fun _ => rfl⟩
  | perform _ hpermits hrun ih =>
    obtain ⟨volume, lost, hsound, hlost⟩ := ih
    obtain ⟨volume', lost', hadvanced, hsound'⟩ := hsound.exists_advanced hpermits hrun
    refine ⟨volume', lost', hsound', fun hallowed => ?_⟩
    rw [hadvanced.lost_eq (hpermits.isPlain hallowed), hlost hallowed]

/-- In a reachable session every permitted request runs through, or makes a sum that does not
fit. -/
theorem run_cases (h : Reachable allowed numSectors device session)
    (hpermits : session.Permits allowed request) :
    (∃ answer session' device',
      (session.perform request).run device = (.ok (answer, session'), device')) ∨
    session.Overflows device request := by
  obtain ⟨volume, lost, hsound, -⟩ := h.exists_soundOn
  exact hsound.run_cases hpermits

end Reachable

end Soundness

end SectorStore.Session
