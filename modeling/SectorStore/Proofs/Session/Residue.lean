import SectorStore.Proofs.Session.Alike
import SectorStore.Proofs.Session.Ledger
import SectorStore.Proofs.Session.Safety

/-!
# Nothing of older data is seen

A disk is laid out on two devices, whatever they hold, and a list of requests is carried out on
each. If the requests are permitted on the one device (`PermitsAll`), then they have the same
answers on the other, and the session is the same afterwards. On both devices all that was not
written in a file since it was made is zero (`ReadsZero`). So neither what was on a device before,
nor what removed files have left in its sectors, nor what is behind the ends of files is ever seen
(`residue_unobservable`).

The invariant of such a run is `AlikeOnDevices`. It holds of a disk that was laid out just now
(`exists_format`), and is kept by each request whose sums fit (`AlikeOnDevices.exists_perform`).
Where a sum does not fit, both runs end with that (`AlikeOnDevices.overflows`).
-/

namespace SectorStore

/-! ## Runs on one device -/

section Runs

variable {δ : Type} [BlockDevice δ]

/-- Each request is permitted when its turn comes, and is allowed by what was written until then. -/
def Session.PermitsAll (session : Session) (device : δ) (ledger : Ledger) : List Request → Prop
  | [] => True
  | request :: others =>
    session.Permits (fun _ => True) request ∧ ledger.Allows session request ∧
      ∀ answer session' device',
        (session.perform request).run device = (.ok (answer, session'), device') →
        session'.PermitsAll device' (ledger.after session request answer session') others

/-- The sums of each request fit when its turn comes. -/
def Session.SumsFitAll (session : Session) (device : δ) : List Request → Prop
  | [] => True
  | request :: others =>
    session.SumsFit request ∧ ∀ answer session' device',
      (session.perform request).run device = (.ok (answer, session'), device') →
      session'.SumsFitAll device' others

/-- The request stays on the volume, removes no file of it, and is not about pipes. -/
def Request.LeavesFiles : Request → Prop
  | .format .. | .mount .. | .remove .. | .makePipe .. | .stepPipe .. | .readWaiting ..
  | .writeWaiting .. | .dropPipe _ => False
  | _ => True

/-- The ledger after a list of requests. -/
def Ledger.afterAll (ledger : Ledger) (session : Session) (device : δ) : List Request → Ledger
  | [] => ledger
  | request :: others =>
    match (session.perform request).run device with
    | (.ok (answer, session'), device') =>
      (ledger.after session request answer session').afterAll session' device' others
    | (.error _, _) => ledger

/-- All positions of a file are read as zero that are not in the ledger. -/
def Session.ReadsZero (session : Session) (device : δ) (ledger : Ledger) : Prop :=
  ∀ file : OpenFile, session.HasFile file.headerSector → ∃ length,
    (file.length.run device).1 = .ok length ∧
    ∀ offset buffer, offset + buffer.length < sumLimit → ∃ filling,
      ((file.readAt offset buffer).run device).1 = .ok filling ∧
      filling.count = min buffer.length (length - offset) ∧
      ∀ k < filling.count, ¬ ledger.written file.headerSector (offset + k) →
        filling.buffer.getD k 0 = 0

variable {session session' : Session} {ledger : Ledger} {device device' : δ} {request : Request}
  {requests : List Request} {answer : Answer} {answers : List Answer} {volume : Volume}
  {lost : List SectorId} {numSectors : Nat}

theorem Ledger.afterAll_cons
    (hrun : (session.perform request).run device = (.ok (answer, session'), device')) :
    ledger.afterAll session device (request :: requests) =
      (ledger.after session request answer session').afterAll session' device' requests := by
  rw [afterAll, hrun]

theorem Session.PermitsAll.take (h : session.PermitsAll device ledger requests) (step : Nat) :
    session.PermitsAll device ledger (requests.take step) := by
  induction requests generalizing session ledger device step with
  | nil => rwa [List.take_nil]
  | cons request requests ih =>
    cases step with
    | zero => trivial
    | succ step =>
      obtain ⟨hpermits, hallows, hothers⟩ := h
      exact ⟨hpermits, hallows, fun answer session' device' hrun =>
        ih (hothers answer session' device' hrun) step⟩

/-- As long as no file is removed, all open files can be used. -/
theorem Session.SoundOn.permitsAll [LawfulBlockDevice δ]
    (h : session.SoundOn device numSectors volume lost)
    (hlisted : ∀ slot, session.FileIsListed slot)
    (hleaves : ∀ request ∈ requests, request.LeavesFiles) :
    session.PermitsAll device ledger requests := by
  induction requests generalizing session device ledger volume lost with
  | nil => trivial
  | cons request requests ih =>
    obtain ⟨hrequest, hothers⟩ := List.forall_mem_cons.1 hleaves
    have hpermits : session.Permits (fun _ => True) request := by
      cases request <;> first | exact hrequest.elim | exact hlisted _ | trivial
    have hremoves : ∀ entry, ¬ session.Removes request entry := by
      cases request <;> first | exact hrequest.elim | exact fun _ => id
    have hallows : ledger.Allows session request := by
      cases request <;> first | exact hrequest.elim | trivial
    refine ⟨hpermits, hallows, fun answer session' device' hrun => ?_⟩
    obtain ⟨volume', lost', hadvanced, h'⟩ := h.exists_advanced hpermits hrun
    exact ih h' (fun slot => hadvanced.fileIsListed h.sound (hlisted slot)
      fun _ _ i _ => hremoves _) hothers

/-- What is at the front of a filled buffer was transferred. -/
theorem Filling.getD_front {buffer bytes : Bytes} {k : Nat} (hk : k < bytes.length) :
    (Filling.front buffer bytes).buffer.getD k 0 = bytes.getD k 0 := by
  rw [Filling.front, Bytes.getD_splice (Nat.zero_le _), if_neg (Nat.not_lt_zero k), Nat.sub_zero,
    if_pos hk]

/-- A ledger that fits a volume on one disk fits it wherever it is alike. -/
theorem Ledger.Fits.congr {left right : Disk} (h : ledger.Fits session volume left)
    (halike : volume.AlikeOn left right) : ledger.Fits session volume right where
  getD_eq i bytes hbytes := h.getD_eq i bytes (halike.contents?_eq i ▸ hbytes)
  holdsRing slot pipe hkeeps hpipe := by
    obtain ⟨hzero, i, bytes, hlists, hbytes, hlength⟩ := h.holdsRing slot pipe hkeeps hpipe
    exact ⟨hzero, i, bytes, hlists, (halike.contents?_eq i).trans hbytes, hlength⟩

/-- Files are read as the ledger says, if it fits their bytes. -/
theorem Ledger.Fits.readsZero [LawfulBlockDevice δ]
    (h : ledger.Fits session volume (Disk.image device numSectors))
    (hblocks : HasBlocks device numSectors)
    (hsound : session.Sound volume (Disk.image device numSectors) lost) :
    session.ReadsZero device ledger := by
  intro file hfile
  obtain ⟨i, hlists⟩ := (Ledger.hasFile_iff hsound.volumes_eq).1 hfile
  obtain ⟨bytes, hbytes⟩ := hsound.intact.exists_contents? hlists.1
  have hlength : file.length.Yields (Disk.image device numSectors) fun n _ => n = bytes.length :=
    (hsound.intact.yields_length hlists hbytes).2 rfl
  obtain ⟨_, device₁, hrun, -, rfl⟩ := hlength.exists_run hblocks
  refine ⟨_, congrArg Prod.fst hrun, fun offset buffer hsum => ?_⟩
  have hread : (file.readAt offset buffer).Yields (Disk.image device numSectors) fun filling _ =>
      filling = .front buffer (bytes.slice offset buffer.length) :=
    (hsound.intact.yields_readAt hlists hbytes hsum).2 rfl
  obtain ⟨_, device₂, hrun', -, rfl⟩ := hread.exists_run hblocks
  refine ⟨_, congrArg Prod.fst hrun', by simp [Filling.front, Bytes.slice], ?_⟩
  intro k hk hunlisted
  rw [Filling.getD_front hk]
  have hbuffer : k < buffer.length := by
    rw [Filling.front, Bytes.slice, List.length_take] at hk
    exact Nat.lt_of_lt_of_le hk (Nat.min_le_left _ _)
  calc (bytes.slice offset buffer.length).getD k 0
      = bytes.getD (offset + k) 0 := by
        simp only [Bytes.slice, List.getD_eq_getElem?_getD, List.getElem?_take_of_lt hbuffer,
          List.getElem?_drop]
    _ = 0 := h.getD_eq i bytes hbytes _ (hlists.2.symm ▸ hunlisted)

end Runs

/-! ## Runs on two devices -/

namespace Session

variable {δ ε : Type} [BlockDevice δ] [BlockDevice ε] {session session' : Session}
  {ledger : Ledger} {left : δ} {right : ε} {numSectors : Nat} {volume : Volume} {slot : Slot}
  {request : Request} {requests : List Request} {allowed : String → Prop}

/-- The session has no volume, or has one that is alike on both devices and fits the ledger. -/
structure AlikeOnDevices (session : Session) (ledger : Ledger) (left : δ) (right : ε)
    (numSectors : Nat) : Prop where
  /-- The one device has the blocks of the volume. -/
  hasBlocks_left : HasBlocks left numSectors
  /-- The other device has the blocks of the volume. -/
  hasBlocks_right : HasBlocks right numSectors
  /-- The pipes have head and tail in their rings. -/
  allHave_inRing : session.AllHave (fun _ => True) Pipe.InRing
  /-- A disk that could not be laid out leaves a session without a volume. -/
  volume_cases : session.volumes = #[] ∨ session.Numbered ∧ ∃ volume,
    session.AlikeOn volume (Disk.image left numSectors) (Disk.image right numSectors) ∧
      ledger.Fits session volume (Disk.image left numSectors)

/-- A session without a volume does nothing. -/
theorem exists_perform_eq_pure (hvolumes : session.volumes = #[])
    (hpermits : session.Permits allowed request) : ∃ answer session',
      session.perform request = pure (answer, session') ∧ session'.volumes = #[] := by
  -- every request goes through `onVolume`, `onFile` or `onPipe`, and each of them finds nothing
  have hnone : ∀ number : Nat, session.volumes[number]? = none := by
    intro number
    rw [hvolumes, Array.getElem?_empty]
  have hvolume : ∀ slot act, session.onVolume slot act = pure (.noVolume, session) := by
    intro slot act
    rw [onVolume, volumeIn?]
    cases session.mounted[slot]? with
    | none => rfl
    | some number => simp only [hnone, Option.bind_eq_bind, Option.bind_some, Option.bind_none]
  have hfile : ∀ slot act, session.onFile slot act = pure (.noHandle, session) := by
    intro slot act
    rw [onFile, fileIn?]
    cases session.files[slot]? with
    | none => rfl
    | some file => simp only [hnone, Option.bind_eq_bind, Option.bind_some, Option.bind_none]
  have hpipe : ∀ slot act, session.onPipe slot act = pure (.noHandle, session) := by
    intro slot act
    rw [onPipe, pipeIn?]
    cases session.pipes[slot]? with
    | none => rfl
    | some pipe => simp only [hnone, Option.bind_eq_bind, Option.bind_some, Option.bind_none]
  cases request with
  | format slot numSectors => exact hpermits.elim
  | mount slot numSectors => exact hpermits.elim
  | unmount slot => exact ⟨_, _, rfl, hvolumes⟩
  | setClock | create | remove | names | listing | openFile | makePipe =>
    exact ⟨_, _, hvolume _ _, hvolumes⟩
  | readAt | read | writeAt | write | seek | close | length | headerSector | header =>
    exact ⟨_, _, hfile _ _, hvolumes⟩
  | stepPipe | readWaiting | writeWaiting | dropPipe => exact ⟨_, _, hpipe _ _, hvolumes⟩

/-- A list of requests ends where one of its requests meets a fault. -/
theorem run_performAll_of_fault {cause : Fault} {answer : Answer} {left₁ left' : δ}
    (hrun : (session.perform request).run left = (.ok (answer, session'), left₁))
    (hrest : (session'.performAll requests).run left₁ = (.error cause, left')) :
    (session.performAll (request :: requests)).run left = (.error cause, left') := by
  rw [performAll, Transfer.run_bind, hrun]
  simp only [Transfer.run_bind, hrest]

variable [LawfulBlockDevice δ] [LawfulBlockDevice ε]

namespace AlikeOnDevices

/-- A permitted request whose sums fit has the same answer on both devices, and keeps the
invariant. -/
theorem exists_perform (h : session.AlikeOnDevices ledger left right numSectors)
    (hpermits : session.Permits (fun _ => True) request) (hsums : session.SumsFit request)
    (hallows : ledger.Allows session request) : ∃ answer session' left' right',
      (session.perform request).run left = (.ok (answer, session'), left') ∧
      (session.perform request).run right = (.ok (answer, session'), right') ∧
      session'.AlikeOnDevices (ledger.after session request answer session') left' right'
        numSectors := by
  -- before the disk is laid out there is no volume, and both runs do nothing
  rcases h.volume_cases with hvolumes | ⟨hnumbered, volume, halike, hfits⟩
  · obtain ⟨answer, session', heq, hvolumes'⟩ := exists_perform_eq_pure hvolumes hpermits
    have hrun : (session.perform request).run left = (.ok (answer, session'), left) := by
      rw [heq, Transfer.run_pure]
    have hrun' : (session.perform request).run right = (.ok (answer, session'), right) := by
      rw [heq, Transfer.run_pure]
    exact ⟨answer, session', left, right, hrun, hrun', h.hasBlocks_left, h.hasBlocks_right,
      h.allHave_inRing.inRing_of_run hrun, .inl hvolumes'⟩
  obtain ⟨lost, hsound⟩ := halike.exists_sound_left
  obtain ⟨lost', hsound'⟩ := halike.exists_sound_right
  obtain ⟨⟨answer, session'⟩, left', right', hrun, hrun', hblocks, hblocks', ⟨volume', halike'⟩,
      ⟨volume₁, hvolumes₁, hfits'⟩, volume₂, lost₂, hadvanced⟩ :=
    ((halike.yieldsBoth_perform h.allHave_inRing hpermits hsums).and
      (hfits.yields_perform hsound hnumbered h.allHave_inRing hpermits hsums hallows)
      (hsound'.yields_perform h.allHave_inRing hpermits hsums)).exists_run
        h.hasBlocks_left h.hasBlocks_right
  obtain rfl := eq_of_volumes_eq halike'.volumes_eq hvolumes₁
  exact ⟨answer, session', left', right', hrun, hrun', hblocks, hblocks',
    h.allHave_inRing.inRing_of_run hrun, .inr ⟨hadvanced.numbered hnumbered, _, halike', hfits'⟩⟩

/-- A permitted request with a sum that does not fit ends with that on both devices. -/
theorem overflows (h : session.AlikeOnDevices ledger left right numSectors)
    (hpermits : session.Permits (fun _ => True) request) (hlarge : ¬ session.SumsFit request) :
    session.Overflows left request ∧ session.Overflows right request := by
  rcases h.volume_cases with hvolumes | ⟨-, volume, halike, -⟩
  · -- without a volume there is an answer, and so no sum that does not fit
    obtain ⟨answer, session', heq, -⟩ := exists_perform_eq_pure hvolumes hpermits
    have hrun : (session.perform request).run left = (.ok (answer, session'), left) := by
      rw [heq, Transfer.run_pure]
    exact absurd (sumsFit_of_run hrun) hlarge
  obtain ⟨lost, hsound⟩ := halike.exists_sound_left
  obtain ⟨lost', hsound'⟩ := halike.exists_sound_right
  exact ⟨hsound.overflows h.hasBlocks_left hpermits hlarge,
    hsound'.overflows h.hasBlocks_right hpermits hlarge⟩

/-- Permitted requests one after another have the same outcome on both devices, and keep the
invariant unless a sum does not fit. -/
theorem exists_performAll (h : session.AlikeOnDevices ledger left right numSectors)
    (hpermits : session.PermitsAll left ledger requests) : ∃ outcome left' right',
      (session.performAll requests).run left = (outcome, left') ∧
      (session.performAll requests).run right = (outcome, right') ∧
      ((∃ answers session', outcome = .ok (answers, session') ∧ session'.AlikeOnDevices
          (ledger.afterAll session left requests) left' right' numSectors) ∨
        outcome = .error .sumTooLarge ∧ ¬ session.SumsFitAll left requests) := by
  induction requests generalizing session ledger left right with
  | nil => exact ⟨_, left, right, rfl, rfl, .inl ⟨[], session, rfl, h⟩⟩
  | cons request requests ih =>
    obtain ⟨hpermits, hallows, hothers⟩ := hpermits
    by_cases hfits : session.SumsFit request
    · obtain ⟨answer, session₁, left₁, right₁, hrun, hrun', h₁⟩ :=
        h.exists_perform hpermits hfits hallows
      obtain ⟨outcome, left', right', hrest, hrest', houtcome⟩ :=
        ih h₁ (hothers answer session₁ left₁ hrun)
      rcases houtcome with ⟨answers, session', rfl, h'⟩ | ⟨rfl, hlarge⟩
      · rw [← Ledger.afterAll_cons hrun] at h'
        exact ⟨_, left', right', run_performAll_of_run hrun hrest,
          run_performAll_of_run hrun' hrest', .inl ⟨_, _, rfl, h'⟩⟩
      · exact ⟨_, left', right', run_performAll_of_fault hrun hrest,
          run_performAll_of_fault hrun' hrest',
          .inr ⟨rfl, fun hall => hlarge (hall.2 answer session₁ left₁ hrun)⟩⟩
    · obtain ⟨⟨-, hrun⟩, -, hrun'⟩ := h.overflows hpermits hfits
      refine ⟨.error .sumTooLarge, left, right, ?_, ?_, .inr ⟨rfl, fun hall => hfits hall.1⟩⟩
      · rw [performAll, Transfer.run_bind, hrun]
      · rw [performAll, Transfer.run_bind, hrun']

/-- What is read is zero on both devices, but for what the ledger lists. -/
theorem readsZero (h : session.AlikeOnDevices ledger left right numSectors) :
    session.ReadsZero left ledger ∧ session.ReadsZero right ledger := by
  rcases h.volume_cases with hvolumes | ⟨-, volume, halike, hfits⟩
  · have hnone : ∀ sector, ¬ session.HasFile sector := by
      rintro sector ⟨volume, hmem, -⟩
      rw [hvolumes] at hmem
      exact Array.not_mem_empty volume hmem
    exact ⟨fun file hfile => absurd hfile (hnone _), fun file hfile => absurd hfile (hnone _)⟩
  · obtain ⟨lost, hsound⟩ := halike.exists_sound_left
    obtain ⟨lost', hsound'⟩ := halike.exists_sound_right
    exact ⟨hfits.readsZero h.hasBlocks_left hsound,
      (hfits.congr halike.alike).readsZero h.hasBlocks_right hsound'⟩

end AlikeOnDevices

/-! ## Laying out the disk -/

/-- A volume that was laid out just now has no files, and fits any ledger. -/
theorem fits_of_formatted {disk : Disk} (hformatted : Volume.Formatted numSectors volume disk) :
    ledger.Fits (start.addVolume slot volume) volume disk where
  getD_eq i bytes hbytes := by
    have hused := Ledger.isUnused_eq_of_contents? hbytes
    rw [hformatted.directory_eq, Directory.entry_empty] at hused
    cases hused
  holdsRing _ _ _ hpipe := absurd hpipe getElem?_empty_slot

theorem yieldsBoth_perform_format {left right : Disk} (hleft : numSectors ≤ left.count)
    (hright : numSectors ≤ right.count) (hheaders : 2 ≤ numSectors) :
    (start.perform (.format slot numSectors)).YieldsBoth left right fun answer left' right' =>
      answer.2.volumes = #[] ∨ ∃ volume, answer.2 = start.addVolume slot volume ∧
        answer.2.AlikeOn volume left' right' ∧ Volume.Formatted numSectors volume left' := by
  have hformat := ((Volume.AlikeOn.yieldsBoth_format hleft hright hheaders).and
    (Volume.yields_format hleft hheaders) (Volume.yields_format hright hheaders))
  rw [perform]
  refine hformat.bind ?_
  rcases hrefusal : Volume.formatRefusal? numSectors with _ | cause
  · rintro _ left' right' ⟨⟨volume, rfl, halike⟩, ⟨_, ⟨⟩, hformatted⟩, _, ⟨⟩, hformatted'⟩
    exact Transfer.yieldsBoth_pure.2 (.inr ⟨volume, rfl,
      ⟨rfl, halike, hformatted.flushed, hformatted'.flushed⟩, hformatted⟩)
  · rintro _ left' right' ⟨rfl, -, -⟩
    exact Transfer.yieldsBoth_pure.2 (.inl rfl)

/-- Laying out the disk has the same outcome on both devices. -/
theorem exists_format (slot : Slot) (hleft : HasBlocks left numSectors)
    (hright : HasBlocks right numSectors) (hheaders : 2 ≤ numSectors) :
    ∃ answer session left' right',
      (start.perform (.format slot numSectors)).run left = (.ok (answer, session), left') ∧
      (start.perform (.format slot numSectors)).run right = (.ok (answer, session), right') ∧
      session.AlikeOnDevices (Ledger.blank.after start (.format slot numSectors) answer session)
        left' right' numSectors := by
  have hcount : numSectors ≤ (Disk.image left numSectors).count := Nat.le_refl _
  have hcount' : numSectors ≤ (Disk.image right numSectors).count := Nat.le_refl _
  obtain ⟨⟨answer, session⟩, left', right', hrun, hrun', hblocks, hblocks', hpost⟩ :=
    (yieldsBoth_perform_format hcount hcount' hheaders).exists_run hleft hright
  refine ⟨answer, session, left', right', hrun, hrun', hblocks, hblocks',
    AllHave.start.inRing_of_run hrun, hpost.imp_right ?_⟩
  rintro ⟨volume, rfl, halike, hformatted⟩
  exact ⟨(soundOn_format hblocks hformatted).numbered, volume, halike, fits_of_formatted hformatted⟩

/-- Laying out the disk writes no file. -/
theorem after_format (answer : Answer) (session : Session) :
    Ledger.blank.after start (.format slot numSectors) answer session = .blank := by
  have hwritten : ∀ sector position, ¬ (Ledger.blank.after start (.format slot numSectors) answer
      session).written sector position := fun _ _ h => h.elim And.right id
  have hkeeps : ∀ slot', ¬ (Ledger.blank.after start (.format slot numSectors) answer
      session).keepsFile slot' := fun _ h => h.1.elim id id
  rw [Ledger.mk.injEq]
  exact ⟨funext₂ fun sector position => eq_false (hwritten sector position),
    funext fun slot' => eq_false (hkeeps slot')⟩

/-- Whatever two devices hold: if a disk is laid out on them and then the same requests are carried
out, which are permitted on the one, then after each of them all answers and the session are the
same on both, and so is the number of free sectors. On both every position of a file is read as zero
that was not written since the file was made. Where there is room for the headers of the tables,
both runs go through, unless a sum does not fit. -/
theorem residue_unobservable (hleft : HasBlocks left numSectors)
    (hright : HasBlocks right numSectors)
    (hpermits : ∀ answer session left',
      (start.perform (.format slot numSectors)).run left = (.ok (answer, session), left') →
      session.PermitsAll left' .blank requests) (step : Nat) :
    let done := .format slot numSectors :: requests.take step
    let ledger := Ledger.blank.afterAll start left done
    ∃ outcome left' right',
      (start.performAll done).run left = (outcome, left') ∧
      (start.performAll done).run right = (outcome, right') ∧
      (2 ≤ numSectors → (∃ answers session, outcome = .ok (answers, session)) ∨
        outcome = .error .sumTooLarge ∧ ¬ start.SumsFitAll left done) ∧
      ∀ answers session, outcome = .ok (answers, session) →
        session.ReadsZero left' ledger ∧ session.ReadsZero right' ledger := by
  intro done ledger
  -- without room for the headers of the two tables, both runs are refused alike
  rcases Nat.lt_or_ge numSectors 2 with hlt | hheaders
  · refine ⟨.error (.outOfBitmapRange numSectors), left, right, ?_, ?_, ?_, ?_⟩
    · rw [performAll, Transfer.run_bind, perform, Transfer.run_bind,
        Volume.run_format_of_lt left hlt]
    · rw [performAll, Transfer.run_bind, perform, Transfer.run_bind,
        Volume.run_format_of_lt right hlt]
    · exact fun hle => absurd hle (Nat.not_le_of_lt hlt)
    · rintro _ _ ⟨⟩
  obtain ⟨answer, session₁, left₁, right₁, hrun, hrun', h₁⟩ :=
    exists_format slot hleft hright hheaders
  rw [after_format] at h₁
  obtain ⟨outcome, left', right', hrest, hrest', houtcome⟩ :=
    h₁.exists_performAll ((hpermits answer session₁ left₁ hrun).take step)
  have hledger : ledger = Ledger.blank.afterAll session₁ left₁ (requests.take step) :=
    (Ledger.afterAll_cons hrun).trans (by rw [after_format])
  rcases houtcome with ⟨answers, session', rfl, h'⟩ | ⟨rfl, hlarge⟩
  · refine ⟨.ok (answer :: answers, session'), left', right', run_performAll_of_run hrun hrest,
      run_performAll_of_run hrun' hrest', fun _ => .inl ⟨_, _, rfl⟩, ?_⟩
    rintro _ _ ⟨⟩
    rw [hledger]
    exact h'.readsZero
  · refine ⟨_, left', right', run_performAll_of_fault hrun hrest,
      run_performAll_of_fault hrun' hrest',
      fun _ => .inr ⟨rfl, fun hall => hlarge (hall.2 answer session₁ left₁ hrun)⟩, ?_⟩
    rintro _ _ ⟨⟩

/-- A memory disk of zeros and one that is full of sevens, on which bytes are written behind the end
of a file. -/
theorem residue_unobservable_of_write :
    let sevens : RamDisk sectorSize := ⟨20, .ofList ((List.range 20).map fun block =>
      (block, Vector.replicate sectorSize (7 : UInt8)))⟩
    let requests : List Request := [.format 0 20, .create 0 "a" 200, .openFile 0 0 "a",
      .writeAt 0 700 [1], .length 0]
    let ledger := Ledger.blank.afterAll start (RamDisk.zeroed 20 sectorSize) requests
    ∃ session left' right',
      (start.performAll requests).run (RamDisk.zeroed 20 sectorSize) =
        (.ok ([.done, .done, .done, .count 1, .count 701], session), left') ∧
      (start.performAll requests).run sevens =
        (.ok ([.done, .done, .done, .count 1, .count 701], session), right') ∧
      session.ReadsZero left' ledger ∧ session.ReadsZero right' ledger := by
  intro sevens requests ledger
  have hanswers : answers? ((start.performAll requests).run (RamDisk.zeroed 20 sectorSize)) =
      some [.done, .done, .done, .count 1, .count 701] := by decide +kernel
  obtain ⟨session, left', hrun⟩ := exists_of_answers? hanswers
  have hblocks : HasBlocks (RamDisk.zeroed 20 sectorSize) 20 := RamDisk.hasBlocks _
  have hblocks' : HasBlocks sevens 20 := RamDisk.hasBlocks _
  have hpermits : ∀ answer session left',
      (start.perform (.format 0 20)).run (RamDisk.zeroed 20 sectorSize) =
        (.ok (answer, session), left') →
      session.PermitsAll left' .blank requests.tail := by
    intro answer session left' hformat
    obtain ⟨session₁, left₁, hformat₁, -⟩ := run_performAll_cons hrun
    obtain ⟨⟩ := hformat.symm.trans hformat₁
    obtain ⟨hblocks₁, volume, rfl, hformatted⟩ := formatted_of_run hblocks hformat
    have hsound : (start.addVolume 0 volume).SoundOn left' 20 volume [] :=
      soundOn_format hblocks₁ hformatted
    have hlisted : ∀ slot, (start.addVolume 0 volume).FileIsListed slot := fun slot =>
      hsound.sound.fileIsListed_iff.2 fun _ hfile => absurd hfile getElem?_empty_slot
    exact hsound.permitsAll hlisted (by simp [requests, Request.LeavesFiles])
  obtain ⟨outcome, left₁, right', hleft, hright, -, hzero⟩ :=
    residue_unobservable hblocks hblocks' hpermits 4
  obtain ⟨rfl, rfl⟩ := Prod.mk.inj (hrun.symm.trans hleft)
  exact ⟨session, left', right', hrun, hright, hzero _ session rfl⟩

end Session

end SectorStore
