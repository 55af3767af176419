import SectorStore.Proofs.Pipe.Ring
import SectorStore.Proofs.Session.Current
import SectorStore.Proofs.Session.Remount

/-!
# Nothing faults

`Live numSectors device session` follows a session from laying out a disk on, through requests that
it permitted and through taking up the disk again, after which the requests are about the volume
that was taken up last. In such a session every request that comes next and whose sums fit runs
through (`Live.runsThrough`): no sector number leaves the free map or the device, no sector is given
back that is not taken, no header is found corrupted, no table is read outside its bounds. What the
store takes for granted without a check is so as well: sectors that were counted as free are there
to be taken, and the places that a pipe counts with are places of its ring.
-/

namespace SectorStore.Session

/-! ## Sessions that go on -/

section Liveness

variable {δ : Type} [BlockDevice δ]

/-- A device and a session that have come of laying out a disk, of permitted requests, and of taking
up the disk again as one of the same size, where each request was about the volume that was taken up
last. -/
inductive Live (numSectors : Nat) : δ → Session → Prop
  /-- The disk was laid out just now. -/
  | format {device device' : δ} {slot : Slot} {session : Session}
      (hblocks : HasBlocks device numSectors)
      (hrun : (start.perform (.format slot numSectors)).run device =
        (.ok (.done, session), device')) :
      Live numSectors device' session
  /-- The disk was taken up again. -/
  | mount {device device' : δ} {slot : Slot} {session session' : Session} {answer : Answer}
      (h : Live numSectors device session)
      (hrun : (session.perform (.mount slot numSectors)).run device =
        (.ok (answer, session'), device')) :
      Live numSectors device' session'
  /-- A permitted request was carried out. -/
  | perform {device device' : δ} {session session' : Session} {request : Request} {answer : Answer}
      (h : Live numSectors device session)
      (hpermits : session.Permits (fun _ => True) request)
      (huses : session.UsesLast request)
      (hrun : (session.perform request).run device = (.ok (answer, session'), device')) :
      Live numSectors device' session'

/-- Whatever is asked for next runs through, and what the store takes for granted is so. -/
structure RunsThrough (session : Session) (device : δ) (numSectors : Nat) : Prop where
  /-- A permitted request that is about the last volume and whose sums fit meets no fault. -/
  exists_perform : ∀ request, session.Permits (fun _ => True) request → session.UsesLast request →
    session.SumsFit request → ∃ answer session' device',
      (session.perform request).run device = (.ok (answer, session'), device')
  /-- The disk can be taken up again, which changes nothing on it. -/
  exists_mount : ∀ slot, ∃ session',
    (session.perform (.mount slot numSectors)).run device = (.ok (.done, session'), device)
  /-- Sectors that were counted as free are there to be taken. -/
  takeMany?_eq_none_iff : ∀ (map : FreeMap) (count : Nat), map.size = numSectors →
    (map.takeMany? count = none ↔ map.numFree < count)
  /-- No more sectors are taken than there are, so that the free ones can be counted. -/
  count_marks_le : ∀ volume ∈ session.volumes, volume.freeMap.marks.count true ≤ volume.freeMap.size
  /-- A pipe divides by no zero, and none of its counts falls below zero. -/
  inRing : ∀ (slot : Slot) (pipe : Attached Pipe), session.pipes[slot]? = some pipe →
    pipe.item.InRing ∧ pipe.item.count ≤ pipe.item.capacity

variable [LawfulBlockDevice δ] {numSectors : Nat} {device device' : δ}
  {session session' view : Session}
  {older : Array Volume} {volume : Volume} {lost : List SectorId} {slot : Slot} {request : Request}

/-- Taking up the disk again finds the volume, and leaves the older ones behind. -/
theorem SoundOn.exists_mount (h : view.SoundOn device numSectors volume lost)
    (hnarrows : session.Narrows older view volume) (slot : Slot) :
    ∃ session' older' view' volume',
      (session.perform (.mount slot numSectors)).run device = (.ok (.done, session'), device) ∧
      session'.Narrows older' view' volume' ∧ view'.SoundOn device numSectors volume' lost := by
  let volume' := volume.withClock .silent
  have hrun : (session.perform (.mount slot numSectors)).run device =
      (.ok (.done, session.addVolume slot volume'), device) := by
    simp only [perform, Transfer.run_bind, h.run_mount, Transfer.run_pure, volume']
  refine ⟨_, session.volumes, only slot volume' session.nextPipe, volume', hrun,
    hnarrows.addVolume slot volume', ?_⟩
  exact ⟨⟨h.hasBlocks, ⟨rfl, h.sound.intact.withClock .silent, h.sound.flushed.1,
    h.sound.flushed.2⟩, h.size_eq, ⟨fun _ _ hpipe => absurd hpipe getElem?_empty_slot,
    fun _ _ _ _ hpipe => absurd hpipe getElem?_empty_slot⟩,
    ⟨fun _ _ _ => trivial, fun _ _ hpipe => absurd hpipe getElem?_empty_slot⟩⟩,
    h.freeMapFile_length⟩

/-- A request on the last volume whose sums fit runs through, and what is left of the session
without the older volumes is sound again. -/
theorem SoundOn.exists_perform (h : view.SoundOn device numSectors volume lost)
    (hnarrows : session.Narrows older view volume)
    (hpermits : session.Permits (fun _ => True) request) (huses : session.UsesLast request)
    (hfits : session.SumsFit request) :
    ∃ answer session' device' view' volume' lost',
      (session.perform request).run device = (.ok (answer, session'), device') ∧
      session'.Narrows older view' volume' ∧ view'.SoundOn device' numSectors volume' lost' := by
  have hpermits' := hnarrows.permits hpermits
  obtain ⟨answer, view', device', hrun⟩ := h.exists_run hpermits' (hnarrows.sumsFit hfits)
  obtain ⟨volume', lost', -, hsound'⟩ := h.exists_advanced hpermits' hrun
  obtain ⟨⟨answer₁, session'⟩, hrun₁, -, volume₁, hnarrows'⟩ :=
    (hnarrows.related_perform hpermits huses).exists_run hrun
  obtain rfl := eq_of_volumes_eq hsound'.sound.volumes_eq hnarrows'.view_volumes_eq
  exact ⟨answer₁, session', device', view', volume', lost', hrun₁, hnarrows', hsound'⟩

namespace Live

/-- The invariant: without its older volumes a live session is sound. -/
theorem exists_soundOn (h : Live numSectors device session) :
    ∃ older view volume lost, session.Narrows older view volume ∧
      view.SoundOn device numSectors volume lost := by
  induction h with
  | format hblocks hrun =>
    obtain ⟨hblocks', volume, rfl, hformatted⟩ := formatted_of_run hblocks hrun
    exact ⟨#[], _, volume, [], .start _ volume, soundOn_format hblocks' hformatted⟩
  | mount _ hrun ih =>
    obtain ⟨older, view, volume, lost, hnarrows, hsound⟩ := ih
    obtain ⟨session₁, older', view', volume', hrun₁, hnarrows', hsound'⟩ :=
      hsound.exists_mount hnarrows _
    rw [hrun₁] at hrun
    cases hrun
    exact ⟨older', view', volume', lost, hnarrows', hsound'⟩
  | perform _ hpermits huses hrun ih =>
    obtain ⟨older, view, volume, lost, hnarrows, hsound⟩ := ih
    obtain ⟨answer₁, session₁, device₁, view', volume', lost', hrun₁, hnarrows', hsound'⟩ :=
      hsound.exists_perform hnarrows hpermits huses (sumsFit_of_run hrun)
    rw [hrun₁] at hrun
    cases hrun
    exact ⟨older, view', volume', lost', hnarrows', hsound'⟩

omit [LawfulBlockDevice δ] in
/-- The pipes of a live session have head and tail in their rings. -/
theorem allHave_inRing (h : Live numSectors device session) :
    session.AllHave (fun _ => True) Pipe.InRing := by
  induction h with
  | format _ hrun => exact AllHave.start.inRing_of_run hrun
  | mount _ hrun ih => exact ih.inRing_of_run hrun
  | perform _ _ _ hrun ih => exact ih.inRing_of_run hrun

/-- A live session meets no fault, whatever comes next. -/
theorem runsThrough (h : Live numSectors device session) :
    session.RunsThrough device numSectors := by
  obtain ⟨older, view, volume, lost, hnarrows, hsound⟩ := h.exists_soundOn
  constructor
  · intro request hpermits huses hfits
    obtain ⟨answer, session', device', -, -, -, hrun, -, -⟩ :=
      hsound.exists_perform hnarrows hpermits huses hfits
    exact ⟨answer, session', device', hrun⟩
  · intro slot
    obtain ⟨session', -, -, -, hrun, -, -⟩ := hsound.exists_mount hnarrows slot
    exact ⟨session', hrun⟩
  · intro map count hsize
    apply FreeMap.takeMany?_eq_none_iff
    rw [hsize, ← hsound.size_eq]
    exact hsound.sound.intact.size_le_pow
  · intro volume' _
    exact Nat.le_trans Array.count_le_size volume'.freeMap.size_marks_le
  · intro slot pipe hpipe
    have hring := h.allHave_inRing.pipe slot pipe hpipe
    exact ⟨hring, hring.count_le_capacity⟩

end Live

end Liveness

/-- A memory disk of 20 blocks that was taken up again after a file was made on it. -/
theorem Live.runsThrough_of_mount : ∃ (session : Session) (device : RamDisk sectorSize),
    (start.performAll [.format 0 20, .create 0 "a" 200, .mount 1 20]).run
      (RamDisk.zeroed 20 sectorSize) = (.ok ([.done, .done, .done], session), device) ∧
    session.RunsThrough device 20 := by
  have hanswers : answers? ((start.performAll [.format 0 20, .create 0 "a" 200, .mount 1 20]).run
      (RamDisk.zeroed 20 sectorSize)) = some [.done, .done, .done] := by decide +kernel
  obtain ⟨session, device, hrun⟩ := exists_of_answers? hanswers
  obtain ⟨session₁, device₁, hformat, hrest⟩ := run_performAll_cons hrun
  obtain ⟨session₂, device₂, hcreate, hrest⟩ := run_performAll_cons hrest
  obtain ⟨session₃, device₃, hmount, hrest⟩ := run_performAll_cons hrest
  obtain ⟨-, rfl, rfl⟩ := run_performAll_nil hrest
  have hblocks : HasBlocks (RamDisk.zeroed 20 sectorSize) 20 := RamDisk.hasBlocks _
  have hpermits : session₁.Permits (fun _ => True) (.create 0 "a" 200) := trivial
  have huses : session₁.UsesLast (.create 0 "a" 200) := by
    obtain ⟨-, volume, rfl, -⟩ := formatted_of_run hblocks hformat
    refine ⟨?_, nofun, nofun⟩
    rintro slot number ⟨⟩ hmounted
    rw [show (start.addVolume 0 volume).mounted[0]? = some 0 by
      exact (getElem?_insert_slot _ 0 0 0).trans (if_pos rfl), Option.some.injEq] at hmounted
    exact hmounted ▸ rfl
  have hlive := ((Live.format hblocks hformat).perform hpermits huses hcreate).mount hmount
  exact ⟨session, device, hrun, hlive.runsThrough⟩

end SectorStore.Session
