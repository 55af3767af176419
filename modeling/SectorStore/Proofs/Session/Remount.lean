import SectorStore.Proofs.Session.Reachable
import SectorStore.Proofs.Volume.Reading

/-!
# Taking up a disk again

In every state that a session can reach, the device holds all that there is to a volume but its
clock: taking up the device at that moment gives the volume back (`SoundOn.run_mount`). So a volume
can be replaced by what is found on the device at any moment (`SoundOn.run_remount`), and no later
run can tell.
-/

namespace SectorStore.Session

/-- Takes up the disk under a volume again, as one of `numSectors` sectors, and puts what is found
there in the place of the volume, with the volume's clock. -/
def remount (session : Session) (number numSectors : Nat) : Transfer Session :=
  match session.volumes[number]? with
  | none => return session
  | some volume => do
    let remounted ← Volume.mount numSectors
    return session.setVolume number (remounted.withClock volume.clock)

variable {δ : Type} [BlockDevice δ] [LawfulBlockDevice δ] {numSectors : Nat} {device : δ}
  {session : Session} {volume : Volume} {lost : List SectorId}

/-- Taking up the device gives the volume back as far as the device tells, and writes nothing. -/
theorem WideOn.run_mount (h : session.WideOn device numSectors volume lost) :
    (Volume.mount numSectors).run device = (.ok volume.stored, device) := by
  have hmount : (Volume.mount volume.freeMap.size).Yields (Disk.image device numSectors)
      fun remounted _ => remounted = volume.stored :=
    (h.sound.intact.yields_mount_stored h.sound.flushed).2 rfl
  rw [h.size_eq] at hmount
  exact (Volume.onlyReads_mount numSectors).run_eq h.hasBlocks hmount

namespace SoundOn

/-- If all marks are on the device, taking it up gives the volume back, with a silent clock. -/
theorem run_mount (h : session.SoundOn device numSectors volume lost) :
    (Volume.mount numSectors).run device = (.ok (volume.withClock .silent), device) := by
  rw [h.toWideOn.run_mount, Volume.stored_eq_iff.2]
  intro n hn
  rw [h.freeMapFile_length, ← h.size_eq]
  exact FreeMap.lt_bytesFor hn

/-- Taking up the device in the place of the volume changes nothing at all. -/
theorem run_remount (h : session.SoundOn device numSectors volume lost) :
    (session.remount 0 numSectors).run device = (.ok session, device) := by
  have hsame :
      session.setVolume 0 ((volume.withClock .silent).withClock volume.clock) = session := by
    rw [setVolume, h.sound.volumes_eq]
    show { session with volumes := #[volume] } = session
    rw [← h.sound.volumes_eq]
  rw [remount, h.sound.getElem?_volumes, if_pos rfl]
  simp only [Transfer.run_bind, h.run_mount, hsame, Transfer.run_pure]

end SoundOn

/-- Taking up the device of a reachable session gives a volume with the same free map, the same
directory and the same headers of the tables. If it takes the place of the volume, with the same
clock, every list of requests has the same answers and leaves the same device. -/
theorem Reachable.remount_unobservable (h : Reachable (fun _ => True) numSectors device session) :
    ∃ volume remounted, session.volumes = #[volume] ∧
      (Volume.mount numSectors).run device = (.ok remounted, device) ∧
      remounted.freeMap = volume.freeMap ∧ remounted.directory = volume.directory ∧
      remounted.freeMapFile = volume.freeMapFile ∧
      remounted.directoryFile = volume.directoryFile ∧
      ∀ requests, (session.remount 0 numSectors >>= (·.performAll requests)).run device =
        (session.performAll requests).run device := by
  obtain ⟨volume, lost, hsound, -⟩ := h.exists_soundOn
  refine ⟨volume, _, hsound.sound.volumes_eq, hsound.run_mount, rfl, rfl, rfl, rfl, ?_⟩
  intro requests
  rw [Transfer.run_bind, hsound.run_remount]

/-- A memory disk of 20 blocks on which a file with a zero byte in its name was made. -/
theorem Reachable.remount_unobservable_of_create :
    ∃ (session : Session) (device : RamDisk sectorSize),
      (start.performAll [.format 0 20, .create 0 "a\x00b" 200]).run
        (RamDisk.zeroed 20 sectorSize) = (.ok ([.done, .done], session), device) ∧
      ∃ volume remounted, session.volumes = #[volume] ∧
        (Volume.mount 20).run device = (.ok remounted, device) ∧
        remounted.freeMap = volume.freeMap ∧ remounted.directory = volume.directory := by
  have hanswers : answers? ((start.performAll [.format 0 20, .create 0 "a\x00b" 200]).run
      (RamDisk.zeroed 20 sectorSize)) = some [.done, .done] := by decide +kernel
  obtain ⟨session, device, hrun⟩ := exists_of_answers? hanswers
  obtain ⟨session₁, device₁, hformat, hrest⟩ := run_performAll_cons hrun
  obtain ⟨session₂, device₂, hcreate, hrest⟩ := run_performAll_cons hrest
  obtain ⟨-, rfl, rfl⟩ := run_performAll_nil hrest
  have hblocks : HasBlocks (RamDisk.zeroed 20 sectorSize) 20 := RamDisk.hasBlocks _
  have hpermits : session₁.Permits (fun _ => True) (.create 0 "a\x00b" 200) := trivial
  obtain ⟨volume, remounted, hvolumes, hmount, hmap, hdirectory, -⟩ :=
    Reachable.remount_unobservable ((Reachable.format hblocks hformat).perform hpermits hcreate)
  exact ⟨_, _, hrun, volume, remounted, hvolumes, hmount, hmap, hdirectory⟩

end SectorStore.Session
