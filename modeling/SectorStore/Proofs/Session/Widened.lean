import SectorStore.Proofs.Session.Ownership
import SectorStore.Proofs.Session.Remount
import SectorStore.Proofs.Volume.Widening

/-!
# Taking up a disk with more sectors than it was laid out with

`Widened allowed narrow wide device session` follows a session on a disk that was laid out with
`narrow` sectors and taken up with `wide` sectors. All goes well while the volume is at hand. But
the file of the free map has room for the marks of `8 * FreeMap.bytesFor narrow` sectors only, and
what does not fit is dropped without a word whenever the tables are written. So taking up the disk
once more gives the same volume exactly as long as no sector behind these is taken, and from then on
such sectors are free, whatever file they belong to (`Widened.remount_exact`). A new file gets them,
and they are overwritten (`widened_loses_bytes`).
-/

namespace SectorStore

/-- What is found of a volume on its disk, where there is room for `marks` marks. -/
structure Volume.FoundAs (volume : Volume) (disk : Disk) (marks : Nat) (found : Volume) : Prop where
  /-- The directory and the headers of the tables are the same. -/
  fields_eq : found = { volume.withClock .silent with freeMap := found.freeMap }
  /-- A sector is taken if it was and its mark had room. -/
  mem_iff : ∀ n, n ∈ found.freeMap ↔ n ∈ volume.freeMap ∧ n < marks
  /-- The free map is the same exactly if there was room for the marks of all taken sectors. -/
  freeMap_eq_iff : found.freeMap = volume.freeMap ↔ ∀ n ∈ volume.freeMap, n < marks
  /-- The sectors of the tables and of the files were taken, but those behind are free now. -/
  owned_mem_iff : ∀ s ∈ volume.ownedSectors disk,
    s.toNat ∈ volume.freeMap ∧ (s.toNat ∈ found.freeMap ↔ s.toNat < marks)

theorem Volume.Intact.foundAs_stored {volume : Volume} {disk : Disk} {lost : List SectorId}
    (h : volume.Intact disk lost) :
    volume.FoundAs disk (8 * volume.freeMapFile.length) volume.stored where
  fields_eq := rfl
  mem_iff _ := mem_freeMap_stored
  freeMap_eq_iff := by
    rw [← stored_eq_iff]
    refine ⟨fun hmap => ?_, fun hsame => by rw [hsame]; rfl⟩
    show { volume.withClock .silent with freeMap := volume.stored.freeMap } =
      volume.withClock .silent
    rw [hmap]
    rfl
  owned_mem_iff s hs := by
    have hmem := h.mem_of_mem_ownedSectors hs
    exact ⟨hmem, mem_freeMap_stored.trans ⟨And.right, fun hlt => ⟨hmem, hlt⟩⟩⟩

namespace Session

section Runs

variable {δ : Type} [BlockDevice δ]

/-- A device and a session that come of laying out a disk of `narrow` sectors and of permitted
requests, of taking up the disk with `wide` sectors, which all have numbers of 32 bits, and of
permitted requests afterwards. The disk was perhaps taken up anew in between, as long as there was
room for the marks of all taken sectors. -/
inductive Widened (allowed : String → Prop) (narrow wide : Nat) : δ → Session → Prop
  /-- The disk was taken up with more sectors just now. -/
  | mount {device device' : δ} {session session' : Session} {slot : Slot} {answer : Answer}
      (h : Reachable allowed narrow device session) (hle : narrow ≤ wide)
      (hblocks : HasBlocks device wide) (hnumbers : wide ≤ 2 ^ 32)
      (hrun : (start.perform (.mount slot wide)).run device = (.ok (answer, session'), device')) :
      Widened allowed narrow wide device' session'
  /-- A permitted request was carried out. -/
  | perform {device device' : δ} {session session' : Session} {request : Request} {answer : Answer}
      (h : Widened allowed narrow wide device session)
      (hpermits : session.Permits allowed request)
      (hrun : (session.perform request).run device = (.ok (answer, session'), device')) :
      Widened allowed narrow wide device' session'
  /-- The disk was taken up anew. -/
  | remount {device device' : δ} {session session' : Session} {slot : Slot} {answer : Answer}
      (h : Widened allowed narrow wide device session)
      (hroom : ∀ volume, session.volumes = #[volume] →
        ∀ n ∈ volume.freeMap, n < 8 * FreeMap.bytesFor narrow)
      (hrun : (start.perform (.mount slot wide)).run device = (.ok (answer, session'), device')) :
      Widened allowed narrow wide device' session'

/-- The request runs through, and the files are as before that it neither removes nor writes. -/
def KeepsOthers (session : Session) (device : δ) (numSectors : Nat) (volume : Volume)
    (request : Request) : Prop :=
  ∃ answer session' device' volume',
    (session.perform request).run device = (.ok (answer, session'), device') ∧
    session'.volumes = #[volume'] ∧
    ∀ i : Fin numEntries, (volume.directory.entry i).isUnused = false →
      ¬ session.Removes request (volume.directory.entry i) →
      ¬ session.Writes request (volume.directory.entry i) →
      volume'.directory.entry i = volume.directory.entry i ∧
        volume'.contents? (Disk.image device' numSectors) i =
          volume.contents? (Disk.image device numSectors) i

/-- A session that has only taken up a disk has the volume that was found. -/
theorem run_mount_of_run {device device' : δ} {session : Session} {volume : Volume}
    {slot : Slot} {answer : Answer} {numSectors : Nat}
    (hmount : (Volume.mount numSectors).run device = (.ok volume, device))
    (hrun :
      (start.perform (.mount slot numSectors)).run device = (.ok (answer, session), device')) :
    session = start.addVolume slot volume ∧ device' = device := by
  rw [perform, Transfer.run_bind, hmount] at hrun
  obtain ⟨hanswer, rfl⟩ := Prod.mk.inj hrun
  exact ⟨(Prod.mk.inj (Except.ok.inj hanswer)).2.symm, rfl⟩

variable [LawfulBlockDevice δ] {device : δ} {session : Session} {allowed : String → Prop}
  {narrow wide : Nat}

namespace Widened

/-- The session is sound, but the file of the free map is as short as it was. -/
theorem exists_wideOn (h : Widened allowed narrow wide device session) :
    ∃ volume lost, session.WideOn device wide volume lost ∧
      volume.freeMapFile.length = FreeMap.bytesFor narrow := by
  induction h with
  -- in memory the free map is longer now; its file on the disk is not
  | mount h hle hblocks hnumbers hrun =>
    obtain ⟨volume, lost, hsound, -⟩ := h.exists_soundOn
    have hintact := hsound.sound.intact
    have hlength := hsound.freeMapFile_length
    obtain rfl := hsound.size_eq
    have hmount := hintact.yields_mount_widen hsound.sound.flushed hle hnumbers hlength
    obtain ⟨rfl, rfl⟩ :=
      run_mount_of_run ((Volume.onlyReads_mount _).run_eq hblocks hmount) hrun
    exact ⟨volume.widen _, lost, ⟨hblocks, ⟨rfl, hintact.widen hle hnumbers,
      hsound.sound.flushed.widen hle hlength⟩, volume.size_freeMap_widen _,
      numbered_addVolume_start _ _, allHave_inRing_addVolume_start _ _⟩, hlength⟩
  | perform _ hpermits hrun ih =>
    obtain ⟨volume, lost, hwide, hlength⟩ := ih
    obtain ⟨volume', lost', hadvanced, hwide'⟩ := hwide.exists_advanced hpermits hrun
    refine ⟨volume', lost', hwide', ?_⟩
    rw [hadvanced.evolves.freeMapFile_eq, hlength]
  | remount _ hroom hrun ih =>
    obtain ⟨volume, lost, hwide, hlength⟩ := ih
    obtain ⟨rfl, rfl⟩ := run_mount_of_run hwide.run_mount hrun
    -- what was cut off when the map was stored was free, so that nothing is lost
    have hsame : volume.stored = volume.withClock .silent := by
      rw [Volume.stored_eq_iff, hlength]
      exact hroom volume hwide.sound.volumes_eq
    rw [hsame]
    exact ⟨volume.withClock .silent, lost, ⟨hwide.hasBlocks, ⟨rfl,
      hwide.sound.intact.withClock _, ⟨hwide.sound.flushed.1, hwide.sound.flushed.2⟩⟩,
      hwide.size_eq, numbered_addVolume_start _ _, allHave_inRing_addVolume_start _ _⟩, hlength⟩

/-- While a disk is at hand that was taken up with more sectors, every permitted request runs
through and changes no file but those that it is about, unless a sum does not fit, and all sectors
of files are taken. Taking up the disk again gives the same volume exactly if no sector is taken for
whose mark the file of the free map has no room; otherwise these sectors are free, also where a file
has them. -/
theorem remount_exact (h : Widened allowed narrow wide device session) :
    ∃ volume found, session.volumes = #[volume] ∧ volume.freeMap.size = wide ∧
      (Volume.mount wide).run device = (.ok found, device) ∧
      volume.FoundAs (Disk.image device wide) (8 * FreeMap.bytesFor narrow) found ∧
      ∀ request, session.Permits allowed request →
        session.KeepsOthers device wide volume request ∨ session.Overflows device request := by
  obtain ⟨volume, lost, hwide, hlength⟩ := h.exists_wideOn
  refine ⟨volume, volume.stored, hwide.sound.volumes_eq, hwide.size_eq, hwide.run_mount,
    hlength ▸ hwide.sound.intact.foundAs_stored, fun request hpermits => ?_⟩
  refine (hwide.run_cases hpermits).imp_left ?_
  rintro ⟨answer, session', device', hrun⟩
  obtain ⟨volume', lost', hadvanced, -⟩ := hwide.exists_advanced hpermits hrun
  exact ⟨answer, session', device', volume', hrun, hadvanced.volumes_eq,
    fun i hused hkept hunwritten => ⟨hadvanced.evolves.entry_eq i hused hkept,
      hadvanced.evolves.contents?_eq i hused hkept hunwritten⟩⟩

end Widened

end Runs

/-- A memory disk of 40 blocks, laid out with 20 sectors and taken up with 40, on which a file of
2100 bytes was made, for which 20 sectors were not enough. -/
theorem Widened.remount_exact_of_create : ∃ (laidOut session : Session)
    (device₁ device : RamDisk sectorSize),
    (start.performAll [.format 0 20]).run (RamDisk.zeroed 40 sectorSize) =
      (.ok ([.done], laidOut), device₁) ∧
    (start.performAll [.mount 0 40, .create 0 "a" 2100]).run device₁ =
      (.ok ([.done, .done], session), device) ∧
    ∃ volume found, session.volumes = #[volume] ∧ volume.freeMap.size = 40 ∧
      (Volume.mount 40).run device = (.ok found, device) ∧
      volume.FoundAs (Disk.image device 40) (8 * FreeMap.bytesFor 20) found ∧
      ∀ request, session.Permits (fun _ => True) request →
        session.KeepsOthers device 40 volume request ∨ session.Overflows device request := by
  have hlaidOut : answers? ((start.performAll [.format 0 20]).run
      (RamDisk.zeroed 40 sectorSize)) = some [.done] := by decide +kernel
  have hcount : ((start.performAll [.format 0 20]).run (RamDisk.zeroed 40 sectorSize)).2.count =
      40 := by decide +kernel
  have hanswers : answers? ((start.performAll [.mount 0 40, .create 0 "a" 2100]).run
      ((start.performAll [.format 0 20]).run (RamDisk.zeroed 40 sectorSize)).2) =
        some [.done, .done] := by decide +kernel
  obtain ⟨laidOut, device₁, hrun₁⟩ := exists_of_answers? hlaidOut
  rw [hrun₁] at hcount hanswers
  obtain ⟨session, device, hrun⟩ := exists_of_answers? hanswers
  obtain ⟨session₁, device₁', hformat, hrest⟩ := run_performAll_cons hrun₁
  obtain ⟨-, rfl, rfl⟩ := run_performAll_nil hrest
  obtain ⟨session₂, device₂, hmount, hrest⟩ := run_performAll_cons hrun
  obtain ⟨session₃, device₃, hcreate, hrest⟩ := run_performAll_cons hrest
  obtain ⟨-, rfl, rfl⟩ := run_performAll_nil hrest
  have hblocks : HasBlocks (RamDisk.zeroed 40 sectorSize) 20 := fun block hblock =>
    RamDisk.hasBlocks (RamDisk.zeroed 40 sectorSize) block (Nat.lt_trans hblock (by decide))
  have hblocks₁ : HasBlocks device₁ 40 := hcount ▸ RamDisk.hasBlocks device₁
  have hpermits : session₂.Permits (fun _ => True) (.create 0 "a" 2100) := trivial
  have hwidened : Widened (fun _ => True) 20 40 device₂ session₂ :=
    .mount (.format hblocks hformat) (by decide) hblocks₁ (by decide) hmount
  exact ⟨laidOut, _, device₁, _, hrun₁, hrun, (hwidened.perform hpermits hcreate).remount_exact⟩

/-- On such a disk, the last bytes of a file are lost to another file after the disk was taken up
again: they are in sectors that were free then. Before, 14 sectors were free, afterwards 16. -/
theorem widened_loses_bytes :
    answers? ((start.performAll [.format 0 20, .mount 0 40, .create 0 "a" 2100,
        .openFile 0 0 "a", .writeAt 0 2099 [7], .mount 0 40, .openFile 0 0 "a",
        .readAt 0 2099 [9], .create 0 "b" 1, .readAt 0 2099 [9]]).run
          (RamDisk.zeroed 40 sectorSize)) =
      some [.done, .done, .done, .done, .count 1, .done, .done, .filled ⟨1, [7]⟩, .done,
        .filled ⟨1, [0]⟩] ∧
    (((start.performAll [.format 0 20, .mount 0 40, .create 0 "a" 2100, .mount 0 40]).run
        (RamDisk.zeroed 40 sectorSize)).1.toOption.map fun outcome =>
          outcome.2.volumes.toList.map Volume.numFree) = some [13, 14, 16] := by
  decide +kernel

end Session

end SectorStore
