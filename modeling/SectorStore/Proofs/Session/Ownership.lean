import SectorStore.Proofs.Session.Reachable

/-!
# Who owns the taken sectors

In every state that a session can reach, each taken sector of the volume belongs to the two headers
of the tables, to one of the tables or to one file, and to no more than one of them, and no sector
that belongs to any is free. All this is said by `Volume.OwnsTaken`, and true of every volume that
is intact and has lost nothing (`Volume.Intact.ownsTaken_of_nil`).
-/

namespace SectorStore

namespace Volume

variable {volume : Volume} {disk : Disk} {lost : List SectorId} {i : Fin numEntries}

/-- The sector of the header of the file of an entry, and the sectors that this header records. -/
def fileSectors (volume : Volume) (disk : Disk) (i : Fin numEntries) : List SectorId :=
  match volume.header? disk i with
  | some header => (volume.directory.entry i).header :: header.allSectors disk
  | none => []

/-- The sectors of the headers of the tables, of the tables, and of the files. -/
def ownedSectors (volume : Volume) (disk : Disk) : List SectorId :=
  [freeMapSector, directorySector] ++ volume.freeMapFile.allSectors disk ++
    volume.directoryFile.allSectors disk ++
    (List.finRange numEntries).flatMap (volume.fileSectors disk)

theorem fileSectors_perm (volume : Volume) (disk : Disk) (lost : List SectorId)
    (i : Fin numEntries) :
    (volume.fileSectors disk i).Perm (volume.sectorsOf disk lost (.entry i)) := by
  rcases hheader : volume.header? disk i with _ | header
  · rw [fileSectors, sectorsOf_entry_of_none hheader, hheader]
  · rw [fileSectors, hheader]
    exact (sectorsOf_entry hheader).symm

/-- The taken sectors are the owned ones, and none of these is owned twice. -/
structure OwnsTaken (volume : Volume) (disk : Disk) : Prop where
  /-- Each entry in use names the sector of a header. -/
  header_isSome : ∀ i : Fin numEntries, (volume.directory.entry i).isUnused = false →
    (volume.header? disk i).isSome = true
  /-- No sector is owned twice. -/
  nodup : (volume.ownedSectors disk).Nodup
  /-- A sector is taken exactly if it is owned. -/
  mem_iff : ∀ block, block ∈ volume.freeMap ↔ ∃ s ∈ volume.ownedSectors disk, s.toNat = block

/-- Those to whom sectors may belong, other than nobody. -/
def owners : List Owner :=
  [.headers, .freeMapFile, .directoryFile] ++ (List.finRange numEntries).map .entry

theorem nodup_owners : owners.Nodup := by
  decide

theorem mem_owners {o : Owner} (ho : o ≠ .lost) : o ∈ owners := by
  cases o with
  | lost => exact absurd rfl ho
  | entry i => simp [owners]
  | _ => simp [owners]

theorem ownedSectors_perm (volume : Volume) (disk : Disk) (lost : List SectorId) :
    (volume.ownedSectors disk).Perm (owners.flatMap (volume.sectorsOf disk lost)) := by
  have hfiles : ((List.finRange numEntries).flatMap (volume.fileSectors disk)).Perm
      ((List.finRange numEntries).flatMap fun i => volume.sectorsOf disk lost (.entry i)) :=
    List.Perm.flatMap_left _ fun i _ => volume.fileSectors_perm disk lost i
  rw [ownedSectors, owners, List.flatMap_append, List.flatMap_map]
  refine List.Perm.append ?_ hfiles
  simp only [List.flatMap_cons, List.flatMap_nil, List.append_nil, ← List.append_assoc]
  refine List.Perm.append (List.Perm.append ?_ ?_) ?_
  · exact .refl _
  · exact List.perm_append_comm
  · exact List.perm_append_comm

/-- Owned sectors are taken. -/
theorem Intact.mem_of_mem_ownedSectors (h : volume.Intact disk lost) {s : SectorId}
    (hs : s ∈ volume.ownedSectors disk) : s.toNat ∈ volume.freeMap := by
  obtain ⟨o, -, hs⟩ := List.mem_flatMap.1 ((volume.ownedSectors_perm disk lost).subset hs)
  exact h.partition.mem hs

/-- Where no sector is lost, the taken sectors of an intact volume are the owned ones. -/
theorem Intact.ownsTaken_of_nil (h : volume.Intact disk []) : volume.OwnsTaken disk where
  header_isSome i hused := by
    obtain ⟨header, hheader, -⟩ := h.exists_header i hused
    rw [hheader, Option.isSome_some]
  nodup := (volume.ownedSectors_perm disk []).nodup_iff.2 (h.partition.nodup_flatMap nodup_owners)
  mem_iff block := by
    have hmem : ∀ s, s ∈ volume.ownedSectors disk ↔ ∃ o, s ∈ volume.sectorsOf disk [] o := by
      intro s
      rw [(volume.ownedSectors_perm disk []).mem_iff, List.mem_flatMap]
      constructor
      · rintro ⟨o, -, hs⟩
        exact ⟨o, hs⟩
      · rintro ⟨o, hs⟩
        refine ⟨o, mem_owners ?_, hs⟩
        rintro rfl
        exact List.not_mem_nil hs
    rw [h.partition.mem_iff]
    constructor
    · rintro ⟨o, s, hs, hblock⟩
      exact ⟨s, (hmem s).2 ⟨o, hs⟩, hblock⟩
    · rintro ⟨s, hs, hblock⟩
      obtain ⟨o, hs⟩ := (hmem s).1 hs
      exact ⟨o, s, hs, hblock⟩

end Volume

namespace Session

/-- The taken sectors of a reachable volume are those of the two headers of the tables, of the
tables and of the files, where none is owned twice. Each request that is permitted in such a state
runs through, or makes a sum that does not fit and ends with that, with the device as it was. -/
theorem Reachable.ownsTaken {δ : Type} [BlockDevice δ] [LawfulBlockDevice δ] {numSectors : Nat}
    {device : δ} {session : Session}
    (h : Reachable (fun name => '\x00' ∉ name.toList) numSectors device session) :
    (∃ volume, session.volumes = #[volume] ∧ volume.freeMap.size = numSectors ∧
      volume.OwnsTaken (Disk.image device numSectors)) ∧
    ∀ request, session.Permits (fun name => '\x00' ∉ name.toList) request →
      (∃ answer session' device',
        (session.perform request).run device = (.ok (answer, session'), device')) ∨
      session.Overflows device request := by
  obtain ⟨volume, lost, hsound, hlost⟩ := h.exists_soundOn
  obtain rfl := hlost fun _ hzero => hzero
  exact ⟨⟨volume, hsound.sound.volumes_eq, hsound.size_eq, hsound.sound.intact.ownsTaken_of_nil⟩,
    fun _ hpermits => h.run_cases hpermits⟩

/-- A memory disk of 20 blocks on which a file of 200 bytes was made. -/
theorem Reachable.ownsTaken_of_create : ∃ (session : Session) (device : RamDisk sectorSize),
    (start.performAll [.format 0 20, .create 0 "a" 200]).run (RamDisk.zeroed 20 sectorSize) =
      (.ok ([.done, .done], session), device) ∧
    ∃ volume, session.volumes = #[volume] ∧ volume.freeMap.size = 20 ∧
      volume.OwnsTaken (Disk.image device 20) := by
  have hanswers : answers? ((start.performAll [.format 0 20, .create 0 "a" 200]).run
      (RamDisk.zeroed 20 sectorSize)) = some [.done, .done] := by decide +kernel
  obtain ⟨session, device, hrun⟩ := exists_of_answers? hanswers
  obtain ⟨session₁, device₁, hformat, hrest⟩ := run_performAll_cons hrun
  obtain ⟨session₂, device₂, hcreate, hrest⟩ := run_performAll_cons hrest
  obtain ⟨-, rfl, rfl⟩ := run_performAll_nil hrest
  have hblocks : HasBlocks (RamDisk.zeroed 20 sectorSize) 20 := RamDisk.hasBlocks _
  have hplain : '\x00' ∉ "a".toList := by decide
  have hpermits : session₁.Permits (fun name => '\x00' ∉ name.toList) (.create 0 "a" 200) := hplain
  exact ⟨_, _, hrun,
    (Reachable.ownsTaken ((Reachable.format hblocks hformat).perform hpermits hcreate)).1⟩

end Session

end SectorStore
