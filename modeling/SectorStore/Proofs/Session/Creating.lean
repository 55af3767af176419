import SectorStore.Proofs.Session.Naming
import SectorStore.Proofs.Volume.Reading

/-!
# A file is made or nothing happens

In every state that a session can reach, a request for a new file has one of two outcomes
(`Reachable.create_allOrNothing`). Either it is refused, and the device, the volume and the clock
are as before. Or the file is there: it has the lowest sectors that were free, that of the header
first, and of all blocks of the device only these and those of the tables have changed.
-/

namespace SectorStore

variable {δ : Type} [BlockDevice δ] [LawfulBlockDevice δ] {numSectors : Nat} {device device' : δ}
  {name : String} {size : Nat}

/-- A new file of zeros is on the device, in sectors that were free, and the volume has an entry for
it. -/
structure Volume.Gains (volume : Volume) (device : δ) (numSectors : Nat) (name : String)
    (size : Nat) (i : Fin numEntries) (header : FileHeader) (volume' : Volume) (device' : δ) :
    Prop where
  /-- The entry is the first that was unused. -/
  firstUnused?_eq : volume.directory.firstUnused? = some i
  /-- The entry is made for the name, and the others are as before. -/
  directory_eq : ∃ entry, DirEntry.make name (volume'.directory.entry i).header = .ok entry ∧
    volume'.directory = volume.directory.setEntry i entry
  /-- The header is in the lowest sector that was free. -/
  headerSector_eq : (volume'.directory.entry i).header.toNat = volume.freeMap.firstFree
  /-- The header is found in that sector. -/
  run_load : (FileHeader.loadHome (volume'.directory.entry i).header).run device' =
    (.ok header, device')
  /-- The header is consistent. -/
  consistent : header.IsConsistent
  /-- The file has the length that was asked for. -/
  length_eq : header.length = size
  /-- The sectors of the file were free, and are taken in addition to those that were. -/
  mem_iff : ∀ n, n ∈ volume'.freeMap ↔ n ∈ volume.freeMap ∨
    ∃ s ∈ (volume'.directory.entry i).header :: header.allSectors (Disk.image device' numSectors),
      s.toNat = n
  /-- None of these sectors was taken. -/
  free : ∀ s ∈ (volume'.directory.entry i).header ::
    header.allSectors (Disk.image device' numSectors), s.toNat ∉ volume.freeMap
  /-- The sectors with the bytes of the file are filled with zeros. -/
  get_eq_zero : ∀ s ∈ header.dataSectors (Disk.image device' numSectors),
    (Disk.image device' numSectors).get s = Sector.zero
  /-- Besides them, only the sectors with the bytes of the tables have changed. -/
  sameBlocksOff : SameBlocksOff
    (((volume'.directory.entry i).header :: header.allSectors (Disk.image device' numSectors)) ++
      volume.tableSectors (Disk.image device numSectors)) device device'
  /-- The clock has told the time once, and the tables are in the same files. -/
  fields_eq : volume' =
    { volume.now.2 with freeMap := volume'.freeMap, directory := volume'.directory }

namespace Session

variable {session session' : Session} {volume : Volume} {lost : List SectorId} {slot : Slot}

namespace SoundOn

omit [LawfulBlockDevice δ] in
/-- A refused request for a new file does nothing at all. -/
theorem perform_create_eq (h : session.SoundOn device numSectors volume lost)
    (hrefused : session.mounted[slot]? ≠ some 0 ∨ (volume.refusal? name size).isSome) :
    ∃ answer, (answer = .noVolume ∨ ∃ cause, answer = .refused cause) ∧
      session.perform (.create slot name size) = pure (answer, session) := by
  have hin := h.sound.volumeIn?_eq slot
  rw [perform, changeVolume]
  split_ifs at hin with hmounted
  · obtain ⟨cause, hcause⟩ := Option.isSome_iff_exists.1 (hrefused.resolve_left (absurd hmounted))
    refine ⟨.refused cause, .inr ⟨cause, rfl⟩, ?_⟩
    rw [onVolume_eq hin, Volume.create_eq_throw h.sound.intact.size_le_pow hcause]
    rfl
  · refine ⟨.noVolume, .inl rfl, ?_⟩
    rw [onVolume, hin]

/-- A request for a new file that passes all checks is done. -/
theorem exists_gains (h : session.SoundOn device numSectors volume lost)
    (hmounted : session.mounted[slot]? = some 0) (haccepted : volume.refusal? name size = none) :
    ∃ volume' device' i header, (session.perform (.create slot name size)).run device =
        (.ok (.done, session.setVolume 0 volume'), device') ∧
      volume.Gains device numSectors name size i header volume' device' := by
  have hyields : (session.perform (.create slot name size)).Yields (Disk.image device numSectors)
      fun answer disk' => ∃ volume' i, answer = (.done, session.setVolume 0 volume') ∧
        volume.Created (Disk.image device numSectors) lost name size i volume' disk' := by
    rw [perform, changeVolume, onVolume_eq ((h.sound.volumeIn?_eq slot).trans (if_pos hmounted))]
    refine (h.sound.intact.yields_create name size).bind ?_
    rw [haccepted]
    rintro answer disk' ⟨volume', i, rfl, hcreated⟩
    exact Transfer.yields_pure.2 ⟨volume', i, rfl, hcreated⟩
  obtain ⟨answer, device', hrun, hblocks', volume', i, rfl, hcreated⟩ :=
    hyields.exists_run h.hasBlocks
  obtain ⟨header, hlodged⟩ := hcreated.exists_lodged
  -- the entry names the sector that was taken first, which is the lowest
  obtain ⟨sector, entry, hmake, hdirectory⟩ := hcreated.exists_entry
  have hsector : (volume'.directory.entry i).header = sector := by
    rw [hdirectory, Directory.entry_setEntry, if_pos rfl, DirEntry.header_make hmake]
  obtain ⟨others, htakes, hperm⟩ := hlodged.takes
  have hlt : (volume'.directory.entry i).header.toNat < numSectors :=
    h.size_eq ▸ htakes.lt_size _ (List.mem_cons_self ..)
  refine ⟨volume', device', i, header, hrun, hcreated.firstUnused?_eq,
    ⟨entry, hsector ▸ hmake, hdirectory⟩, htakes.toNat_eq_firstFree,
    FileHeader.run_loadHome hblocks' hlt hlodged.header?_eq, hlodged.consistent,
    hlodged.length_eq, hlodged.mem_iff, fun s hs => hlodged.free hs, hlodged.get_eq_zero, ?_,
    hcreated.fields_eq⟩
  exact hyields.sameBlocksOff h.hasBlocks (h.size_eq ▸ h.sound.intact.size_le_pow) hrun
    hlodged.sameOff

end SoundOn

/-- A request for a new file, in any state that can be reached, is refused and has left the device
and the session as they were, or is done. Then the header is in the lowest sector that was free, the
other sectors of the file were free as well, and no other block has changed but those of the
tables. -/
theorem Reachable.create_allOrNothing (h : Reachable (fun _ => True) numSectors device session)
    (slot : Slot) (name : String) (size : Nat) :
    (∃ answer, (answer = .noVolume ∨ ∃ cause, answer = .refused cause) ∧
      (session.perform (.create slot name size)).run device = (.ok (answer, session), device)) ∨
    ∃ volume volume' device' i header, session.volumeIn? slot = some (0, volume) ∧
      (session.perform (.create slot name size)).run device =
        (.ok (.done, session.setVolume 0 volume'), device') ∧
      volume.Gains device numSectors name size i header volume' device' := by
  obtain ⟨volume, lost, hsound, -⟩ := h.exists_soundOn
  by_cases hrefused : session.mounted[slot]? ≠ some 0 ∨ (volume.refusal? name size).isSome
  · obtain ⟨answer, hanswer, heq⟩ := hsound.perform_create_eq hrefused
    exact .inl ⟨answer, hanswer, by rw [heq, Transfer.run_pure]⟩
  · rw [not_or, not_not, Option.not_isSome_iff_eq_none] at hrefused
    obtain ⟨volume', device', i, header, hrun, hgains⟩ :=
      hsound.exists_gains hrefused.1 hrefused.2
    exact .inr ⟨volume, volume', device', i, header,
      (hsound.sound.volumeIn?_eq slot).trans (if_pos hrefused.1), hrun, hgains⟩

/-- On a memory disk of 20 blocks there is room for a file of 200 bytes, but not for 2000. -/
theorem Reachable.create_allOrNothing_of_format :
    ∃ (session : Session) (device : RamDisk sectorSize),
    (start.perform (.format 0 20)).run (RamDisk.zeroed 20 sectorSize) =
      (.ok (.done, session), device) ∧
    (session.perform (.create 0 "a" 2000)).run device =
      (.ok (.refused .noSpace, session), device) ∧
    ∃ volume volume' device' i header, session.volumeIn? 0 = some (0, volume) ∧
      (session.perform (.create 0 "a" 200)).run device =
        (.ok (.done, session.setVolume 0 volume'), device') ∧
      volume.Gains device 20 "a" 200 i header volume' device' := by
  have hanswers : answers? ((start.performAll [.format 0 20, .create 0 "a" 2000]).run
      (RamDisk.zeroed 20 sectorSize)) = some [.done, .refused .noSpace] := by decide +kernel
  have hanswers' : answers? ((start.performAll [.format 0 20, .create 0 "a" 200]).run
      (RamDisk.zeroed 20 sectorSize)) = some [.done, .done] := by decide +kernel
  obtain ⟨session, device, hrun⟩ := exists_of_answers? hanswers
  obtain ⟨session₁, device₁, hformat, hrest⟩ := run_performAll_cons hrun
  obtain ⟨session₂, device₂, hrefused, -⟩ := run_performAll_cons hrest
  obtain ⟨session', device', hrun'⟩ := exists_of_answers? hanswers'
  obtain ⟨session₁', device₁', hformat', hrest'⟩ := run_performAll_cons hrun'
  obtain ⟨session₂', device₂', hdone, -⟩ := run_performAll_cons hrest'
  obtain ⟨rfl, rfl⟩ : session₁' = session₁ ∧ device₁' = device₁ := by
    simpa using hformat'.symm.trans hformat
  have hreachable : Reachable (fun _ => True) 20 device₁' session₁' :=
    .format (RamDisk.hasBlocks _) hformat
  refine ⟨session₁', device₁', hformat, ?_, ?_⟩
  · rcases hreachable.create_allOrNothing 0 "a" 2000 with
      ⟨answer, -, hrun₂⟩ | ⟨_, _, _, _, _, -, hrun₂, -⟩
    · obtain ⟨⟩ := hrun₂.symm.trans hrefused
      exact hrefused
    · cases hrun₂.symm.trans hrefused
  · rcases hreachable.create_allOrNothing 0 "a" 200 with ⟨answer, hanswer, hrun₂⟩ | hgains
    · obtain ⟨⟩ := hrun₂.symm.trans hdone
      rcases hanswer with hanswer | ⟨cause, hanswer⟩ <;> cases hanswer
    · exact hgains

end Session

end SectorStore
