import SectorStore.Proofs.Session.Lasting
import SectorStore.Proofs.Session.Reachable
import SectorStore.Proofs.Volume.Entries

/-!
# Names of new files

A file that was made under a name is listed once under it, is found, is not made a second time, and
can be removed as if it had never been (`KeepsName`). All this is so exactly if no zero byte is in
the name (`Reachable.keepsName_iff`): an entry ends a name at its first zero byte, and one whose
name begins with a zero byte even looks unused, while the name is accepted as it is. As long as no
such name is used, all names are different (`lasting_distinct`).
-/

namespace SectorStore

variable {volume volume' : Volume} {disk disk' : Disk} {lost : List SectorId} {i : Fin numEntries}
  {name : String} {size : Nat}

namespace Volume

/-- A file that is there is not made a second time, for whatever size. -/
theorem create_of_indexOf? (h : volume.directory.indexOf? name = some i) (size : Nat) :
    volume.create name size = throw .alreadyExists := by
  have hfind : (volume.directory.find? name).isSome = true := by
    rw [Directory.find?_eq, h, Option.map_some, Option.isSome_some]
  rw [create, if_pos hfind]
  rfl

/-- Removing a new file again brings back the names. -/
theorem Created.names_of_removed {lost' : List SectorId} {volume'' : Volume} {disk'' : Disk}
    (h : volume.Created disk lost name size i volume' disk')
    (hremoved : volume'.Removed disk' lost' i volume'' disk'') : volume''.names = volume.names := by
  obtain ⟨sector, entry, -, hdirectory⟩ := h.exists_entry
  have hback : volume''.directory = volume.directory.setEntry i .unused := by
    rw [hremoved.directory_eq, hdirectory, Directory.setEntry_setEntry]
  rw [names, hback]
  exact Directory.names_setEntry (Directory.isUnused_of_firstUnused? h.firstUnused?_eq) rfl

end Volume

/-! ## Different names -/

/-- Files have different names, whatever the disk holds, if no zero byte is in the names of new
files. -/
theorem lasting_distinct : Lasting (fun name => '\x00' ∉ name.toList)
    (fun volume => volume.directory.Distinct) (fun _ => True) where
  format numSectors := by
    refine Transfer.Grants.mono (Volume.grants_format numSectors) fun volume hempty => ?_
    rw [hempty]
    exact Directory.distinct_empty
  withClock _ _ h := h
  create volume name size hzero h := by
    refine Transfer.Grants.mono (Volume.grants_create volume name size) ?_
    rintro volume' ⟨-, hnew, i, sector, entry, -, hmake, hdirectory⟩
    rw [hdirectory]
    -- a name without zero byte is stored whole, and it was not found in the directory
    refine h.setEntry fun j _ hused _ => ?_
    rw [DirEntry.name_make hzero hmake]
    exact Directory.name_ne_of_indexOf? hnew hused
  remove volume name h := by
    refine Transfer.Grants.mono (Volume.grants_remove volume name) ?_
    rintro volume' ⟨i, -, hdirectory⟩
    rw [hdirectory]
    exact h.erase i
  writeAt file volume offset data h := by
    refine (Volume.always_writeAt file volume offset data).mono fun answer hdirectory => ?_
    rw [hdirectory]
    exact h
  fileName := Pipe.zero_notMem_fileName
  newPipe _ _ _ _ := trivial
  moveHead _ _ _ := trivial
  moveTail _ _ _ := trivial

namespace Session

section Reaching

variable {δ : Type} [BlockDevice δ] {device device' : δ} {session session' : Session}
  {allowed allowed' : String → Prop} {numSectors number : Nat} {slot : Slot}

/-- What lasts through all operations is so in every reachable session. -/
theorem Reachable.allHave {ofVolume : Volume → Prop} {ofPipe : Pipe → Prop}
    (h : Reachable allowed numSectors device session) (hlasting : Lasting allowed' ofVolume ofPipe)
    (hallowed : ∀ name, allowed name → allowed' name) : session.AllHave ofVolume ofPipe := by
  induction h with
  | format _ hrun =>
    refine (hlasting.perform .start (.format _ _) ?_ ?_).of_run hrun
    · exact nofun
    · exact nofun
  | perform _ hpermits hrun ih =>
    refine (hlasting.perform ih _ ?_ ?_).of_run hrun
    · rintro slot name size rfl
      exact hallowed name hpermits
    · rintro slot numSectors rfl
      exact hpermits.elim

/-- Under the name of a file that was made between two states of a session, one file is listed; it
is found, it is not made a second time, and once it is removed again the names and the number of
free sectors are what they were before it was made. -/
structure KeepsName (before after : Session) (device : δ) (slot : Slot) (name : String) : Prop where
  /-- The name is listed once. -/
  names : ∃ names, (after.perform (.names slot)).run device = (.ok (.names names, after), device) ∧
    names.count name = 1
  /-- The file can be opened. -/
  openFile : ∀ fileSlot, ∃ session,
    (after.perform (.openFile slot fileSlot name)).run device = (.ok (.done, session), device)
  /-- The file is not made a second time. -/
  create : ∀ size, (after.perform (.create slot name size)).run device =
    (.ok (.refused .alreadyExists, after), device)
  /-- The file can be removed without a trace. -/
  remove : ∃ session device', (after.perform (.remove slot name)).run device =
      (.ok (.done, session), device') ∧
    ∃ number volume volume', before.volumeIn? slot = some (number, volume) ∧
      session.volumeIn? slot = some (number, volume') ∧ volume'.names = volume.names ∧
      volume'.numFree = volume.numFree

theorem onVolume_eq (h : session.volumeIn? slot = some (number, volume))
    (act : Nat → Volume → Transfer (Answer × Session)) :
    session.onVolume slot act = act number volume := by
  rw [onVolume, h]

/-- The names of a volume are asked for without the disk. -/
theorem run_names (h : session.volumeIn? slot = some (number, volume)) (device : δ) :
    (session.perform (.names slot)).run device = (.ok (.names volume.names, session), device) := by
  rw [perform, onVolume_eq h]
  rfl

variable [LawfulBlockDevice δ]

/-- A file that was made is a new file of the volume in the slot. -/
theorem SoundOn.exists_created (h : session.SoundOn device numSectors volume lost)
    (hrun : (session.perform (.create slot name size)).run device =
      (.ok (.done, session'), device')) :
    session.mounted[slot]? = some 0 ∧ volume.directory.indexOf? name = none ∧
      HasBlocks device' numSectors ∧ ∃ volume' i, session' = session.setVolume 0 volume' ∧
        volume.Created (Disk.image device numSectors) lost name size i volume'
          (Disk.image device' numSectors) := by
  have hyields : (session.perform (.create slot name size)).Yields (Disk.image device numSectors)
      fun answer disk' => answer.1 = .done → session.mounted[slot]? = some 0 ∧
        volume.directory.indexOf? name = none ∧ ∃ volume' i,
          answer.2 = session.setVolume 0 volume' ∧
          volume.Created (Disk.image device numSectors) lost name size i volume' disk' := by
    refine h.sound.yields_onVolume nofun fun hmounted => ?_
    refine (h.sound.intact.yields_create name size).bind ?_
    rintro (cause | volume') disk' houtcome
    · exact Transfer.yields_pure.2 nofun
    rcases hrefusal : volume.refusal? name size with _ | cause
    · rw [hrefusal] at houtcome
      obtain ⟨volume₁, i, hvolume, hcreated⟩ := houtcome
      obtain rfl := Except.ok.inj hvolume
      exact Transfer.yields_pure.2 fun _ =>
        ⟨hmounted, Volume.indexOf?_of_refusal? hrefusal, volume', i, rfl, hcreated⟩
    · rw [hrefusal] at houtcome
      cases houtcome.1
  -- the answer tells that the file was made
  obtain ⟨hblocks', hcreated⟩ := hyields.of_run h.hasBlocks hrun
  obtain ⟨hmounted, hnew, hcreated⟩ := hcreated rfl
  exact ⟨hmounted, hnew, hblocks', hcreated⟩

/-- A file whose name has no zero byte is kept under its name. -/
theorem SoundOn.keepsName (h : session.SoundOn device numSectors volume lost)
    (hzero : '\x00' ∉ name.toList)
    (hrun : (session.perform (.create slot name size)).run device =
      (.ok (.done, session'), device')) : session.KeepsName session' device' slot name := by
  obtain ⟨hmounted, hnew, hblocks', volume', i, rfl, hcreated⟩ := h.exists_created hrun
  have hindex := hcreated.indexOf?_eq hzero hnew
  -- there is one volume, and the slot shows it before and after
  have hbefore : session.volumeIn? slot = some (0, volume) := by
    rw [volumeIn?, hmounted, h.sound.volumes_eq]
    rfl
  have hafter : (session.setVolume 0 volume').volumeIn? slot = some (0, volume') := by
    rw [volumeIn?, setVolume, h.sound.volumes_eq, hmounted]
    rfl
  refine ⟨⟨volume'.names, run_names hafter device', ?_⟩, ?_, ?_, ?_⟩
  · -- the entries besides the new one are those that the name was not found in
    refine Directory.count_names_eq_one (Directory.isFor_of_indexOf? hindex) fun j hj => ?_
    rw [hcreated.entry_eq hj]
    exact Directory.isFor_eq_false_of_indexOf? hnew j
  · intro fileSlot
    rw [perform, onVolume_eq hafter, Volume.open, Directory.find?_eq, hindex]
    exact ⟨_, rfl⟩
  · intro size
    rw [perform, changeVolume, onVolume_eq hafter, Volume.create_of_indexOf? hindex]
    rfl
  · -- the file in the entry is removed, and all its sectors are given back
    obtain ⟨lost', hintact, -⟩ := hcreated.intact
    have hyields := hintact.yields_remove name
    rw [hindex] at hyields
    obtain ⟨answer, device'', hremove, -, volume'', rfl, hremoved⟩ := hyields.exists_run hblocks'
    refine ⟨(session.setVolume 0 volume').setVolume 0 volume'', device'', ?_, 0, volume, volume'',
      hbefore, ?_, hcreated.names_of_removed hremoved, ?_⟩
    · rw [perform, changeVolume, onVolume_eq hafter, Transfer.run_bind, hremove]
      rfl
    · rw [volumeIn?, setVolume, setVolume, h.sound.volumes_eq, hmounted]
      rfl
    · have hcontents := hcreated.contents?_eq (hcreated.isUnused_eq hzero)
      have hfree := hremoved.numFree_eq _ hcontents
      rw [List.length_replicate] at hfree
      rw [hfree, hcreated.numFree_eq]

end Reaching

end Session

end SectorStore
