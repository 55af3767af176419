import SectorStore.Proofs.OpenFile

/-!
# What a volume keeps

`volume.Evolves disk removes writes volume' disk' lost'` says that a step has left an intact volume
with its tables on the disk, in which every file is as before whose entry is not among those that
the step `removes` or `writes`. A file that was not there before holds zeros, in sectors of which
none has the header of a file that was (`IsNew`). Steps one after another evolve the volume as one
step does, if the later ones make no files (`MakesNone`).

Making, removing and writing a file evolve a volume (`Created.exists_evolves`, `Removed.evolves`,
`ChangesOnly.evolves`).
-/

namespace SectorStore.Volume

variable {volume volume' volume'' : Volume} {disk disk' disk'' : Disk}
  {lost lost' lost'' : List SectorId} {i : Fin numEntries} {removes writes : DirEntry → Prop}

/-- The file in entry `i` was not there before, and it holds zeros. -/
structure IsNew (volume volume' : Volume) (disk' : Disk) (i : Fin numEntries) : Prop where
  /-- Its header is where no file had its header before. -/
  header_ne : ∀ j : Fin numEntries, (volume.directory.entry j).isUnused = false →
    (volume.directory.entry j).header ≠ (volume'.directory.entry i).header
  /-- All its bytes are zero. -/
  exists_contents? : ∃ size, volume'.contents? disk' i = some (List.replicate size 0)

/-- Every file was there before. -/
def MakesNone (volume volume' : Volume) : Prop :=
  ∀ i : Fin numEntries, (volume'.directory.entry i).isUnused = false →
    volume'.directory.entry i = volume.directory.entry i

/-- The volume stays intact, and keeps the files that are neither removed nor written. -/
structure Evolves (volume : Volume) (disk : Disk) (removes writes : DirEntry → Prop)
    (volume' : Volume) (disk' : Disk) (lost' : List SectorId) : Prop where
  /-- The volume stays intact. -/
  intact : volume'.Intact disk' lost'
  /-- The tables are on the disk. -/
  flushed : volume'.Flushed disk'
  /-- The size of the volume does not change. -/
  size_eq : volume'.freeMap.size = volume.freeMap.size
  /-- The free map stays in the same file. -/
  freeMapFile_eq : volume'.freeMapFile = volume.freeMapFile
  /-- A file that is not removed stays in its entry. -/
  entry_eq : ∀ i : Fin numEntries, (volume.directory.entry i).isUnused = false →
    ¬ removes (volume.directory.entry i) →
    volume'.directory.entry i = volume.directory.entry i
  /-- A file that is not written either keeps its bytes. -/
  contents?_eq : ∀ i : Fin numEntries, (volume.directory.entry i).isUnused = false →
    ¬ removes (volume.directory.entry i) → ¬ writes (volume.directory.entry i) →
    volume'.contents? disk' i = volume.contents? disk i
  /-- A file that is not written is there as before, or it is new. -/
  entry_from : ∀ i : Fin numEntries, (volume'.directory.entry i).isUnused = false →
    ¬ writes (volume'.directory.entry i) →
    (volume'.directory.entry i = volume.directory.entry i ∧
      volume'.contents? disk' i = volume.contents? disk i) ∨ volume.IsNew volume' disk' i

namespace Evolves

theorem refl (h : volume.Intact disk lost) (hflushed : volume.Flushed disk) :
    volume.Evolves disk removes writes volume disk lost :=
  ⟨h, hflushed, rfl, rfl, fun _ _ _ => rfl, fun _ _ _ _ => rfl, fun _ _ _ => .inl ⟨rfl, rfl⟩⟩

theorem trans (h : volume.Evolves disk removes writes volume' disk' lost')
    (h' : volume'.Evolves disk' removes writes volume'' disk'' lost'')
    (hnone : volume'.MakesNone volume'') : volume.Evolves disk removes writes volume'' disk''
      lost'' where
  intact := h'.intact
  flushed := h'.flushed
  size_eq := h'.size_eq.trans h.size_eq
  freeMapFile_eq := h'.freeMapFile_eq.trans h.freeMapFile_eq
  entry_eq i hused hkept := by
    have hentry := h.entry_eq i hused hkept
    rw [← hentry] at hused hkept ⊢
    exact h'.entry_eq i hused hkept
  contents?_eq i hused hkept hunwritten := by
    have hentry := h.entry_eq i hused hkept
    rw [← h.contents?_eq i hused hkept hunwritten]
    rw [← hentry] at hused hkept hunwritten
    exact h'.contents?_eq i hused hkept hunwritten
  entry_from i hused hunwritten := by
    -- an entry that is new at the end was new after the first step, for the second makes none
    have hentry := hnone i hused
    have hcontents : volume''.contents? disk'' i = volume'.contents? disk' i := by
      rcases h'.entry_from i hused hunwritten with ⟨-, hcontents⟩ | hnew
      · exact hcontents
      · exact absurd (congrArg _ hentry.symm) (hnew.header_ne i (hentry ▸ hused))
    rw [hentry] at hused hunwritten
    rw [hentry, hcontents]
    exact (h.entry_from i hused hunwritten).imp_right fun hnew =>
      ⟨by rw [hentry]; exact hnew.header_ne, by rw [hcontents]; exact hnew.exists_contents?⟩

/-- A header that the directory names stays the header of a file until that file is removed. -/
theorem lists (h : volume.Evolves disk removes writes volume' disk' lost') {sector : SectorId}
    (hlists : volume.Lists sector i) (hkept : ¬ removes (volume.directory.entry i)) :
    volume'.Lists sector i := by
  rw [Lists, h.entry_eq i hlists.1 hkept]
  exact hlists

/-- The clock has no part in what a volume keeps. -/
theorem withClock (h : volume.Evolves disk removes writes volume' disk' lost') (clock : Clock) :
    volume.Evolves disk removes writes (volume'.withClock clock) disk' lost' :=
  ⟨h.intact.withClock clock, ⟨h.flushed.1, h.flushed.2⟩, h.size_eq, h.freeMapFile_eq, h.entry_eq,
    h.contents?_eq,
    fun i hused hunwritten => (h.entry_from i hused hunwritten).imp_right fun hnew =>
      ⟨hnew.header_ne, hnew.exists_contents?⟩⟩

end Evolves

variable {name : String} {size : Nat}

namespace Created

/-- The entry of the new file is in use if no zero byte is in its name. -/
theorem isUnused_eq (h : volume.Created disk lost name size i volume' disk')
    (hzero : '\x00' ∉ name.toList) : (volume'.directory.entry i).isUnused = false := by
  obtain ⟨sector, entry, hmake, hdirectory⟩ := h.exists_entry
  rw [hdirectory, Directory.entry_setEntry, if_pos rfl]
  exact DirEntry.isUnused_make hzero hmake

/-- The entry of the new file tells its name if no zero byte is in it. -/
theorem name_eq (h : volume.Created disk lost name size i volume' disk')
    (hzero : '\x00' ∉ name.toList) : (volume'.directory.entry i).name = name := by
  obtain ⟨sector, entry, hmake, hdirectory⟩ := h.exists_entry
  rw [hdirectory, Directory.entry_setEntry, if_pos rfl]
  exact DirEntry.name_make hzero hmake

/-- The new file is found under its name. -/
theorem indexOf?_eq (h : volume.Created disk lost name size i volume' disk')
    (hzero : '\x00' ∉ name.toList) (hnew : volume.directory.indexOf? name = none) :
    volume'.directory.indexOf? name = some i := by
  obtain ⟨sector, entry, hmake, hdirectory⟩ := h.exists_entry
  rw [hdirectory]
  exact Directory.indexOf?_setEntry_make hnew hzero hmake

theorem exists_evolves (h : volume.Created disk lost name size i volume' disk')
    (removes writes : DirEntry → Prop) :
    ∃ lost', volume.Evolves disk removes writes volume' disk' lost' ∧
      ('\x00' ∉ name.toList → lost' = lost) ∧ lost ⊆ lost' := by
  obtain ⟨lost', hintact, hlost, hsub⟩ := h.intact
  have hne : ∀ j : Fin numEntries, (volume.directory.entry j).isUnused = false → j ≠ i :=
    fun _ => h.ne_of_isUnused_eq
  refine ⟨lost', ⟨hintact, h.flushed, h.size_eq, by rw [h.fields_eq]; rfl, ?_, ?_, ?_⟩,
    fun hzero => hlost (h.isUnused_eq hzero), hsub⟩
  · exact fun j hused _ => h.entry_eq (hne j hused)
  · exact fun j hused _ _ => h.contents?_of_ne j (hne j hused)
  · intro j hused' _
    by_cases hj : j = i
    · subst hj
      refine .inr ⟨fun k hused hheader => hne k hused ?_, size, h.contents?_eq hused'⟩
      have hentry := h.entry_eq (hne k hused)
      exact hintact.entry_inj (hentry ▸ hused) hused' (hentry ▸ hheader)
    · exact .inl ⟨h.entry_eq hj, h.contents?_of_ne j hj⟩

end Created

/-- Removing a file makes none. -/
theorem Removed.makesNone (h : volume.Removed disk lost i volume' disk') :
    volume.MakesNone volume' :=
  fun _ hused => h.entry_eq (h.ne_of_isUnused_eq hused)

/-- Removing the file of an entry keeps all others. -/
theorem Removed.evolves (h : volume.Removed disk lost i volume' disk')
    (hremoves : removes (volume.directory.entry i)) :
    volume.Evolves disk removes writes volume' disk' lost := by
  have hne : ∀ j : Fin numEntries, ¬ removes (volume.directory.entry j) → j ≠ i := by
    rintro j hkept rfl
    exact hkept hremoves
  refine ⟨h.intact, h.flushed, h.size_eq, by rw [h.fields_eq], ?_, ?_, ?_⟩
  · exact fun j _ hkept => h.entry_eq (hne j hkept)
  · exact fun j _ hkept _ => h.contents?_of_ne j (hne j hkept)
  · exact fun j hused _ =>
      .inl ⟨h.makesNone j hused, h.contents?_of_ne j (h.ne_of_isUnused_eq hused)⟩

/-- Where only the file of an entry is written, all others are kept. -/
theorem ChangesOnly.evolves (h : volume.ChangesOnly disk i volume' disk')
    (hintact : volume'.Intact disk' lost') (hflushed : volume.Flushed disk)
    (hwrites : writes (volume.directory.entry i)) :
    volume.Evolves disk removes writes volume' disk' lost' := by
  have hothers : ∀ j, ¬ writes (volume.directory.entry j) →
      volume'.contents? disk' j = volume.contents? disk j := by
    intro j hunwritten
    refine h.contents?_of_ne j ?_
    rintro rfl
    exact hunwritten hwrites
  refine ⟨hintact, h.flushed hflushed, h.size_eq, h.freeMapFile_eq, ?_, ?_, ?_⟩
  · intro j _ _
    rw [h.directory_eq]
  · exact fun j _ _ hunwritten => hothers j hunwritten
  · intro j _ hunwritten
    rw [h.directory_eq] at hunwritten ⊢
    exact .inl ⟨rfl, hothers j hunwritten⟩

/-- A removal, successful or refused, keeps all files but those of the name. -/
theorem Intact.yields_remove_evolves (h : volume.Intact disk lost) (hflushed : volume.Flushed disk)
    (writes : DirEntry → Prop) (hremoves : ∀ entry : DirEntry, entry.isFor name → removes entry) :
    (volume.remove name).run.Yields disk fun answer disk' =>
      match answer with
      | .ok volume' => volume.Evolves disk removes writes volume' disk' lost ∧
          volume.MakesNone volume' ∧ volume.Sheds disk volume' disk'
      | .error _ => disk' = disk := by
  refine (h.yields_remove name).mono ?_
  intro answer disk' houtcome
  rcases hindex : volume.directory.indexOf? name with _ | i
  · rw [hindex] at houtcome
    obtain ⟨rfl, rfl⟩ := houtcome
    rfl
  · rw [hindex] at houtcome
    obtain ⟨volume', rfl, hremoved⟩ := houtcome
    exact ⟨hremoved.evolves (hremoves _ (Directory.isFor_of_indexOf? hindex)), hremoved.makesNone,
      hremoved.sheds h⟩

end SectorStore.Volume
