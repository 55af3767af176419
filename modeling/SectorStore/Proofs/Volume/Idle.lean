import SectorStore.Proofs.Volume.Naming

/-!
# Sectors of no use

A sector is `Idle` if neither the tables nor a file of the directory has it: it is free, or it is
lost. A step `Spares` the idle sectors if it leaves alone all of them that it does not hand out, and
leaves the sectors of the files that it removes as they are. Then what a removed file had is found
unchanged on the disk until its sectors are handed out again.

Making and removing files spares the idle sectors (`Created.spares`, `Removed.spares`), also if the
one is done right after the other (`Created.spares_trans`).
-/

namespace SectorStore.Volume

variable {volume volume' volume'' : Volume} {disk disk' disk'' : Disk}
  {lost lost' : List SectorId} {i : Fin numEntries} {s : SectorId} {name : String} {size : Nat}

/-- The sector belongs neither to a table nor to a file of the directory. -/
def Idle (volume : Volume) (disk : Disk) (s : SectorId) : Prop :=
  ∀ o, s ∉ volume.sectorsOf disk [] o

/-- The sector is free in the one volume and taken in the other. -/
def HandsOut (volume volume' : Volume) (s : SectorId) : Prop :=
  s.toNat ∉ volume.freeMap ∧ s.toNat ∈ volume'.freeMap

/-- Idle sectors that are not handed out are left alone, and the sectors of removed files become
idle without being written. -/
structure Spares (volume : Volume) (disk : Disk) (volume' : Volume) (disk' : Disk) : Prop where
  /-- An idle sector is left alone unless it is handed out. -/
  of_idle : ∀ s, volume.Idle disk s → ¬ volume.HandsOut volume' s →
    disk'.get s = disk.get s ∧ volume'.Idle disk' s
  /-- The sectors of a removed file are left alone. -/
  of_removed : ∀ i : Fin numEntries, (volume.directory.entry i).isUnused = false →
    volume'.directory.entry i ≠ volume.directory.entry i →
    ∀ s ∈ volume.sectorsOf disk [] (.entry i), disk'.get s = disk.get s ∧ volume'.Idle disk' s

/-- No sector is taken, and files that stay keep their sectors. -/
structure Sheds (volume : Volume) (disk : Disk) (volume' : Volume) (disk' : Disk) : Prop where
  /-- The idle sectors are spared. -/
  spares : volume.Spares disk volume' disk'
  /-- What is taken was taken before. -/
  mem_of_mem : ∀ n ∈ volume'.freeMap, n ∈ volume.freeMap
  /-- The sectors of a file that stays are taken as before. -/
  mem_of_kept : ∀ i : Fin numEntries, (volume.directory.entry i).isUnused = false →
    volume'.directory.entry i = volume.directory.entry i →
    ∀ s ∈ volume.sectorsOf disk [] (.entry i), s.toNat ∈ volume'.freeMap

/-- Lost sectors have no part in what tables and files have. -/
theorem mem_sectorsOf_of_nil (lost : List SectorId) {o : Owner}
    (h : s ∈ volume.sectorsOf disk [] o) :
    o ≠ .lost ∧ s ∈ volume.sectorsOf disk lost o := by
  cases o with
  | lost => simp [sectorsOf, metaSectors, dataSectors] at h
  | headers | freeMapFile | directoryFile | entry i =>
    refine ⟨?_, h⟩
    rintro ⟨⟩

/-- Lost sectors belong to none of the other owners. -/
theorem mem_sectorsOf_nil {o : Owner} (ho : o ≠ .lost) (h : s ∈ volume.sectorsOf disk lost o) :
    s ∈ volume.sectorsOf disk [] o := by
  cases o with
  | lost => exact absurd rfl ho
  | headers | freeMapFile | directoryFile | entry i => exact h

/-- Idle sectors are in none of the tables. -/
theorem Idle.notMem_tableSectors (h : volume.Idle disk s) : s ∉ volume.tableSectors disk := by
  intro hs
  obtain ⟨o, hs⟩ := exists_owner_of_mem_tableSectors [] hs
  exact h o hs

namespace Intact

/-- An idle sector is free or lost. -/
theorem idle_iff (h : volume.Intact disk lost) :
    volume.Idle disk s ↔ (s.toNat ∈ volume.freeMap → s ∈ lost) := by
  constructor
  · intro hidle hmem
    obtain ⟨o, t, ht, hts⟩ := (h.partition.mem_iff _).1 hmem
    obtain rfl := UInt32.toNat_inj.1 hts
    by_cases ho : o = .lost
    · subst ho
      exact ht
    · exact absurd (mem_sectorsOf_nil ho ht) (hidle o)
  · intro hlost o hs
    obtain ⟨ho, hs⟩ := mem_sectorsOf_of_nil lost hs
    have hmem : s ∈ volume.sectorsOf disk lost .lost := hlost (h.partition.mem hs)
    exact ho (h.partition.owner_eq hs hmem)

/-- An idle sector stays idle while it is not handed out. -/
theorem idle_of_idle (h : volume.Intact disk lost) (h' : volume'.Intact disk' lost')
    (hsub : lost ⊆ lost') (hidle : volume.Idle disk s) (hkept : ¬ volume.HandsOut volume' s) :
    volume'.Idle disk' s := by
  rw [h'.idle_iff]
  intro hmem
  have hold : s.toNat ∈ volume.freeMap := by
    by_contra hfree
    exact hkept ⟨hfree, hmem⟩
  exact hsub (h.idle_iff.1 hidle hold)

end Intact

namespace Spares

theorem refl (volume : Volume) (disk : Disk) : volume.Spares disk volume disk where
  of_idle _ hidle _ := ⟨rfl, hidle⟩
  of_removed _ _ hne := absurd rfl hne

/-- The clock has no part in what sectors are used for. -/
theorem withClock (h : volume.Spares disk volume' disk') (clock : Clock) :
    volume.Spares disk (volume'.withClock clock) disk' :=
  ⟨h.1, h.2⟩

end Spares

theorem Sheds.refl (h : volume.Intact disk lost) : volume.Sheds disk volume disk where
  spares := .refl volume disk
  mem_of_mem _ hmem := hmem
  mem_of_kept _ _ _ _ hs := h.partition.mem (mem_sectorsOf_of_nil _ hs).2

/-! ## Removing -/

namespace Removed

/-- Removing a file leaves the other entries. -/
theorem entry_eq (h : volume.Removed disk lost i volume' disk') {j : Fin numEntries}
    (hj : j ≠ i) : volume'.directory.entry j = volume.directory.entry j := by
  rw [h.directory_eq, Directory.entry_setEntry, if_neg hj]

/-- An entry that is still in use is not that of the removed file. -/
theorem ne_of_isUnused_eq (h : volume.Removed disk lost i volume' disk')
    {j : Fin numEntries} (hused : (volume'.directory.entry j).isUnused = false) : j ≠ i := by
  rintro rfl
  rw [h.directory_eq, Directory.entry_setEntry, if_pos rfl] at hused
  cases hused

/-- The other files keep their headers. -/
theorem header?_of_ne (h : volume.Removed disk lost i volume' disk')
    (hintact : volume.Intact disk lost) {j : Fin numEntries} (hj : j ≠ i) :
    volume'.header? disk' j = volume.header? disk j :=
  hintact.header?_congr (h.entry_eq hj) fun _ hs => hintact.get_of_sameOff h.sameOff hs

/-- Only the removed file gives sectors back. -/
theorem sheds (h : volume.Removed disk lost i volume' disk') (hintact : volume.Intact disk lost) :
    volume.Sheds disk volume' disk' := by
  have hmem : ∀ n ∈ volume'.freeMap, n ∈ volume.freeMap :=
    fun n hn => ((h.givesBack.mem_iff n).1 hn).1
  refine ⟨⟨?_, ?_⟩, hmem, ?_⟩
  · intro s hidle hkept
    exact ⟨h.sameOff.2 s (hidle.notMem_tableSectors),
      hintact.idle_of_idle h.intact (List.Subset.refl _) hidle hkept⟩
  · intro j hused hne s hs
    -- an entry that changes without a new file in it is the removed one
    obtain rfl : j = i := by
      by_contra hj
      exact hne (h.entry_eq hj)
    obtain ⟨-, hs⟩ := mem_sectorsOf_of_nil lost hs
    refine ⟨h.sameOff.2 s (hintact.notMem_tableSectors (o := .entry j) nofun nofun hs), ?_⟩
    rw [h.intact.idle_iff]
    exact fun hmem => absurd rfl (((h.givesBack.mem_iff _).1 hmem).2 s hs)
  · intro j hused hentry s hs
    obtain ⟨-, hs⟩ := mem_sectorsOf_of_nil lost hs
    refine (h.givesBack.mem_iff _).2 ⟨hintact.partition.mem hs, fun t ht hts => ?_⟩
    obtain rfl := UInt32.toNat_inj.1 hts
    have hj := h.ne_of_isUnused_eq (hentry ▸ hused)
    exact hj (Owner.entry.inj (hintact.partition.owner_eq hs ht))

end Removed

/-! ## Making -/

namespace Created

/-- Making a file changes no entry that is in use. -/
theorem entry_eq (h : volume.Created disk lost name size i volume' disk') {j : Fin numEntries}
    (hj : j ≠ i) : volume'.directory.entry j = volume.directory.entry j := by
  obtain ⟨sector, entry, -, hdirectory⟩ := h.exists_entry
  rw [hdirectory, Directory.entry_setEntry, if_neg hj]

/-- An entry that was in use is not that of the new file. -/
theorem ne_of_isUnused_eq (h : volume.Created disk lost name size i volume' disk')
    {j : Fin numEntries} (hused : (volume.directory.entry j).isUnused = false) : j ≠ i := by
  rintro rfl
  rw [Directory.isUnused_of_firstUnused? h.firstUnused?_eq] at hused
  cases hused

/-- Of the sectors that were not handed out to the new file, only the tables are written. -/
theorem get_eq (h : volume.Created disk lost name size i volume' disk')
    (hkept : ¬ volume.HandsOut volume' s) (htable : s ∉ volume.tableSectors disk) :
    disk'.get s = disk.get s := by
  obtain ⟨header, hlodged⟩ := h.exists_lodged
  refine hlodged.sameOff.2 s fun hs => ?_
  rcases List.mem_append.1 hs with hs | hs
  · exact hkept ⟨hlodged.free hs, (hlodged.mem_iff _).2 (.inr ⟨s, hs, rfl⟩)⟩
  · exact htable hs

/-- The other files keep their headers. -/
theorem header?_of_ne (h : volume.Created disk lost name size i volume' disk')
    (hintact : volume.Intact disk lost) {j : Fin numEntries} (hj : j ≠ i) :
    volume'.header? disk' j = volume.header? disk j := by
  refine hintact.header?_congr (h.entry_eq hj) fun s hs => ?_
  replace hs : s ∈ volume.sectorsOf disk lost (.entry j) := metaSectors_subset _ hs
  exact h.get_eq (fun hout => hout.1 (hintact.partition.mem hs))
    (hintact.notMem_tableSectors (o := .entry j) nofun nofun hs)

/-- The old files have the same sectors, with the same contents. -/
theorem sectorsOf_eq (h : volume.Created disk lost name size i volume' disk')
    (hintact : volume.Intact disk lost) {j : Fin numEntries}
    (hused : (volume.directory.entry j).isUnused = false) :
    (∀ s ∈ volume.sectorsOf disk lost (.entry j), disk'.get s = disk.get s) ∧
      (volume'.sectorsOf disk' [] (.entry j)).Perm (volume.sectorsOf disk [] (.entry j)) := by
  have hsame : ∀ s ∈ volume.sectorsOf disk lost (.entry j), disk'.get s = disk.get s :=
    fun s hs => h.get_eq (fun hout => hout.1 (hintact.partition.mem hs))
      (hintact.notMem_tableSectors (o := .entry j) nofun nofun hs)
  have hperm : (volume'.sectorsOf disk' [] (.entry j)).Perm
      (volume.sectorsOf disk lost (.entry j)) := by
    refine hintact.perm_sectorsOf ?_ ?_ ?_ nofun fun s hs => hsame s (metaSectors_subset _ hs)
    · rw [h.fields_eq]
      rfl
    · rw [h.fields_eq]
      rfl
    · rintro _ ⟨⟩
      exact h.entry_eq (h.ne_of_isUnused_eq hused)
  exact ⟨hsame, hperm⟩

/-- A new file spares all others. -/
theorem spares (h : volume.Created disk lost name size i volume' disk')
    (hintact : volume.Intact disk lost) : volume.Spares disk volume' disk' := by
  obtain ⟨lost', hintact', -, hsub⟩ := h.intact
  refine ⟨fun s hidle hkept => ⟨h.get_eq hkept (hidle.notMem_tableSectors),
    hintact.idle_of_idle hintact' hsub hidle hkept⟩, ?_⟩
  intro j hused hne
  exact absurd (h.entry_eq (h.ne_of_isUnused_eq hused)) hne

/-- All sectors that a new file was handed are its own, if it is found in the directory. -/
theorem mem_sectorsOf_of_handsOut (h : volume.Created disk lost name size i volume' disk')
    (hused : (volume'.directory.entry i).isUnused = false) (hout : volume.HandsOut volume' s) :
    s ∈ volume'.sectorsOf disk' [] (.entry i) := by
  obtain ⟨header, hlodged⟩ := h.exists_lodged
  have hheader : volume'.header? disk' i = some header :=
    header?_eq_some_iff.2 ⟨hused, hlodged.header?_eq⟩
  rcases (hlodged.mem_iff _).1 hout.2 with hmem | ⟨t, ht, hts⟩
  · exact absurd hmem hout.1
  · obtain rfl := UInt32.toNat_inj.1 hts
    exact (sectorsOf_entry hheader).symm.subset ht

/-- The idle sectors are also spared if files are removed right after the new one is made, but not
the new one. -/
theorem spares_trans (h : volume.Created disk lost name size i volume' disk')
    (hintact : volume.Intact disk lost) (hsheds : volume'.Sheds disk' volume'' disk'')
    (hused : (volume'.directory.entry i).isUnused = false)
    (hentry : volume''.directory.entry i = volume'.directory.entry i) :
    volume.Spares disk volume'' disk'' := by
  have hspares := h.spares hintact
  -- the sectors that were handed out to the new file are still taken
  have hstill : ∀ s, volume.HandsOut volume' s → volume.HandsOut volume'' s := fun s hout =>
    ⟨hout.1, hsheds.mem_of_kept i hused hentry s (h.mem_sectorsOf_of_handsOut hused hout)⟩
  constructor
  · intro s hidle hkept
    obtain ⟨hget, hidle'⟩ := hspares.of_idle s hidle fun hout => hkept (hstill s hout)
    obtain ⟨hget', hidle''⟩ := hsheds.spares.of_idle s hidle' fun hout =>
      hout.1 (hsheds.mem_of_mem _ hout.2)
    exact ⟨hget'.trans hget, hidle''⟩
  · intro j hused hne s hs
    have hj := h.entry_eq (h.ne_of_isUnused_eq hused)
    obtain ⟨hsame, hperm⟩ := h.sectorsOf_eq hintact hused
    rw [← hj] at hused hne
    obtain ⟨hget, hidle⟩ := hsheds.spares.of_removed j hused hne s (hperm.symm.subset hs)
    exact ⟨hget.trans (hsame s (mem_sectorsOf_of_nil _ hs).2), hidle⟩

end Created

end SectorStore.Volume
