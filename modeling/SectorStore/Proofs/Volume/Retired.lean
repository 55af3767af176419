import SectorStore.Proofs.Volume.Dormant

/-!
# All removed files of a volume

`volume.Retires disk retired` says of the removed files whose headers are in the sectors `retired`
that they are dormant and have no sector in common. It is kept by every step that hands out none of
their sectors: by steps on the files of the directory, which may remove further files
(`Retires.of_spares`), and by writes to one of the removed files (`Retires.of_strays`).
-/

namespace SectorStore.Volume

variable {volume volume' : Volume} {disk disk' : Disk} {lost lost' : List SectorId}
  {retired retired' : List SectorId} {sector : SectorId} {header header' : FileHeader}

/-- The removed files, told by the sectors of their headers, are dormant, and no two of them have a
sector in common. -/
structure Retires (volume : Volume) (disk : Disk) (retired : List SectorId) : Prop where
  /-- Each of them is dormant. -/
  exists_dormant : ∀ a ∈ retired, ∃ header, volume.Dormant disk a header
  /-- Their sectors are different. -/
  disjoint : ∀ a ∈ retired, ∀ b ∈ retired, a ≠ b →
    ∀ s ∈ disk.fileSectors a, s ∉ disk.fileSectors b

namespace Retires

/-- The sectors of removed files belong to no file of the directory. -/
theorem idle (h : volume.Retires disk retired) (hretired : sector ∈ retired) {s : SectorId}
    (hs : s ∈ disk.fileSectors sector) : volume.Idle disk s := by
  obtain ⟨header, hdormant⟩ := h.exists_dormant sector hretired
  exact hdormant.idle s hs

/-- The directory does not name the header of a removed file. -/
theorem not_lists (h : volume.Retires disk retired) (hintact : volume.Intact disk lost)
    (hretired : sector ∈ retired) (i : Fin numEntries) : ¬ volume.Lists sector i := by
  intro hlists
  have hmem : sector ∈ disk.fileSectors sector := List.mem_cons_self ..
  exact h.idle hretired hmem (.entry i) ((hintact.exists_holds hlists).2 hmem)

/-- Removed files stay so through a step that spares the idle sectors and does not hand out theirs,
and the files that the step removes come to them. -/
theorem of_spares (h : volume.Retires disk retired) (hintact : volume.Intact disk lost)
    (hspares : volume.Spares disk volume' disk') (hcount : disk'.count = disk.count)
    (hfrom : ∀ a ∈ retired',
      (a ∈ retired ∧ ∀ s ∈ disk.fileSectors a, ¬ volume.HandsOut volume' s) ∨
        ∃ i, volume.Lists a i ∧ volume'.directory.entry i ≠ volume.directory.entry i) :
    volume'.Retires disk' retired' := by
  -- a file that was removed before was not touched, and one that is removed now is left as it was
  have hdormant : ∀ a ∈ retired', (∃ header, volume'.Dormant disk' a header) ∧
      disk'.fileSectors a = disk.fileSectors a := by
    intro a ha
    rcases hfrom a ha with ⟨hold, hkept⟩ | ⟨i, hlists, hne⟩
    · obtain ⟨header, hdormant⟩ := h.exists_dormant a hold
      obtain ⟨hdormant', hsectors⟩ := Dormant.of_kept hdormant.toHolds hcount fun s hs =>
        hspares.of_idle s (hdormant.idle s hs) (hkept s hs)
      exact ⟨⟨header, hdormant'⟩, hsectors⟩
    · obtain ⟨⟨header, hholds⟩, hsub⟩ := hintact.exists_holds hlists
      obtain ⟨hdormant', hsectors⟩ := Dormant.of_kept hholds hcount fun s hs =>
        hspares.of_removed i hlists.1 hne s (hsub hs)
      exact ⟨⟨header, hdormant'⟩, hsectors⟩
  refine ⟨fun a ha => (hdormant a ha).1, fun a ha b hb hab s hs => ?_⟩
  rw [(hdormant a ha).2] at hs
  rw [(hdormant b hb).2]
  intro hs'
  rcases hfrom a ha with ⟨ha, -⟩ | ⟨i, hi, -⟩ <;> rcases hfrom b hb with ⟨hb, -⟩ | ⟨j, hj, -⟩
  · exact h.disjoint a ha b hb hab s hs hs'
  · exact h.idle ha hs (.entry j) ((hintact.exists_holds hj).2 hs')
  · exact h.idle hb hs' (.entry i) ((hintact.exists_holds hi).2 hs)
  · -- both are removed now, and were different files of the directory
    have hsi := (mem_sectorsOf_of_nil lost ((hintact.exists_holds hi).2 hs)).2
    have hsj := (mem_sectorsOf_of_nil lost ((hintact.exists_holds hj).2 hs')).2
    obtain rfl := Owner.entry.inj (hintact.partition.owner_eq hsi hsj)
    exact hab (hi.2.symm.trans hj.2)

/-- A write to a removed file keeps it and those others of whose sectors it got none. -/
theorem of_strays (h : volume.Retires disk retired) (hretired : sector ∈ retired)
    (hstrays : volume.Strays disk sector header volume' disk' lost' header')
    (hcount : disk'.count = disk.count)
    (hfrom : ∀ a ∈ retired', a ∈ retired ∧
      (a = sector ∨ ∀ s ∈ disk.fileSectors a, ¬ volume.HandsOut volume' s)) :
    volume'.Retires disk' retired' := by
  have hothers : ∀ a ∈ retired', a ≠ sector → (∃ header, volume'.Dormant disk' a header) ∧
      disk'.fileSectors a = disk.fileSectors a := by
    intro a ha hne
    obtain ⟨hold, hkept⟩ := hfrom a ha
    obtain ⟨header, hdormant⟩ := h.exists_dormant a hold
    obtain ⟨hdormant', hsectors⟩ := Dormant.of_kept hdormant.toHolds hcount fun s hs =>
      hstrays.of_idle s (hdormant.idle s hs) (h.disjoint a hold sector hretired hne s hs)
        (hkept.resolve_left hne s hs)
    exact ⟨⟨header, hdormant'⟩, hsectors⟩
  -- the written file has got no sector of another one
  have hapart : ∀ a ∈ retired', a ≠ sector → ∀ s ∈ disk'.fileSectors a,
      s ∉ disk'.fileSectors sector := by
    intro a ha hne s hs hs'
    rw [(hothers a ha hne).2] at hs
    obtain ⟨hold, hkept⟩ := hfrom a ha
    rcases hstrays.fileSectors_from s hs' with hs' | hout
    · exact h.disjoint a hold sector hretired hne s hs hs'
    · exact hkept.resolve_left hne s hs hout
  constructor
  · intro a ha
    by_cases hself : a = sector
    · exact ⟨header', hself ▸ hstrays.dormant⟩
    · exact (hothers a ha hself).1
  · intro a ha b hb hab s hs hs'
    -- the written file has changed, the others have not
    by_cases hself : a = sector
    · subst hself
      exact hapart b hb hab.symm s hs' hs
    by_cases hself' : b = sector
    · subst hself'
      exact hapart a ha hab s hs hs'
    rw [(hothers a ha hself).2] at hs
    rw [(hothers b hb hself').2] at hs'
    exact h.disjoint a (hfrom a ha).1 b (hfrom b hb).1 hab s hs hs'

end Retires

end SectorStore.Volume
