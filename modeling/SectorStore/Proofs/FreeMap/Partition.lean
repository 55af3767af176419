import Mathlib.Data.List.Nodup
import Mathlib.Logic.Function.Basic
import SectorStore.Proofs.FreeMap.Taking

/-!
# Free maps shared out among owners

`map.IsPartition parts` says that the taken sectors of a map are shared out: each owner `o` has the
sectors `parts o`, no sector is there twice, and the sectors of all owners are the taken ones. An
owner may get sectors that were free (`IsPartition.extend`), pass sectors on to another owner
(`IsPartition.move`), or give back all that it has (`IsPartition.vacate`).
-/

namespace SectorStore.FreeMap

variable {ι : Type} {map map' : FreeMap} {parts parts' : ι → List SectorId}

/-- The taken sectors of a map are shared out among owners, each of them to one owner. -/
structure IsPartition (map : FreeMap) (parts : ι → List SectorId) : Prop where
  /-- No owner has a sector twice. -/
  nodup : ∀ o, (parts o).Nodup
  /-- No two owners have the same sector. -/
  owner_eq : ∀ {o o' s}, s ∈ parts o → s ∈ parts o' → o = o'
  /-- A sector is taken exactly if it has an owner. -/
  mem_iff : ∀ i, i ∈ map ↔ ∃ o, ∃ s ∈ parts o, s.toNat = i

namespace IsPartition

variable {o : ι} {s : SectorId}

/-- A sector that has an owner is taken. -/
theorem mem (h : map.IsPartition parts) (hs : s ∈ parts o) : s.toNat ∈ map :=
  (h.mem_iff _).2 ⟨o, s, hs, rfl⟩

theorem lt_size (h : map.IsPartition parts) (hs : s ∈ parts o) : s.toNat < map.size :=
  lt_size_of_mem (h.mem hs)

/-- The sectors that are about to be taken have no owner. -/
theorem notMem_of_takes {fresh : List SectorId} (h : map.IsPartition parts)
    (htakes : map.Takes fresh map') (hs : s ∈ fresh) : s ∉ parts o :=
  fun hmem => htakes.free s hs (h.mem hmem)

/-- The order in which an owner lists its sectors does not matter. -/
theorem congr (h : map.IsPartition parts) (hperm : ∀ o, (parts' o).Perm (parts o)) :
    map.IsPartition parts' where
  nodup o := (hperm o).nodup_iff.2 (h.nodup o)
  owner_eq hs hs' := h.owner_eq ((hperm _).mem_iff.1 hs) ((hperm _).mem_iff.1 hs')
  mem_iff := by
    intro i
    simp only [h.mem_iff, (hperm _).mem_iff]

/-- The sectors of different owners, listed one after another, are different sectors. -/
theorem nodup_flatMap (h : map.IsPartition parts) {owners : List ι} (howners : owners.Nodup) :
    (owners.flatMap parts).Nodup := by
  refine List.nodup_flatMap.2 ⟨fun o _ => h.nodup o, howners.imp ?_⟩
  intro o o' hne s hs hs'
  exact hne (h.owner_eq hs hs')

/-- One owner gets the sectors that were taken just now. -/
theorem extend {fresh : List SectorId} (h : map.IsPartition parts)
    (htakes : map.Takes fresh map') (hself : (parts' o).Perm (parts o ++ fresh))
    (hothers : ∀ o', o' ≠ o → (parts' o').Perm (parts o')) : map'.IsPartition parts' := by
  -- one owner has the new sectors in addition, and nobody had them before
  have hmem : ∀ o' s, s ∈ parts' o' ↔ s ∈ parts o' ∨ o' = o ∧ s ∈ fresh := by
    intro o' s
    by_cases heq : o' = o
    · subst heq
      simp [hself.mem_iff]
    · simp [(hothers o' heq).mem_iff, heq]
  refine ⟨?_, ?_, ?_⟩
  · intro o'
    by_cases heq : o' = o
    · subst heq
      rw [hself.nodup_iff, List.nodup_append]
      refine ⟨h.nodup o', htakes.nodup, ?_⟩
      rintro s hs t ht rfl
      exact h.notMem_of_takes htakes ht hs
    · rw [(hothers o' heq).nodup_iff]
      exact h.nodup o'
  · intro o₁ o₂ s h₁ h₂
    rw [hmem] at h₁ h₂
    rcases h₁ with h₁ | ⟨rfl, h₁⟩ <;> rcases h₂ with h₂ | ⟨rfl, h₂⟩
    · exact h.owner_eq h₁ h₂
    · exact absurd h₁ (h.notMem_of_takes htakes h₂)
    · exact absurd h₂ (h.notMem_of_takes htakes h₁)
    · rfl
  · intro i
    rw [htakes.mem_iff, h.mem_iff]
    constructor
    · rintro (⟨o', s, hs, hsi⟩ | ⟨s, hs, hsi⟩)
      · exact ⟨o', s, (hmem o' s).2 (.inl hs), hsi⟩
      · exact ⟨o, s, (hmem o s).2 (.inr ⟨rfl, hs⟩), hsi⟩
    · rintro ⟨o', s, hs, hsi⟩
      rcases (hmem o' s).1 hs with hs | ⟨-, hs⟩
      · exact .inl ⟨o', s, hs, hsi⟩
      · exact .inr ⟨s, hs, hsi⟩

/-- One owner passes sectors on to another. -/
theorem move {q : ι} {moved : List SectorId} (h : map.IsPartition parts) (hne : o ≠ q)
    (hfrom : (parts o).Perm (parts' o ++ moved)) (hto : (parts' q).Perm (parts q ++ moved))
    (hothers : ∀ o₁, o₁ ≠ o → o₁ ≠ q → (parts' o₁).Perm (parts o₁)) :
    map.IsPartition parts' := by
  have hnodup := hfrom.nodup_iff.1 (h.nodup o)
  rw [List.nodup_append] at hnodup
  -- a sector has the owner that it had, unless it was moved from `o` to `q`
  have howner : ∀ o₁ s, s ∈ parts' o₁ → ∃ o₂, s ∈ parts o₂ ∧
      (o₁ = o₂ ∧ (o₁ = o → s ∉ moved) ∨ o₁ = q ∧ o₂ = o ∧ s ∈ moved) := by
    intro o₁ s hs
    by_cases ho : o₁ = o
    · refine ⟨o, hfrom.mem_iff.2 (List.mem_append_left _ (ho ▸ hs)), .inl ⟨ho, fun _ hmem => ?_⟩⟩
      exact hnodup.2.2 s (ho ▸ hs) s hmem rfl
    by_cases hq : o₁ = q
    · subst hq
      rcases List.mem_append.1 (hto.mem_iff.1 hs) with hs | hs
      · exact ⟨o₁, hs, .inl ⟨rfl, fun heq => absurd heq ho⟩⟩
      · exact ⟨o, hfrom.mem_iff.2 (List.mem_append_right _ hs), .inr ⟨rfl, rfl, hs⟩⟩
    · exact ⟨o₁, (hothers o₁ ho hq).mem_iff.1 hs, .inl ⟨rfl, fun heq => absurd heq ho⟩⟩
  refine ⟨?_, ?_, ?_⟩
  · intro o₁
    by_cases ho : o₁ = o
    · exact ho ▸ hnodup.1
    by_cases hq : o₁ = q
    · subst hq
      rw [hto.nodup_iff, List.nodup_append]
      refine ⟨h.nodup o₁, hnodup.2.1, ?_⟩
      rintro s hs t ht rfl
      exact hne (h.owner_eq (hfrom.mem_iff.2 (List.mem_append_right _ ht)) hs)
    · exact (hothers o₁ ho hq).nodup_iff.2 (h.nodup o₁)
  · intro o₁ o₂ s h₁ h₂
    obtain ⟨p₁, hp₁, hcase₁⟩ := howner o₁ s h₁
    obtain ⟨p₂, hp₂, hcase₂⟩ := howner o₂ s h₂
    have heq := h.owner_eq hp₁ hp₂
    -- two owners of one sector would be `o` and `q`, of which only one has it
    rcases hcase₁ with ⟨rfl, hout₁⟩ | ⟨rfl, rfl, hmoved₁⟩ <;>
      rcases hcase₂ with ⟨rfl, hout₂⟩ | ⟨rfl, rfl, hmoved₂⟩
    · exact heq
    · exact absurd hmoved₂ (hout₁ heq)
    · exact absurd hmoved₁ (hout₂ heq.symm)
    · rfl
  · intro i
    rw [h.mem_iff]
    constructor
    · rintro ⟨o₁, s, hs, hsi⟩
      by_cases ho : o₁ = o
      · subst ho
        rcases List.mem_append.1 (hfrom.mem_iff.1 hs) with hs | hs
        · exact ⟨o₁, s, hs, hsi⟩
        · exact ⟨q, s, hto.mem_iff.2 (List.mem_append_right _ hs), hsi⟩
      by_cases hq : o₁ = q
      · subst hq
        exact ⟨o₁, s, hto.mem_iff.2 (List.mem_append_left _ hs), hsi⟩
      · exact ⟨o₁, s, (hothers o₁ ho hq).mem_iff.2 hs, hsi⟩
    · rintro ⟨o₁, s, hs, hsi⟩
      obtain ⟨o₂, hs₂, -⟩ := howner o₁ s hs
      exact ⟨o₂, s, hs₂, hsi⟩

/-- Nobody owns a sector of a map of free sectors. -/
theorem free (size : Nat) : (FreeMap.free size).IsPartition fun _ : ι => [] := by
  refine ⟨fun _ => List.nodup_nil, nofun, ?_⟩
  intro i
  rw [FreeMap.mem_iff, isTaken_free]
  simp

/-- An owner without sectors gets its first ones. -/
theorem update [DecidableEq ι] {fresh sectors : List SectorId} (h : map.IsPartition parts)
    (htakes : map.Takes fresh map') (hnone : parts o = []) (hfresh : sectors.Perm fresh) :
    map'.IsPartition (Function.update parts o sectors) := by
  refine h.extend (o := o) htakes ?_ ?_
  · rw [Function.update_self, hnone, List.nil_append]
    exact hfresh
  · intro o' ho'
    rw [Function.update_of_ne ho']

/-- One owner gives back all sectors that it has. -/
theorem vacate (h : map.IsPartition parts) (hback : map.GivesBack (parts o) map')
    (hself : parts' o = []) (hothers : ∀ o', o' ≠ o → (parts' o').Perm (parts o')) :
    map'.IsPartition parts' := by
  have hne : ∀ {o' s}, s ∈ parts' o' → o' ≠ o := by
    rintro o' s hs rfl
    simp [hself] at hs
  refine ⟨?_, ?_, ?_⟩
  · intro o'
    by_cases heq : o' = o
    · rw [heq, hself]
      exact List.nodup_nil
    · exact (hothers o' heq).nodup_iff.2 (h.nodup o')
  · intro o₁ o₂ s h₁ h₂
    exact h.owner_eq ((hothers o₁ (hne h₁)).mem_iff.1 h₁) ((hothers o₂ (hne h₂)).mem_iff.1 h₂)
  · intro i
    rw [hback.mem_iff, h.mem_iff]
    constructor
    · rintro ⟨⟨o', s, hs, hsi⟩, hleft⟩
      have heq : o' ≠ o := by
        rintro rfl
        exact hleft s hs hsi
      exact ⟨o', s, (hothers o' heq).mem_iff.2 hs, hsi⟩
    · rintro ⟨o', s, hs, hsi⟩
      have hs' := (hothers o' (hne hs)).mem_iff.1 hs
      refine ⟨⟨o', s, hs', hsi⟩, ?_⟩
      intro t ht hti
      -- a sector of another owner is none of those that were given back
      have hst : t = s := UInt32.toNat_inj.1 (hti.trans hsi.symm)
      exact hne hs (h.owner_eq hs' (hst ▸ ht))

end IsPartition

end SectorStore.FreeMap
