import SectorStore.Proofs.FreeMap.Taking

/-!
# What keeps sectors from being given back

Sectors are given back one after another, and each of them has to be a taken sector of the map when
its turn comes. As a sector is free once it was given back, this finds out a sector that is listed
twice. `releaseAll_eq_ok_iff` and `releaseAll_eq_error_iff` tell the outcome for every list of
sectors: either all of them can be given back, or the first one that cannot is named.
-/

namespace SectorStore.FreeMap

variable {map map' : FreeMap} {sectors earlier later : List SectorId} {s : SectorId} {cause : Fault}

/-- The sectors are different sectors that are taken in the map. -/
structure CanRelease (map : FreeMap) (sectors : List SectorId) : Prop where
  /-- No sector is listed twice. -/
  nodup : sectors.Nodup
  /-- The sectors are taken, so they are sectors of the map. -/
  mem : ∀ s ∈ sectors, s.toNat ∈ map

/-- A sector cannot be given back after the `earlier` ones: it is beyond the map, or else it is
free, or was among the earlier ones. -/
inductive Rejects (map : FreeMap) (earlier : List SectorId) (s : SectorId) : Fault → Prop
  /-- The map has no such sector. -/
  | beyond (hsize : map.size ≤ s.toNat) : Rejects map earlier s (.outOfBitmapRange s.toNat)
  /-- The sector was not taken. -/
  | free (hsize : s.toNat < map.size) (hfree : s.toNat ∉ map) :
      Rejects map earlier s (.notAllocated s.toNat)
  /-- The sector was given back before. -/
  | repeated (hsize : s.toNat < map.size) (hearlier : s ∈ earlier) :
      Rejects map earlier s (.notAllocated s.toNat)

/-- The fault is that of the first sector in the list that cannot be given back. -/
def StopsAt (map : FreeMap) (sectors : List SectorId) (cause : Fault) : Prop :=
  ∃ earlier s later, sectors = earlier ++ s :: later ∧ map.CanRelease earlier ∧
    map.Rejects earlier s cause

/-- The wording of the fault names the sector, and tells whether it is beyond the map or not
taken. -/
theorem Rejects.message?_eq (h : map.Rejects earlier s cause) :
    cause.message? = some (if s.toNat < map.size then
      s!"sector {s.toNat} is not marked as allocated"
      else s!"sector {s.toNat} out of bitmap range") := by
  cases h with
  | beyond hsize =>
    rw [if_neg (Nat.not_lt.2 hsize)]
    rfl
  | free hsize _ =>
    rw [if_pos hsize]
    rfl
  | repeated hsize _ =>
    rw [if_pos hsize]
    rfl

theorem canRelease_nil (map : FreeMap) : map.CanRelease [] :=
  ⟨List.nodup_nil, fun _ hs => absurd hs List.not_mem_nil⟩

/-- The next sector can be given back as well, or it is the first that cannot. -/
theorem CanRelease.append_or_rejects (h : map.CanRelease earlier) (s : SectorId) :
    map.CanRelease (earlier ++ [s]) ∨ ∃ cause, map.Rejects earlier s cause := by
  rcases Nat.lt_or_ge s.toNat map.size with hsize | hsize
  · by_cases hfree : s.toNat ∈ map
    · by_cases hearlier : s ∈ earlier
      · exact .inr ⟨_, .repeated hsize hearlier⟩
      · refine .inl ⟨List.nodup_append.2 ⟨h.nodup, List.nodup_singleton s, ?_⟩, ?_⟩
        · rintro t ht u hu rfl
          exact hearlier (List.mem_singleton.1 hu ▸ ht)
        · intro t ht
          rcases List.mem_append.1 ht with ht | ht
          · exact h.mem t ht
          · exact List.mem_singleton.1 ht ▸ hfree
    · exact .inr ⟨_, .free hsize hfree⟩
  · exact .inr ⟨_, .beyond hsize⟩

/-- Of any list, all sectors can be given back, or there is a first one that cannot. -/
theorem canRelease_or_stopsAt (map : FreeMap) (sectors : List SectorId) :
    map.CanRelease sectors ∨ ∃ cause, map.StopsAt sectors cause := by
  -- from the end of the list: the first that cannot is found before the last one is looked at
  induction sectors using List.reverseRecOn with
  | nil => exact .inl map.canRelease_nil
  | append_singleton front s ih =>
    rcases ih with hfront | ⟨cause, earlier, t, later, rfl, hearlier, hrejects⟩
    · rcases hfront.append_or_rejects s with hall | ⟨cause, hrejects⟩
      · exact .inl hall
      · exact .inr ⟨cause, front, s, [], rfl, hfront, hrejects⟩
    · refine .inr ⟨cause, earlier, t, later ++ [s], ?_, hearlier, hrejects⟩
      rw [List.append_assoc, List.cons_append]

theorem CanRelease.exists_releaseAll (h : map.CanRelease sectors) :
    ∃ map', map.releaseAll sectors = .ok map' ∧ map.GivesBack sectors map' :=
  FreeMap.exists_releaseAll h.nodup h.mem

/-- After the earlier sectors were given back, the one that is rejected is no taken sector of the
map. -/
theorem Rejects.release_eq_error (h : map.Rejects earlier s cause)
    (hback : map.GivesBack earlier map') : map'.release s = .error cause := by
  have hfree : s.toNat < map.size → s.toNat ∉ map' →
      map'.release s = .error (.notAllocated s.toNat) := by
    intro hsize hmem
    have hmark : map'.isTaken s.toNat = false := Bool.eq_false_iff.2 hmem
    rw [release, lookup_eq_ok (hback.size_eq ▸ hsize), hmark]
    rfl
  cases h with
  | beyond hsize =>
    have hnone : map'.lookup s = .error (.outOfBitmapRange s.toNat) :=
      if_neg (Nat.not_lt.2 (hback.size_eq ▸ hsize))
    rw [release, hnone]
    rfl
  | free hsize hnot => exact hfree hsize fun hmem => hnot ((hback.mem_iff _).1 hmem).1
  | repeated hsize hearlier =>
    exact hfree hsize fun hmem => ((hback.mem_iff _).1 hmem).2 s hearlier rfl

theorem StopsAt.releaseAll_eq_error (h : map.StopsAt sectors cause) :
    map.releaseAll sectors = .error cause := by
  obtain ⟨earlier, s, later, rfl, hearlier, hrejects⟩ := h
  obtain ⟨map₁, hall, hback⟩ := hearlier.exists_releaseAll
  rw [releaseAll_append, hall]
  show map₁.releaseAll (s :: later) = .error cause
  rw [releaseAll, List.foldlM_cons, hrejects.release_eq_error hback]
  rfl

/-- Sectors can be given back exactly if they are different taken sectors, and then just these
become free. -/
theorem releaseAll_eq_ok_iff :
    map.releaseAll sectors = .ok map' ↔ map.CanRelease sectors ∧ map.GivesBack sectors map' := by
  constructor
  · intro hok
    rcases map.canRelease_or_stopsAt sectors with hall | ⟨cause, hstops⟩
    · obtain ⟨map₁, hok₁, hback⟩ := hall.exists_releaseAll
      rw [hok, Except.ok.injEq] at hok₁
      exact ⟨hall, hok₁ ▸ hback⟩
    · rw [hstops.releaseAll_eq_error] at hok
      cases hok
  · rintro ⟨hall, hback⟩
    obtain ⟨map₁, hok₁, hback₁⟩ := hall.exists_releaseAll
    rw [hok₁, hback₁.map_eq hback]

/-- Where sectors cannot be given back, the fault tells the first one of them and why. -/
theorem releaseAll_eq_error_iff :
    map.releaseAll sectors = .error cause ↔ map.StopsAt sectors cause := by
  refine ⟨fun herror => ?_, StopsAt.releaseAll_eq_error⟩
  rcases map.canRelease_or_stopsAt sectors with hall | ⟨cause₁, hstops⟩
  · obtain ⟨map₁, hok, -⟩ := hall.exists_releaseAll
    rw [herror] at hok
    cases hok
  · have hsame := hstops.releaseAll_eq_error
    rw [herror, Except.error.injEq] at hsame
    exact hsame ▸ hstops

end SectorStore.FreeMap
