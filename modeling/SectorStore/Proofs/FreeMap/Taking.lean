import Mathlib.Algebra.GroupWithZero.Nat
import Mathlib.Data.Finset.Card
import Mathlib.Data.Finset.Range
import SectorStore.FreeMap.Basic

/-!
# Taking and giving back sectors of a free map

The operations of a free map, told by the set of taken sectors. `Takes map sectors map'` says that
`map'` is `map` with the given free sectors taken, and that these are the lowest free ones in
ascending order; it composes (`Takes.append`), depends on nothing but the number of the sectors
(`Takes.eq_of_length_eq`), and is what `take?` and `takeMany?` give.
`GivesBack map sectors map'` is the same for sectors that become free.

* `numFree_add_card_taken`: the free and the taken sectors make up the map;
* `takeMany?_eq_none_iff`: a request for sectors is refused exactly if there are fewer, and
  otherwise met by the lowest free ones (`exists_takeMany?`);
* `exists_releaseAll`: sectors that are taken and distinct can be given back.
-/

namespace SectorStore.FreeMap

variable {map map' map'' : FreeMap}

/-! ## Counting -/

/-- The numbers of the taken sectors. -/
def taken (map : FreeMap) : Finset Nat :=
  (Finset.range map.size).filter (· ∈ map)

theorem lt_size_of_mem {i : Nat} (h : i ∈ map) : i < map.size :=
  lt_size_of_isTaken h

@[simp]
theorem mem_taken {i : Nat} : i ∈ map.taken ↔ i ∈ map := by
  simp only [taken, Finset.mem_filter, Finset.mem_range, and_iff_right_iff_imp]
  exact lt_size_of_mem

/-- The number of marks that are set is the number of places at which one is. -/
theorem count_true_eq_card (marks : List Bool) :
    marks.count true = ((Finset.range marks.length).filter (marks.getD · false = true)).card := by
  induction marks using List.reverseRecOn with
  | nil => rfl
  | append_singleton marks mark ih =>
    have hfront : (Finset.range marks.length).filter ((marks ++ [mark]).getD · false = true) =
        (Finset.range marks.length).filter (marks.getD · false = true) := by
      apply Finset.filter_congr
      intro i hi
      rw [Finset.mem_range] at hi
      simp [List.getD_eq_getElem?_getD, List.getElem?_append_left hi]
    have hlast : (marks ++ [mark]).getD marks.length false = mark := by
      simp [List.getD_eq_getElem?_getD]
    rw [List.count_append, ih, List.length_append, List.length_singleton, Finset.range_add_one,
      Finset.filter_insert, hfront, hlast]
    cases mark with
    | false => simp
    | true => rw [if_pos rfl, Finset.card_insert_of_notMem (by simp)]; rfl

/-- The free and the taken sectors make up the map. -/
theorem numFree_add_card_taken (map : FreeMap) : map.numFree + map.taken.card = map.size := by
  have hcard : map.marks.count true = map.taken.card := by
    rw [← Array.count_toList, count_true_eq_card]
    congr 1
    ext i
    rw [mem_taken, Finset.mem_filter, Finset.mem_range, mem_iff, isTaken]
    have hget : map.marks.toList.getD i false = map.marks.getD i false := by
      simp [List.getD_eq_getElem?_getD, Array.getD_eq_getD_getElem?]
    rw [hget, and_iff_right_iff_imp]
    intro h
    by_contra hi
    simp only [Array.length_toList] at hi
    rw [Array.getD_eq_getD_getElem?, Array.getElem?_eq_none (by omega)] at h
    simp at h
  have hle : map.taken.card ≤ map.size :=
    (Finset.card_filter_le _ _).trans_eq (Finset.card_range _)
  rw [numFree, hcard]
  omega

/-- Setting a mark takes the sector or frees it, and leaves all others. -/
theorem mem_set {i j : Nat} {mark : Bool} {h : i < map.size} :
    j ∈ map.set i mark h ↔ if j = i then mark = true else j ∈ map := by
  rw [mem_iff, isTaken_set]
  split <;> rfl

/-- If some free sectors are taken in a map, it has as many free ones less. -/
theorem numFree_add_length_of_mem_iff {sectors : List SectorId} (hsize : map'.size = map.size)
    (hnodup : sectors.Nodup) (hfree : ∀ s ∈ sectors, s.toNat ∉ map)
    (hmem : ∀ i, i ∈ map' ↔ i ∈ map ∨ ∃ s ∈ sectors, s.toNat = i) :
    map'.numFree + sectors.length = map.numFree := by
  have hdisjoint : Disjoint map.taken (sectors.map UInt32.toNat).toFinset := by
    rw [Finset.disjoint_left]
    intro i hi hi'
    simp only [List.mem_toFinset, List.mem_map] at hi'
    obtain ⟨s, hs, rfl⟩ := hi'
    exact hfree s hs (mem_taken.1 hi)
  have htaken : map'.taken = map.taken ∪ (sectors.map UInt32.toNat).toFinset := by
    ext i
    simp [hmem]
  have hlength : (sectors.map UInt32.toNat).toFinset.card = sectors.length := by
    rw [List.toFinset_card_of_nodup, List.length_map]
    exact hnodup.map fun _ _ heq => UInt32.toNat_inj.1 heq
  have hcard := map.numFree_add_card_taken
  have hcard' := map'.numFree_add_card_taken
  rw [htaken, Finset.card_union_of_disjoint hdisjoint, hlength, hsize] at hcard'
  omega

/-! ## Taking -/

/-- The lowest free sectors are taken, in ascending order, and nothing else changes. -/
structure Takes (map : FreeMap) (sectors : List SectorId) (map' : FreeMap) : Prop where
  /-- The map covers the same sectors. -/
  size_eq : map'.size = map.size
  /-- The sectors are sectors of the map. -/
  lt_size : ∀ s ∈ sectors, s.toNat < map.size
  /-- The sectors were free. -/
  free : ∀ s ∈ sectors, s.toNat ∉ map
  /-- The sectors are taken in ascending order. -/
  ascending : sectors.Pairwise fun s t => s.toNat < t.toNat
  /-- No free sector before one of them is left out. -/
  lowest : ∀ s ∈ sectors, ∀ i < s.toNat, i ∈ map ∨ ∃ t ∈ sectors, t.toNat = i
  /-- The sectors are taken, and those that were taken before. -/
  mem_iff : ∀ i, i ∈ map' ↔ i ∈ map ∨ ∃ s ∈ sectors, s.toNat = i

namespace Takes

variable {sectors others : List SectorId}

/-- Taking no sector leaves the map as it is. -/
theorem nil (map : FreeMap) : map.Takes [] map where
  size_eq := rfl
  lt_size := by simp
  free := by simp
  ascending := List.Pairwise.nil
  lowest := by simp
  mem_iff := by simp

/-- Sectors that are taken in ascending order are distinct. -/
theorem nodup (h : map.Takes sectors map') : sectors.Nodup :=
  h.ascending.imp fun hlt heq => by simp [heq] at hlt

/-- Taking some sectors and then others takes the lowest of all. -/
theorem append (h : map.Takes sectors map') (h' : map'.Takes others map'') :
    map.Takes (sectors ++ others) map'' where
  size_eq := h'.size_eq.trans h.size_eq
  lt_size := by
    intro s hs
    rcases List.mem_append.1 hs with hs | hs
    · exact h.lt_size s hs
    · exact h.size_eq ▸ h'.lt_size s hs
  free := by
    intro s hs
    rcases List.mem_append.1 hs with hs | hs
    · exact h.free s hs
    · exact fun hmem => h'.free s hs ((h.mem_iff _).2 (.inl hmem))
  ascending := by
    refine List.pairwise_append.2 ⟨h.ascending, h'.ascending, ?_⟩
    intro s hs t ht
    have htaken := h'.free t ht
    rw [h.mem_iff, not_or, not_exists] at htaken
    -- a later sector that is lower would have been taken by the first search
    by_contra hle
    rcases Nat.lt_or_eq_of_le (Nat.le_of_not_lt hle) with hlt | heq
    · rcases h.lowest s hs t.toNat hlt with hmem | ⟨u, hu, hut⟩
      · exact htaken.1 hmem
      · exact htaken.2 u ⟨hu, hut⟩
    · exact htaken.2 s ⟨hs, heq.symm⟩
  lowest := by
    intro s hs i hi
    rcases List.mem_append.1 hs with hs | hs
    · rcases h.lowest s hs i hi with hmem | ⟨t, ht, hti⟩
      · exact .inl hmem
      · exact .inr ⟨t, List.mem_append_left _ ht, hti⟩
    · rcases h'.lowest s hs i hi with hmem | ⟨t, ht, hti⟩
      · rcases (h.mem_iff i).1 hmem with hmem | ⟨t, ht, hti⟩
        · exact .inl hmem
        · exact .inr ⟨t, List.mem_append_left _ ht, hti⟩
      · exact .inr ⟨t, List.mem_append_right _ ht, hti⟩
  mem_iff := by
    intro i
    rw [h'.mem_iff, h.mem_iff, or_assoc]
    simp only [List.mem_append, or_and_right, exists_or]

/-- Each sector taken is one sector less that is free. -/
theorem numFree_add_length (h : map.Takes sectors map') :
    map'.numFree + sectors.length = map.numFree :=
  numFree_add_length_of_mem_iff h.size_eq h.nodup h.free h.mem_iff

/-- What comes of taking sectors is determined by the map and the sectors. -/
theorem map_eq (h : map.Takes sectors map') (h' : map.Takes sectors map'') : map' = map'' := by
  refine ext_isTaken (h.size_eq.trans h'.size_eq.symm) fun i => ?_
  rw [Bool.eq_iff_iff, ← FreeMap.mem_iff, ← FreeMap.mem_iff, h.mem_iff, h'.mem_iff]

/-- A free sector that is lower than one of those taken is taken with it. -/
theorem mem_of_lt (h : map.Takes sectors map') {s t : SectorId} (hs : s ∈ sectors)
    (hlt : t.toNat < s.toNat) (hfree : t.toNat ∉ map) : t ∈ sectors := by
  rcases h.lowest s hs _ hlt with hmem | ⟨u, hu, heq⟩
  · exact absurd hmem hfree
  · exact UInt32.toNat_inj.1 heq ▸ hu

/-- Of two ways to take sectors of a map, the one that takes no fewer takes all of the other. -/
theorem subset_of_length_le (h : map.Takes sectors map') (h' : map.Takes others map'')
    (hle : sectors.length ≤ others.length) : sectors ⊆ others := by
  intro s hs
  by_contra hnot
  -- a sector that is left out is higher than all the others, so these are among the first ones
  have hsub : others ⊆ sectors := by
    intro t ht
    refine h.mem_of_lt hs ?_ (h'.free t ht)
    by_contra hge
    rcases Nat.lt_or_eq_of_le (Nat.le_of_not_lt hge) with hlt | heq
    · exact hnot (h'.mem_of_lt ht hlt (h.free s hs))
    · exact hnot (UInt32.toNat_inj.1 heq ▸ ht)
  have hnodup : (s :: others).Nodup := List.nodup_cons.2 ⟨hnot, h'.nodup⟩
  have hlength := (hnodup.subperm (List.cons_subset.2 ⟨hs, hsub⟩)).length_le
  rw [List.length_cons] at hlength
  omega

/-- The sectors that are taken from a map are determined by their number. -/
theorem eq_of_length_eq (h : map.Takes sectors map') (h' : map.Takes others map'')
    (hlength : sectors.length = others.length) : sectors = others ∧ map' = map'' := by
  have hmem : ∀ s, s ∈ sectors ↔ s ∈ others := fun s =>
    ⟨fun hs => h.subset_of_length_le h' (Nat.le_of_eq hlength) hs,
      fun hs => h'.subset_of_length_le h (Nat.le_of_eq hlength.symm) hs⟩
  have hperm : sectors.Perm others := (List.perm_ext_iff_of_nodup h.nodup h'.nodup).2 hmem
  -- in ascending order there is one way to list them
  have heq : sectors = others := by
    refine hperm.eq_of_pairwise ?_ h.ascending h'.ascending
    intro s t _ _ hst hts
    omega
  subst heq
  exact ⟨rfl, h.map_eq h'⟩

end Takes

/-- The first sector that is taken is the lowest free one. -/
theorem Takes.toNat_eq_firstFree {s : SectorId} {sectors : List SectorId}
    (h : map.Takes (s :: sectors) map') : s.toNat = map.firstFree := by
  have hself : s ∈ s :: sectors := List.mem_cons_self ..
  rcases Nat.lt_trichotomy s.toNat map.firstFree with hlt | heq | hgt
  · exact absurd (isTaken_of_lt_firstFree hlt) (h.free s hself)
  · exact heq
  · rcases h.lowest s hself _ hgt with hmem | ⟨t, ht, hfirst⟩
    · simp [FreeMap.mem_iff] at hmem
    -- no sector before the first one is taken with it
    · rcases List.mem_cons.1 ht with rfl | ht
      · exact hfirst
      · have hlater := (List.pairwise_cons.1 h.ascending).1 t ht
        omega

/-- Some sector of a map is free exactly if its lowest free number is a sector. -/
theorem numFree_eq_zero_iff : map.numFree = 0 ↔ map.size ≤ map.firstFree := by
  have hcard := map.numFree_add_card_taken
  constructor
  · intro hzero
    by_contra hlt
    have hsub : map.taken ⊆ (Finset.range map.size).erase map.firstFree := by
      intro i hi
      rw [mem_taken] at hi
      refine Finset.mem_erase.2 ⟨?_, Finset.mem_range.2 (lt_size_of_mem hi)⟩
      rintro rfl
      simp [FreeMap.mem_iff] at hi
    have hle := Finset.card_le_card hsub
    rw [Finset.card_erase_of_mem (by simpa using hlt), Finset.card_range] at hle
    omega
  · intro hle
    have hall : map.taken = Finset.range map.size := by
      ext i
      rw [mem_taken, Finset.mem_range]
      exact ⟨lt_size_of_mem, fun hi => isTaken_of_lt_firstFree (by omega)⟩
    rw [hall, Finset.card_range] at hcard
    omega

/-- No sector can be taken exactly if none is free. -/
theorem take?_eq_none_iff : map.take? = none ↔ map.numFree = 0 := by
  rw [numFree_eq_zero_iff, take?]
  split <;> simp <;> omega

/-- The sector that is handed out is the lowest free one. -/
theorem takes_of_take? {sector : SectorId} (hsize : map.size ≤ 2 ^ 32)
    (h : map.take? = some (sector, map')) : map.Takes [sector] map' := by
  rw [take?] at h
  split at h
  · next hlt =>
    simp only [Option.some.injEq, Prod.mk.injEq] at h
    obtain ⟨rfl, rfl⟩ := h
    have hnat : (UInt32.ofNat map.firstFree).toNat = map.firstFree :=
      UInt32.toNat_ofNat_of_lt (by rw [UInt32.size]; omega)
    constructor
    · rfl
    · simpa [hnat] using hlt
    · simp [hnat, FreeMap.mem_iff]
    · exact List.pairwise_singleton _ _
    · intro s hs i hi
      rw [List.mem_singleton.1 hs, hnat] at hi
      exact .inl (isTaken_of_lt_firstFree hi)
    · intro i
      simp only [mem_set, List.mem_singleton, exists_eq_left, hnat]
      split
      · next heq => simp [heq]
      · next hne => simp [Ne.symm hne]
  · cases h

/-- The sector that is taken is the only one that can be. -/
theorem take?_eq_of_takes {sector : SectorId} (hsize : map.size ≤ 2 ^ 32)
    (h : map.Takes [sector] map') : map.take? = some (sector, map') := by
  have hcount := h.numFree_add_length
  rcases htake : map.take? with _ | ⟨other, map₁⟩
  · rw [take?_eq_none_iff] at htake
    rw [List.length_singleton] at hcount
    omega
  · obtain ⟨hsector, rfl⟩ := h.eq_of_length_eq (takes_of_take? hsize htake) rfl
    rw [List.singleton_inj.1 hsector]

/-- The sectors that are handed out one after another are the lowest free ones. -/
theorem takes_of_takeMany? {count : Nat} {sectors : Vector SectorId count}
    (hsize : map.size ≤ 2 ^ 32) (h : map.takeMany? count = some (sectors, map')) :
    map.Takes sectors.toList map' := by
  induction count generalizing map' with
  | zero =>
    simp only [takeMany?, Option.some.injEq, Prod.mk.injEq] at h
    obtain ⟨rfl, rfl⟩ := h
    exact Takes.nil map
  | succ count ih =>
    simp only [takeMany?, bind, Option.bind_eq_some_iff, Prod.exists, pure, Option.some.injEq,
      Prod.mk.injEq] at h
    obtain ⟨front, map₁, hfront, sector, map₂, hsector, rfl, rfl⟩ := h
    have htakes := ih hfront
    rw [Vector.toList_push]
    exact htakes.append (takes_of_take? (htakes.size_eq ▸ hsize) hsector)

/-- Sectors are refused exactly if there are fewer free ones. -/
theorem takeMany?_eq_none_iff {count : Nat} (hsize : map.size ≤ 2 ^ 32) :
    map.takeMany? count = none ↔ map.numFree < count := by
  induction count with
  | zero => simp [takeMany?]
  | succ count ih =>
    rcases hfront : map.takeMany? count with _ | ⟨front, map₁⟩
    · have hlt := ih.1 hfront
      simp only [takeMany?, hfront]
      exact ⟨fun _ => by omega, fun _ => rfl⟩
    · have hle : ¬ map.numFree < count := fun hlt => by simp [ih.2 hlt] at hfront
      have htakes := takes_of_takeMany? hsize hfront
      have hcount := htakes.numFree_add_length
      rw [Vector.length_toList] at hcount
      have hlast : map.takeMany? (count + 1) = none ↔ map₁.take? = none := by
        simp only [takeMany?, hfront, bind, Option.bind_some]
        rcases map₁.take? with _ | ⟨sector, map₂⟩ <;> simp
      rw [hlast, take?_eq_none_iff]
      omega

/-- As many sectors as are free can be taken at once. -/
theorem exists_takeMany? {count : Nat} (hsize : map.size ≤ 2 ^ 32) (h : count ≤ map.numFree) :
    ∃ sectors map', map.takeMany? count = some (sectors, map') ∧
      map.Takes sectors.toList map' := by
  rcases htake : map.takeMany? count with _ | ⟨sectors, map'⟩
  · rw [takeMany?_eq_none_iff hsize] at htake
    omega
  · exact ⟨sectors, map', rfl, takes_of_takeMany? hsize htake⟩

/-- A sector can be taken as long as one is free. -/
theorem exists_take? (hsize : map.size ≤ 2 ^ 32) (h : 0 < map.numFree) :
    ∃ sector map', map.take? = some (sector, map') ∧ map.Takes [sector] map' := by
  rcases htake : map.take? with _ | ⟨sector, map'⟩
  · rw [take?_eq_none_iff] at htake
    omega
  · exact ⟨sector, map', rfl, takes_of_take? hsize htake⟩

/-! ## Giving back -/

/-- The sectors, which were taken, become free, and nothing else changes. -/
structure GivesBack (map : FreeMap) (sectors : List SectorId) (map' : FreeMap) : Prop where
  /-- The map covers the same sectors. -/
  size_eq : map'.size = map.size
  /-- The sectors that stay taken are those not given back. -/
  mem_iff : ∀ i, i ∈ map' ↔ i ∈ map ∧ ∀ s ∈ sectors, s.toNat ≠ i

/-- What comes of giving back sectors is determined by the map and the sectors. -/
theorem GivesBack.map_eq {sectors : List SectorId} (h : map.GivesBack sectors map')
    (h' : map.GivesBack sectors map'') : map' = map'' := by
  refine ext_isTaken (h.size_eq.trans h'.size_eq.symm) fun i => ?_
  rw [Bool.eq_iff_iff, ← FreeMap.mem_iff, ← FreeMap.mem_iff, h.mem_iff, h'.mem_iff]

/-- Sectors that are taken and then given back leave the map as it was. -/
theorem Takes.map_eq_of_givesBack {sectors : List SectorId} (h : map.Takes sectors map')
    (hback : map'.GivesBack sectors map'') : map'' = map := by
  refine ext_isTaken (hback.size_eq.trans h.size_eq) fun i => ?_
  rw [Bool.eq_iff_iff, ← FreeMap.mem_iff, ← FreeMap.mem_iff, hback.mem_iff, h.mem_iff]
  constructor
  · rintro ⟨hmem | ⟨s, hs, heq⟩, hkept⟩
    · exact hmem
    · exact absurd heq (hkept s hs)
  · rintro hmem
    refine ⟨.inl hmem, fun s hs heq => h.free s hs ?_⟩
    rwa [heq]

/-- Giving back some sectors and then others gives back all of them. -/
theorem GivesBack.append {sectors others : List SectorId} (h : map.GivesBack sectors map')
    (h' : map'.GivesBack others map'') : map.GivesBack (sectors ++ others) map'' where
  size_eq := h'.size_eq.trans h.size_eq
  mem_iff := by
    intro i
    rw [h'.mem_iff, h.mem_iff]
    simp only [List.mem_append, or_imp, forall_and, and_assoc]

/-- The order in which sectors are given back does not matter. -/
theorem GivesBack.perm {sectors others : List SectorId} (h : map.GivesBack sectors map')
    (hperm : sectors.Perm others) : map.GivesBack others map' where
  size_eq := h.size_eq
  mem_iff := by
    intro i
    simp only [h.mem_iff, hperm.mem_iff]

/-- Each sector given back is one sector more that is free. -/
theorem GivesBack.numFree_eq {sectors : List SectorId} (h : map.GivesBack sectors map')
    (hnodup : sectors.Nodup) (hmem : ∀ s ∈ sectors, s.toNat ∈ map) :
    map'.numFree = map.numFree + sectors.length := by
  have hfree : ∀ s ∈ sectors, s.toNat ∉ map' := fun s hs hmem' =>
    ((h.mem_iff _).1 hmem').2 s hs rfl
  -- the map before is the map after with the sectors taken
  have hback : ∀ i, i ∈ map ↔ i ∈ map' ∨ ∃ s ∈ sectors, s.toNat = i := by
    intro i
    rw [h.mem_iff]
    constructor
    · intro hi
      by_cases hgiven : ∃ s ∈ sectors, s.toNat = i
      · exact .inr hgiven
      · exact .inl ⟨hi, fun s hs heq => hgiven ⟨s, hs, heq⟩⟩
    · rintro (⟨hi, -⟩ | ⟨s, hs, rfl⟩)
      · exact hi
      · exact hmem s hs
  exact (numFree_add_length_of_mem_iff h.size_eq.symm hnodup hfree hback).symm

/-- A sector of the map can be marked as free. -/
theorem exists_clear {sector : SectorId} (h : sector.toNat < map.size) :
    ∃ map', map.clear sector = .ok map' ∧ map.GivesBack [sector] map' := by
  refine ⟨map.set sector.toNat false h, dif_pos h, rfl, ?_⟩
  intro i
  rw [mem_set]
  split
  · next heq => simp [heq]
  · next hne => simp [Ne.symm hne]

/-- A taken sector can be given back. -/
theorem exists_release {sector : SectorId} (h : sector.toNat ∈ map) :
    ∃ map', map.release sector = .ok map' ∧ map.GivesBack [sector] map' := by
  have hlt := lt_size_of_mem h
  obtain ⟨map', hclear, hback⟩ := exists_clear hlt
  refine ⟨map', ?_, hback⟩
  have htaken : map.isTaken sector.toNat = true := h
  rw [release, lookup_eq_ok hlt, htaken]
  exact hclear

/-- Different sectors that are taken can be given back one after another. -/
theorem exists_releaseAll {sectors : List SectorId} (hnodup : sectors.Nodup)
    (h : ∀ s ∈ sectors, s.toNat ∈ map) :
    ∃ map', map.releaseAll sectors = .ok map' ∧ map.GivesBack sectors map' := by
  induction sectors generalizing map with
  | nil => exact ⟨map, rfl, rfl, by simp⟩
  | cons s rest ih =>
    rw [List.nodup_cons] at hnodup
    obtain ⟨map₁, hrelease, hback⟩ := exists_release (h s (List.mem_cons_self ..))
    have hrest : ∀ t ∈ rest, t.toNat ∈ map₁ := by
      intro t ht
      refine (hback.mem_iff _).2 ⟨h t (List.mem_cons_of_mem _ ht), ?_⟩
      intro u hu heq
      rw [List.mem_singleton.1 hu, UInt32.toNat_inj] at heq
      exact hnodup.1 (heq ▸ ht)
    obtain ⟨map', hall, hback'⟩ := ih hnodup.2 hrest
    refine ⟨map', ?_, hback.append hback'⟩
    rw [releaseAll, List.foldlM_cons, hrelease]
    exact hall

/-- Giving back two lists of sectors is giving back the first and then the second. -/
theorem releaseAll_append (map : FreeMap) (sectors others : List SectorId) :
    map.releaseAll (sectors ++ others) = map.releaseAll sectors >>= (·.releaseAll others) :=
  List.foldlM_append

theorem releaseAll_singleton (map : FreeMap) (sector : SectorId) :
    map.releaseAll [sector] = map.release sector := by
  rw [releaseAll, List.foldlM_cons]
  cases map.release sector <;> rfl

end SectorStore.FreeMap
