import SectorStore.FileHeader.Listing
import SectorStore.Proofs.FileHeader.Allocation
import SectorStore.Proofs.Transfer.Both

/-!
# Files on two disks

Two disks may hold the same file, with other bytes behind its end. Taking sectors for a file writes
the same index sector to both disks, and the listing of the file is the same on both, as it shows no
byte behind the end.
-/

namespace SectorStore.FileHeader

variable {header : FileHeader} {map : FreeMap} {left right : Disk}

/-- Taking sectors gives the same answer on both disks, and leaves the same in the index sector, and
wherever the disks were the same before. -/
theorem yieldsBoth_allocate (hsize : map.size ≤ 2 ^ 32) (hleft : map.size ≤ left.count)
    (hright : map.size ≤ right.count) (size : Nat) :
    (header.allocate map size).run.YieldsBoth left right fun answer left' right' =>
      ∀ header' map', answer = .ok (header', map') →
        (∀ s, right.get s = left.get s → right'.get s = left'.get s) ∧
          ∀ s ∈ header'.indexSectors, right'.get s = left'.get s := by
  have hrefused : ∀ cause,
      (throw cause : ExceptT Refusal Transfer (FileHeader × FreeMap)).run.YieldsBoth left right
      fun answer left' right' => ∀ header' map', answer = .ok (header', map') →
        (∀ s, right.get s = left.get s → right'.get s = left'.get s) ∧
          ∀ s ∈ header'.indexSectors, right'.get s = left'.get s :=
    fun cause => Transfer.yieldsBoth_pure.2 fun _ _ hanswer => by cases hanswer
  simp only [allocate]
  split
  · exact hrefused _
  split
  · rcases map.takeMany? (sectorsFor size) with _ | ⟨sectors, map'⟩
    · exact hrefused _
    · refine Transfer.yieldsBoth_pure.2 ?_
      rintro _ _ ⟨⟩
      exact ⟨fun _ => id, fun _ hs => absurd hs List.not_mem_nil⟩
  · rcases htake : map.takeMany? numDirect with _ | ⟨sectors, map₁⟩
    · exact hrefused _
    dsimp only
    rcases htake₁ : map₁.take? with _ | ⟨index, map₂⟩
    · exact hrefused _
    dsimp only
    rcases map₂.takeMany? (sectorsFor size - numDirect) with _ | ⟨others, map₃⟩
    · exact hrefused _
    dsimp only
    -- the index sector was free, so it is on both disks
    have htakes := FreeMap.takes_of_takeMany? hsize htake
    have hindex := (FreeMap.takes_of_take? (htakes.size_eq ▸ hsize) htake₁).lt_size index
      (List.mem_singleton_self _)
    rw [htakes.size_eq] at hindex
    let table := SectorTable.toSector others.toList
    have hstore : (Transfer.store index table).YieldsBoth left right fun _ left' right' =>
        left' = left.put index table ∧ right' = right.put index table :=
      Transfer.yieldsBoth_store (Nat.lt_of_lt_of_le hindex hleft)
        (Nat.lt_of_lt_of_le hindex hright) ⟨rfl, rfl⟩
    refine hstore.run_lift_bind ?_
    rintro - _ _ ⟨rfl, rfl⟩
    refine Transfer.yieldsBoth_pure.2 ?_
    rintro _ _ ⟨⟩
    constructor
    · intro s hs
      rw [Disk.get_put, Disk.get_put, hs]
    · intro s hs
      obtain rfl := List.mem_singleton.1 hs
      rw [Disk.get_put_self, Disk.get_put_self]

/-! ## Listing a file -/

theorem yieldsBoth_contentLines {sectors : List SectorId} {remaining : Nat}
    (hleft : ∀ s ∈ sectors, s.toNat < left.count) (hright : ∀ s ∈ sectors, s.toNat < right.count)
    (hsame : ∀ k (hk : k < sectors.length),
      (right.get sectors[k]).slice 0 (min (remaining - k * sectorSize) sectorSize) =
        (left.get sectors[k]).slice 0 (min (remaining - k * sectorSize) sectorSize)) :
    (contentLines sectors remaining).YieldsBoth left right fun _ left' right' =>
      left' = left ∧ right' = right := by
  induction sectors generalizing remaining with
  | nil => exact Transfer.yieldsBoth_pure.2 ⟨rfl, rfl⟩
  | cons s others ih =>
    -- the first sector gives a line; what remains of the bytes is for the others
    have hline := hsame 0 (Nat.succ_pos _)
    rw [Nat.zero_mul, Nat.sub_zero] at hline
    rw [contentLines]
    refine Transfer.yieldsBoth_load (hleft s (List.mem_cons_self ..))
      (hright s (List.mem_cons_self ..)) ?_ ?_
    · exact congrArg (fun bytes => contentLines others (remaining - min remaining sectorSize) >>=
        fun rest => pure (ByteListing.ofBytes bytes ++ "\n" ++ rest)) hline
    refine (ih (fun t ht => hleft t (List.mem_cons_of_mem _ ht))
      (fun t ht => hright t (List.mem_cons_of_mem _ ht)) ?_).bind_of_unchanged
      fun _ => Transfer.yieldsBoth_pure.2 ⟨rfl, rfl⟩
    intro k hk
    have hrest := hsame (k + 1) (Nat.succ_lt_succ hk)
    have hsub : remaining - min remaining sectorSize - k * sectorSize =
        remaining - (k + 1) * sectorSize := by
      rw [sectorSize_eq]
      omega
    rw [hsub]
    exact hrest

/-- What a block of a file shows in the listing is a part of the contents. -/
theorem slice_dataSectors (header : FileHeader) {k : Nat}
    (hk : k < (header.dataSectors left).length) :
    (left.get (header.dataSectors left)[k]).slice 0
        (min (header.length - k * sectorSize) sectorSize) =
      (header.contents left).slice (k * sectorSize)
        (min (header.length - k * sectorSize) sectorSize) := by
  have hsector : (header.dataSectors left)[k] = header.sectorOf left k := by
    rw [sectorOf, List.getD_eq_getElem?_getD, List.getElem?_eq_getElem hk, Option.getD_some]
  have hzero : k * sectorSize % sectorSize = 0 := Nat.mul_mod_left _ _
  have hstop : k * sectorSize + min (header.length - k * sectorSize) sectorSize ≤
      (k + 1) * sectorSize := by
    rw [Nat.succ_mul]
    omega
  have hslice := header.slice_sectorOf left (Nat.le_refl (k * sectorSize)) hstop
  rw [hzero] at hslice
  rw [hsector, hslice, slice_contents]
  congr 1
  omega

/-- A file with the same sectors and the same contents on two disks has the same listing. -/
theorem Placed.yieldsBoth_listing (hleft : header.Placed left) (hright : header.Placed right)
    (hdata : header.dataSectors right = header.dataSectors left)
    (hcontents : header.contents right = header.contents left) :
    header.listing.YieldsBoth left right fun _ left' right' => left' = left ∧ right' = right := by
  rw [listing]
  refine .bind_of_looks (hleft.inside.yields_sectors.2 ⟨rfl, rfl⟩)
    (hright.inside.yields_sectors.2 ⟨hdata, rfl⟩) ?_
  refine (yieldsBoth_contentLines (fun s hs => hleft.lt_count s (header.dataSectors_subset _ hs))
    (fun s hs => hright.lt_count s (header.dataSectors_subset _ (hdata ▸ hs))) ?_).bind_of_unchanged
    fun _ => Transfer.yieldsBoth_pure.2 ⟨rfl, rfl⟩
  intro k hk
  rw [slice_dataSectors header hk, ← hcontents, ← slice_dataSectors header (hdata ▸ hk)]
  simp only [hdata]

end SectorStore.FileHeader
