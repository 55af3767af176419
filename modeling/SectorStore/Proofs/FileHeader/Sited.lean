import SectorStore.Proofs.FileHeader.Allocation

/-!
# Files that may use a sector twice

A header that is only `Sited` on a disk may list a sector twice. Its bytes are no longer a byte
string that is read as it was written, but reading it and writing it run through, and writing
touches none but the sectors that are listed (`Sited.yields_writeAt`). So the header can grow into
any sectors of the disk (`Grown.sited`).
-/

namespace SectorStore.FileHeader

variable {header header' : FileHeader} {disk : Disk} {span : Span} {map map' : FreeMap}

theorem Sited.yields_readBlocks (h : header.Sited disk) (hstop : span.stop ≤ header.length)
    (hspan : span.start < span.stop) {count block : Nat}
    (hblocks : block + count ≤ sectorsFor span.stop) :
    (header.readBlocks span count block).Yields disk fun _ disk' => disk' = disk := by
  induction count generalizing block with
  | zero =>
    rw [readBlocks, Transfer.yields_pure]
  | succ count ih =>
    have hblock : block < sectorsFor span.stop := by omega
    have hlt := start_within_lt hstop hspan hblock
    rw [readBlocks]
    simp only [Transfer.yields_bind, h.yields_sectorAt hlt, Transfer.yields_pure]
    rw [Transfer.yields_load (h.sectorOf_lt (div_lt_sectorCount hlt))]
    exact ih (by omega)

/-- A sited file can be read. -/
theorem Sited.yields_readBytes (h : header.Sited disk) {offset count : Nat}
    (hsum : offset + count < sumLimit) :
    (header.readBytes offset count).Yields disk fun _ disk' => disk' = disk := by
  rw [readBytes_eq hsum rfl]
  rcases Nat.lt_or_ge offset (min (offset + count) header.length) with hspan | hempty
  · exact h.yields_readBlocks (Nat.min_le_right _ _) hspan
      (Nat.le_of_eq (Span.firstBlock_add_numBlocks hspan))
  · rw [Span.numBlocks_of_stop_le hempty, readBlocks, Transfer.yields_pure]

theorem Sited.yields_writeBlocks (h : header.Sited disk) (hstop : span.stop ≤ header.length)
    (hspan : span.start < span.stop) {count block : Nat}
    (hblocks : block + count ≤ sectorsFor span.stop) (data : Bytes) :
    (header.writeBlocks span count block data).Yields disk fun _ disk' =>
      disk.SameOff (header.dataSectors disk) disk' := by
  induction count generalizing block data disk with
  | zero =>
    rw [writeBlocks, Transfer.yields_pure]
    exact .refl _ _
  | succ count ih =>
    have hblock : block < sectorsFor span.stop := by omega
    have hlt := start_within_lt hstop hspan hblock
    have hsector := div_lt_sectorCount hlt
    have hmem := h.sectorOf_mem hsector
    -- whatever is written to the block, the rest of the span is written afterwards
    have hrest : ∀ piece : Sector, (do
        Transfer.store (header.sectorOf disk ((span.within block).start / sectorSize)) piece
        header.writeBlocks span count (block + 1)
          (data.drop (span.within block).count)).Yields disk fun _ disk' =>
            disk.SameOff (header.dataSectors disk) disk' := by
      intro piece
      rw [Transfer.yields_bind, Transfer.yields_store (h.sectorOf_lt hsector)]
      have hput := (Disk.SameOff.put disk _ piece).mono
        (List.cons_subset.2 ⟨hmem, List.nil_subset _⟩)
      have hindex : ∀ s ∈ header.indexSectors, (disk.put (header.sectorOf disk
          ((span.within block).start / sectorSize)) piece).get s = disk.get s :=
        fun s hs => hput.2 s (h.notMem_dataSectors s hs)
      refine (ih (h.congr hput.1 hindex) (by omega) _).mono ?_
      rintro - disk' hoff
      rw [dataSectors_congr hindex] at hoff
      exact (hput.trans hoff).mono (by simp)
    rw [writeBlocks]
    simp only [Transfer.yields_bind (x := header.sectorAt _), h.yields_sectorAt hlt]
    split
    · -- the old bytes are read only where a part of them stays, but no matter what they are
      rw [pure_bind]
      exact hrest _
    · rw [Transfer.yields_bind, Transfer.yields_load (h.sectorOf_lt hsector)]
      exact hrest _

/-- Writing a sited file touches its sectors only, and nothing if there is no room for a byte. -/
theorem Sited.yields_writeAt (h : header.Sited disk) {offset : Nat} {data : Bytes}
    (hsum : offset + data.length < sumLimit) :
    (header.writeAt offset data).Yields disk fun written disk' =>
      written = min data.length (header.length - offset) ∧
        disk.SameOff (header.dataSectors disk) disk' ∧ (written = 0 → disk' = disk) := by
  rw [writeAt_eq hsum rfl, Transfer.yields_bind]
  simp only [Transfer.yields_pure, Span.count_clip, true_and]
  rcases Nat.lt_or_ge offset (min (offset + data.length) header.length) with hspan | hempty
  · refine (h.yields_writeBlocks (Nat.min_le_right _ _) hspan
      (Nat.le_of_eq (Span.firstBlock_add_numBlocks hspan)) data).mono ?_
    exact fun _ _ hoff => ⟨hoff, fun hnone => by omega⟩
  · rw [Span.numBlocks_of_stop_le hempty, writeBlocks, Transfer.yields_pure]
    exact ⟨.refl _ _, fun _ => rfl⟩

/-- A file grows into whatever sectors of the disk, also into some that it lists already. -/
theorem Grown.sited {stop : Nat} {fresh : List SectorId}
    (h : header.Grown map stop fresh header' map') (hsited : header.Sited disk)
    (hfresh : ∀ s ∈ fresh, s.toNat < disk.count) : header'.Sited disk where
  consistent := h.consistent
  lt_count s hs := by
    rw [h.allSectors_eq, List.mem_append] at hs
    exact hs.elim (hsited.lt_count s) (hfresh s)
  notMem_dataSectors s hs := by
    -- a file with an index sector lists all its sectors there already, and gets none
    rw [h.indexSectors_eq] at hs
    rw [h.dataSectors_eq, h.fresh_eq_nil (List.ne_nil_of_mem hs), List.append_nil]
    exact hsited.notMem_dataSectors s hs

theorem SameLayout.sited (h : header.SameLayout header') (hsited : header.Sited disk) :
    header'.Sited disk where
  consistent := h.isConsistent hsited.consistent
  lt_count := h.allSectors_eq disk ▸ hsited.lt_count
  notMem_dataSectors := by
    rw [h.dataSectors_eq, h.indexSectors_eq]
    exact hsited.notMem_dataSectors

end SectorStore.FileHeader
