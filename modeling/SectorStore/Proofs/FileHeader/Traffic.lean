import Mathlib.Algebra.BigOperators.Intervals
import Mathlib.Order.Interval.Finset.Nat
import SectorStore.Proofs.FileHeader.Flat
import SectorStore.Proofs.FileHeader.Sited
import SectorStore.Proofs.Transfer.Costs

/-!
# The block transfers of reading and writing a file

There is no cache: a block of a file that a transfer meets is read or written once, the index sector
is read again for each block that it lists, and a block that is written in part is read first.
`Placed.traffic_exact` counts them for every position and length, from the positions of the file
that the transfer concerns (`positions`) and the blocks that these lie in (`blocksOf`). The counts
are sums over the blocks that the loops work through (`Sited.costs_readBlocks`,
`Sited.costs_writeBlocks`).
-/

namespace SectorStore

namespace Span

variable {span : Span}

/-- The number of times that the sector of a block is read before the span is written to it. -/
def partReads (span : Span) (block : Nat) : Nat :=
  if (span.within block).isWholeBlock then 0 else 1

end Span

namespace FileHeader

variable {header : FileHeader} {disk : Disk} {span : Span}

/-- The number of times that the index sector is read to look up a position in a block. -/
def lookupReads (block : Nat) : Nat :=
  if numDirect ≤ block then 1 else 0

/-! ## What the loops cost -/

theorem Sited.costs_sectorAt (h : header.Sited disk) {offset : Nat}
    (hoffset : offset < header.length) :
    (header.sectorAt offset).Costs disk ⟨lookupReads (offset / sectorSize), 0⟩ fun s disk' =>
      s = header.sectorOf disk (offset / sectorSize) ∧ disk' = disk := by
  rw [lookupReads]
  rcases Nat.lt_or_ge (offset / sectorSize) numDirect with hdirect | hindirect
  · rw [h.consistent.sectorAt_eq_pure disk hoffset hdirect, if_neg (Nat.not_le.2 hdirect)]
    exact Transfer.costs_pure ⟨rfl, rfl⟩
  · obtain ⟨index, hindex, hload, hsector⟩ := h.consistent.sectorAt_eq_load hoffset hindirect
    have hlt : index.toNat < disk.count :=
      h.lt_count _ (header.indexSectors_subset disk (by simp [hindex]))
    rw [hload, if_pos hindirect, hsector, ← Traffic.add_none ⟨1, 0⟩]
    refine (Transfer.costs_load hlt).bind ?_
    rintro data disk' ⟨rfl, rfl⟩
    exact Transfer.costs_pure ⟨rfl, rfl⟩

/-- Each block that is read costs one read, and one more if the index sector lists it. -/
theorem Sited.costs_readBlocks (h : header.Sited disk) (hstop : span.stop ≤ header.length)
    (hspan : span.start < span.stop) {count block : Nat} (hfirst : span.firstBlock ≤ block)
    (hblocks : block + count ≤ sectorsFor span.stop) :
    (header.readBlocks span count block).Costs disk
      ⟨∑ b ∈ Finset.Ico block (block + count), (1 + lookupReads b), 0⟩
      fun _ disk' => disk' = disk := by
  induction count generalizing block with
  | zero =>
    rw [readBlocks, Nat.add_zero, Finset.Ico_self, Finset.sum_empty]
    exact Transfer.costs_pure rfl
  | succ count ih =>
    have hlt : (span.within block).start < header.length :=
      start_within_lt hstop hspan (by omega)
    have hdiv := Span.start_within_div hfirst
    have hrest := ih (Nat.le_succ_of_le hfirst) (by omega)
    -- the first summand is the cost of the first block: its lookup and its read
    have hsum : (⟨∑ b ∈ Finset.Ico block (block + (count + 1)), (1 + lookupReads b), 0⟩ : Traffic) =
        ⟨lookupReads block, 0⟩ + (⟨1, 0⟩ +
          (⟨∑ b ∈ Finset.Ico (block + 1) (block + 1 + count), (1 + lookupReads b), 0⟩ +
            .none)) := by
      rw [Finset.sum_eq_sum_Ico_succ_bot (by omega), Nat.add_right_comm block 1 count,
        Nat.add_assoc block count 1]
      simp only [Traffic.add_def, Traffic.none, Traffic.mk.injEq, and_true]
      omega
    rw [readBlocks, hsum]
    have hsector := h.costs_sectorAt hlt
    have hon := h.sectorOf_lt (div_lt_sectorCount hlt)
    rw [hdiv] at hsector hon
    refine hsector.bind ?_
    rintro _ _ ⟨rfl, rfl⟩
    refine (Transfer.costs_load hon).bind ?_
    rintro data _ ⟨-, rfl⟩
    refine hrest.bind ?_
    rintro rest _ rfl
    exact Transfer.costs_pure rfl

/-- A write to a block of the file leaves all blocks of the file where they were, since the index
sector is none of those that are written. -/
theorem Sited.put_sectorOf (h : header.Sited disk) {block : Nat}
    (hblock : block < header.sectorCount) (data : Sector) :
    header.Sited (disk.put (header.sectorOf disk block) data) := by
  refine h.congr rfl fun s hs => Disk.get_put_of_ne ?_
  rintro rfl
  exact h.notMem_dataSectors _ hs (h.sectorOf_mem hblock)

/-- Each block that is written costs one write; it is read first unless all of it is written, and
the index sector is read if it lists the block. -/
theorem Sited.costs_writeBlocks (h : header.Sited disk) (hstop : span.stop ≤ header.length)
    (hspan : span.start < span.stop) {count block : Nat} (hfirst : span.firstBlock ≤ block)
    (hblocks : block + count ≤ sectorsFor span.stop) (data : Bytes) :
    (header.writeBlocks span count block data).Costs disk
      ⟨∑ b ∈ Finset.Ico block (block + count), (lookupReads b + span.partReads b), count⟩
      fun _ _ => True := by
  induction count generalizing block data disk with
  | zero =>
    rw [writeBlocks, Nat.add_zero, Finset.Ico_self, Finset.sum_empty]
    exact Transfer.costs_pure trivial
  | succ count ih =>
    have hlt : (span.within block).start < header.length :=
      start_within_lt hstop hspan (by omega)
    have hsector := h.costs_sectorAt hlt
    have hblock := div_lt_sectorCount hlt
    rw [Span.start_within_div hfirst] at hsector hblock
    have hon := h.sectorOf_lt hblock
    have hsum : (⟨∑ b ∈ Finset.Ico block (block + (count + 1)),
          (lookupReads b + span.partReads b), count + 1⟩ : Traffic) =
        ⟨lookupReads block, 0⟩ + (⟨span.partReads block, 0⟩ + (⟨0, 1⟩ +
          ⟨∑ b ∈ Finset.Ico (block + 1) (block + 1 + count),
            (lookupReads b + span.partReads b), count⟩)) := by
      rw [Finset.sum_eq_sum_Ico_succ_bot (by omega), Nat.add_right_comm block 1 count,
        Nat.add_assoc block count 1]
      simp only [Traffic.add_def, Traffic.mk.injEq]
      omega
    rw [writeBlocks, hsum]
    refine hsector.bind ?_
    rintro _ disk ⟨rfl, rfl⟩
    -- whatever is written to the block, it is one write, and the rest costs what it costs
    have hrest : ∀ piece : Sector, (do
        Transfer.store (header.sectorOf disk block) piece
        header.writeBlocks span count (block + 1) (data.drop (span.within block).count)).Costs disk
          (Traffic.mk 0 1 + Traffic.mk (∑ b ∈ Finset.Ico (block + 1) (block + 1 + count),
            (lookupReads b + span.partReads b)) count) fun _ _ => True := by
      intro piece
      refine (Transfer.costs_store hon piece).bind ?_
      rintro _ _ rfl
      exact ih (h.put_sectorOf hblock piece) (Nat.le_succ_of_le hfirst) (by omega) _
    rw [Span.partReads]
    split
    · rw [show (⟨0, 0⟩ : Traffic) = .none from rfl, Traffic.none_add]
      exact hrest _
    · refine (Transfer.costs_load hon).bind ?_
      rintro old _ ⟨-, rfl⟩
      exact hrest _

/-! ## The blocks that a transfer meets -/

/-- The positions of the file among the `count` ones from `offset` on. -/
def positions (header : FileHeader) (offset count : Nat) : Finset Nat :=
  (Finset.range header.length).filter fun i => offset ≤ i ∧ i < offset + count

/-- The blocks of the file that these positions are in. -/
def blocksMet (header : FileHeader) (offset count : Nat) : Finset Nat :=
  (header.positions offset count).image (· / sectorSize)

/-- Those of the blocks that the index sector lists. -/
def blocksListed (header : FileHeader) (offset count : Nat) : Finset Nat :=
  (header.blocksMet offset count).filter (numDirect ≤ ·)

/-- Those of the blocks that are not covered by the positions. -/
def blocksPart (header : FileHeader) (offset count : Nat) : Finset Nat :=
  (header.blocksMet offset count).filter fun b =>
    ¬ Finset.Ico (b * sectorSize) ((b + 1) * sectorSize) ⊆ header.positions offset count

variable {offset len : Nat}

theorem positions_eq_Ico (header : FileHeader) (offset len : Nat) :
    header.positions offset len =
      Finset.Ico (Span.clip offset (offset + len) header.length).start
        (Span.clip offset (offset + len) header.length).stop := by
  ext i
  simp only [positions, Span.clip, Finset.mem_filter, Finset.mem_range, Finset.mem_Ico]
  omega

/-- The blocks that are met are those that the loops work through. -/
theorem blocksMet_eq_Ico (hspan : span = Span.clip offset (offset + len) header.length) :
    header.blocksMet offset len =
      Finset.Ico span.firstBlock (span.firstBlock + span.numBlocks) := by
  rw [blocksMet, positions_eq_Ico, ← hspan]
  rcases Nat.lt_or_ge span.start span.stop with hlt | hempty
  · rw [Span.firstBlock_add_numBlocks hlt]
    ext b
    simp only [Finset.mem_image, Finset.mem_Ico, lt_sectorsFor_iff, Span.firstBlock]
    rw [sectorSize_eq]
    constructor
    · rintro ⟨i, hi, rfl⟩
      omega
    · intro hb
      exact ⟨max span.start (b * 128), by omega, by omega⟩
  · rw [Finset.Ico_eq_empty (Nat.not_lt.2 hempty), Span.numBlocks_of_stop_le hempty,
      Nat.add_zero, Finset.Ico_self, Finset.image_empty]

/-- A block that is met is read before it is written exactly if it is not covered. -/
theorem partReads_eq (hspan : span = Span.clip offset (offset + len) header.length) {b : Nat}
    (hb : b ∈ header.blocksMet offset len) :
    span.partReads b = if ¬ Finset.Ico (b * sectorSize) ((b + 1) * sectorSize) ⊆
      header.positions offset len then 1 else 0 := by
  obtain ⟨i, hi, rfl⟩ := Finset.mem_image.1 hb
  rw [positions_eq_Ico, ← hspan] at hi ⊢
  rw [Finset.mem_Ico] at hi
  rw [Span.partReads, ← ite_not]
  refine if_congr (not_congr ?_) rfl rfl
  rw [Finset.Ico_subset_Ico_iff (by rw [sectorSize_eq]; omega), Span.isWholeBlock, beq_iff_eq]
  simp only [Span.within, Span.count]
  rw [sectorSize_eq]
  omega

theorem card_blocksListed (header : FileHeader) (offset len : Nat) :
    (header.blocksListed offset len).card =
      ∑ b ∈ header.blocksMet offset len, lookupReads b :=
  Finset.card_filter _ _

theorem card_blocksPart (hspan : span = Span.clip offset (offset + len) header.length) :
    (header.blocksPart offset len).card =
      ∑ b ∈ header.blocksMet offset len, span.partReads b := by
  rw [blocksPart, Finset.card_filter]
  exact Finset.sum_congr rfl fun b hb => (partReads_eq hspan hb).symm

/-! ## Reading and writing -/

/-- What a read costs: each block that is met, and the index sector for those that it lists. -/
theorem Sited.costs_readAt (h : header.Sited disk) {offset : Nat} {buffer : Bytes}
    (hsum : offset + buffer.length < sumLimit) :
    (header.readAt offset buffer).Costs disk
      ⟨(header.blocksMet offset buffer.length).card +
        (header.blocksListed offset buffer.length).card, 0⟩ fun _ disk' => disk' = disk := by
  obtain ⟨span, hclip⟩ : ∃ span, span = Span.clip offset (offset + buffer.length) header.length :=
    ⟨_, rfl⟩
  rw [readAt, readBytes_eq hsum hclip, card_blocksListed, blocksMet_eq_Ico hclip,
    Finset.card_eq_sum_ones, ← Finset.sum_add_distrib, ← Traffic.add_none (.mk _ 0)]
  have hread : (header.readBlocks span span.numBlocks span.firstBlock).Costs disk
      ⟨∑ b ∈ Finset.Ico span.firstBlock (span.firstBlock + span.numBlocks), (1 + lookupReads b), 0⟩
      fun _ disk' => disk' = disk := by
    rcases Nat.lt_or_ge span.start span.stop with hspan | hempty
    · exact h.costs_readBlocks (hclip ▸ Nat.min_le_right _ _) hspan (Nat.le_refl _)
        (Nat.le_of_eq (Span.firstBlock_add_numBlocks hspan))
    · rw [Span.numBlocks_of_stop_le hempty, readBlocks, Nat.add_zero, Finset.Ico_self]
      exact Transfer.costs_pure rfl
  refine hread.bind ?_
  rintro bytes _ rfl
  exact Transfer.costs_pure rfl

/-- What a write costs: a write for each block that is met, a read of those that are met in part,
and of the index sector for those that it lists. -/
theorem Sited.costs_writeAt (h : header.Sited disk) {offset : Nat} {data : Bytes}
    (hsum : offset + data.length < sumLimit) :
    (header.writeAt offset data).Costs disk
      ⟨(header.blocksListed offset data.length).card + (header.blocksPart offset data.length).card,
        (header.blocksMet offset data.length).card⟩ fun _ _ => True := by
  obtain ⟨span, hclip⟩ : ∃ span, span = Span.clip offset (offset + data.length) header.length :=
    ⟨_, rfl⟩
  rw [writeAt_eq hsum hclip, card_blocksListed, card_blocksPart hclip, ← Finset.sum_add_distrib,
    blocksMet_eq_Ico hclip, Nat.card_Ico, Nat.add_sub_cancel_left, ← Traffic.add_none (.mk _ _)]
  have hwrite : (header.writeBlocks span span.numBlocks span.firstBlock data).Costs disk
      ⟨∑ b ∈ Finset.Ico span.firstBlock (span.firstBlock + span.numBlocks),
        (lookupReads b + span.partReads b), span.numBlocks⟩ fun _ _ => True := by
    rcases Nat.lt_or_ge span.start span.stop with hspan | hempty
    · exact h.costs_writeBlocks (hclip ▸ Nat.min_le_right _ _) hspan (Nat.le_refl _)
        (Nat.le_of_eq (Span.firstBlock_add_numBlocks hspan)) data
    · rw [Span.numBlocks_of_stop_le hempty, writeBlocks, Nat.add_zero, Finset.Ico_self]
      exact Transfer.costs_pure trivial
  exact hwrite.bind fun _ _ _ => Transfer.costs_pure trivial

section Device

variable {δ : Type} [BlockDevice δ] [LawfulBlockDevice δ] {device : δ} {count : Nat}

/-- The block transfers of reading and writing through a header whose sectors are distinct sectors
of the device. A read moves each block of the file that has one of the positions, and the index
sector once more for each of them that it lists; it writes nothing. A write reads the index sector
as often, and the blocks that the positions do not cover, and writes each block once. Where there
is no such position nothing is moved. All this is so for every offset and for every buffer whose
length can be added to that of the file, as it can be below `2 ^ 63` bytes; reading and writing run
through where the offset and the length of the buffer can be added. -/
theorem Placed.traffic_exact (h : header.Placed (Disk.image device count))
    (hblocks : HasBlocks device count) (offset : Nat) {buffer : Bytes}
    (hbuffer : header.length + buffer.length < sumLimit) :
    ((header.readAt offset buffer).traffic device =
        ⟨(header.blocksMet offset buffer.length).card +
          (header.blocksListed offset buffer.length).card, 0⟩ ∧
      (header.writeAt offset buffer).traffic device =
        ⟨(header.blocksListed offset buffer.length).card +
          (header.blocksPart offset buffer.length).card,
          (header.blocksMet offset buffer.length).card⟩) ∧
    (header.positions offset buffer.length = ∅ →
      (header.readAt offset buffer).traffic device = .none ∧
      (header.writeAt offset buffer).traffic device = .none) ∧
    (offset + buffer.length < sumLimit →
      (∃ filling, (header.readAt offset buffer).run device = (.ok filling, device)) ∧
      ∃ written device', (header.writeAt offset buffer).run device = (.ok written, device')) := by
  have hnone : header.positions offset buffer.length = ∅ →
      header.blocksMet offset buffer.length = ∅ := by
    intro hempty
    rw [blocksMet, hempty, Finset.image_empty]
  by_cases hsum : offset + buffer.length < sumLimit
  · obtain ⟨-, -, -, hread, -⟩ := (h.sited.costs_readAt hsum).exists_run hblocks
    obtain ⟨written, device', hwrite, hmoved, -⟩ :=
      (h.sited.costs_writeAt hsum).exists_run hblocks
    refine ⟨⟨hread, hmoved⟩, fun hempty => ?_,
      fun _ => ⟨⟨_, h.inside.run_readAt hblocks hsum⟩, written, device', hwrite⟩⟩
    rw [hread, hmoved, blocksListed, blocksPart, hnone hempty]
    exact ⟨rfl, rfl⟩
  · -- the offset is behind the end of the file, and the sum is a fault ahead of any transfer
    have hempty : header.positions offset buffer.length = ∅ := by
      refine Finset.filter_eq_empty_iff.2 fun i hi => ?_
      rw [Finset.mem_range] at hi
      omega
    have hread : (header.readAt offset buffer).traffic device = .none := by
      rw [readAt, readBytes, checkedAdd_eq_error hsum]
      rfl
    have hwrite : (header.writeAt offset buffer).traffic device = .none := by
      rw [writeAt, checkedAdd_eq_error hsum]
      rfl
    refine ⟨?_, fun _ => ⟨hread, hwrite⟩, fun hlt => absurd hlt hsum⟩
    rw [hread, hwrite, blocksListed, blocksPart, hnone hempty]
    exact ⟨rfl, rfl⟩

/-- On a memory disk of twelve blocks, 400 bytes from position 800 on of a file of 1100 bytes: the
end of the seventh block, the eighth, and what there is of the ninth, which the index sector
lists. -/
theorem Placed.traffic_exact_of_indirect :
    ∃ header : FileHeader, header.map = .indirect #v[10, 9, 8, 7, 6, 5, 4, 3] 11 ∧
      header.length = 1100 ∧ header.Placed (Disk.image (RamDisk.zeroed 12 sectorSize) 12) ∧
      HasBlocks (RamDisk.zeroed 12 sectorSize) 12 ∧
      header.length + (List.replicate 400 (7 : UInt8)).length < sumLimit ∧
      (header.readAt 800 (List.replicate 400 7)).traffic (RamDisk.zeroed 12 sectorSize) = ⟨4, 0⟩ ∧
      (header.writeAt 800 (List.replicate 400 7)).traffic (RamDisk.zeroed 12 sectorSize) =
        ⟨3, 3⟩ := by
  let header : FileHeader := { empty with
    numBytes := 1100, map := .indirect #v[10, 9, 8, 7, 6, 5, 4, 3] 11 }
  have hinside : (header.allSectors (Disk.image (RamDisk.zeroed 12 sectorSize) 12)).all
      (·.toNat < 12) = true := by decide +kernel
  have hplaced : header.Placed (Disk.image (RamDisk.zeroed 12 sectorSize) 12) :=
    ⟨by decide, by decide +kernel, fun s hs => of_decide_eq_true (List.all_eq_true.1 hinside s hs)⟩
  have hblocks : HasBlocks (RamDisk.zeroed 12 sectorSize) 12 := RamDisk.hasBlocks _
  have hmet : (header.blocksMet 800 400).card = 3 := by
    rw [blocksMet_eq_Ico rfl]
    decide +kernel
  have hlisted : (header.blocksListed 800 400).card = 1 := by
    rw [card_blocksListed, blocksMet_eq_Ico rfl]
    decide +kernel
  have hpart : (header.blocksPart 800 400).card = 2 := by
    rw [card_blocksPart rfl, blocksMet_eq_Ico rfl]
    decide +kernel
  have hbuffer : header.length + (List.replicate 400 (7 : UInt8)).length < sumLimit := by
    rw [List.length_replicate]
    decide
  obtain ⟨⟨hread, hwrite⟩, -⟩ := hplaced.traffic_exact hblocks 800 hbuffer
  rw [List.length_replicate, hmet, hlisted] at hread
  rw [List.length_replicate, hmet, hlisted, hpart] at hwrite
  exact ⟨header, rfl, rfl, hplaced, hblocks, hbuffer, hread, hwrite⟩

end Device

end FileHeader

end SectorStore
