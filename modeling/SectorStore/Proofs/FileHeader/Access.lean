import SectorStore.Proofs.Device.Places
import SectorStore.Proofs.FileHeader.Sectors

/-!
# A file is one byte string

Reading through a header gives a slice of its contents (`Inside.yields_readBytes`), and writing lays
the data over them (`Placed.yields_writeAt`): the positions written hold the data, all other
positions of the data sectors, also those behind the end of the file, and all other sectors are as
they were. Both go through a span block by block, and so do the proofs.

So of the bytes on the disk only those at the `places` of the span change, which are in the sectors
that have a part of it (`sectorsIn`).
-/

namespace SectorStore

variable {header : FileHeader} {disk disk' : Disk} {span : Span}

namespace FileHeader

/-- The blocks of a file up to a position are the ones that the position is in or behind. -/
theorem lt_sectorsFor_iff {block stop : Nat} :
    block < sectorsFor stop ↔ block * sectorSize < stop := by
  rw [sectorsFor, sectorSize_eq]
  omega

theorem sectorsFor_mono {a b : Nat} (h : a ≤ b) : sectorsFor a ≤ sectorsFor b := by
  rw [sectorsFor, sectorsFor, sectorSize_eq]
  omega

end FileHeader

namespace Span

variable {span : Span}

/-- The blocks of a span end with that of its last byte. -/
theorem firstBlock_add_numBlocks (h : span.start < span.stop) :
    span.firstBlock + span.numBlocks = sectorsFor span.stop := by
  have hlt : span.start / sectorSize < sectorsFor span.stop := by
    rw [FileHeader.lt_sectorsFor_iff]
    exact Nat.lt_of_le_of_lt (Nat.div_mul_le_self _ _) h
  rw [numBlocks, if_pos h, firstBlock]
  omega

/-- A span without bytes has no blocks. -/
theorem numBlocks_of_stop_le (h : span.stop ≤ span.start) : span.numBlocks = 0 :=
  if_neg (Nat.not_lt.2 h)

/-- A span begins in front of the end of its first block and of all later ones. -/
theorem start_lt_of_firstBlock_le {block : Nat} (h : span.firstBlock ≤ block) :
    span.start < (block + 1) * sectorSize := by
  rw [firstBlock, sectorSize_eq] at *
  omega

/-- The piece of a span in one of its blocks begins in that block. -/
theorem start_within_div {block : Nat} (h : span.firstBlock ≤ block) :
    (span.within block).start / sectorSize = block := by
  have hstart := start_lt_of_firstBlock_le h
  rw [within, sectorSize_eq] at *
  simp only
  omega

/-- A span starts in its first block. -/
theorem max_start_firstBlock (span : Span) :
    max span.start (span.firstBlock * sectorSize) = span.start :=
  Nat.max_eq_left (Nat.div_mul_le_self _ _)

end Span

namespace FileHeader

/-- The pieces of a span in the blocks of a file begin inside the file. -/
theorem start_within_lt {block : Nat} (hstop : span.stop ≤ header.length)
    (hspan : span.start < span.stop) (hblock : block < sectorsFor span.stop) :
    (span.within block).start < header.length := by
  have hlt := lt_sectorsFor_iff.1 hblock
  simp only [Span.within]
  omega

/-! ## Reading -/

/-- The bytes at `count` positions from `start` on. -/
def bytesFrom (header : FileHeader) (disk : Disk) (start count : Nat) : Bytes :=
  (List.range' start count).map (header.byteAt disk)

/-- Bytes of a file from one position on, and then from where they end, are those from the first
position. -/
theorem bytesFrom_append (header : FileHeader) (disk : Disk) (start m n : Nat) :
    header.bytesFrom disk start m ++ header.bytesFrom disk (start + m) n =
      header.bytesFrom disk start (m + n) := by
  rw [bytesFrom, bytesFrom, bytesFrom, ← List.map_append]
  simp

/-- A slice of a sector of the file is the bytes at those positions of the file. -/
theorem slice_sectorOf (header : FileHeader) (disk : Disk) {block start count : Nat}
    (hstart : block * sectorSize ≤ start) (hstop : start + count ≤ (block + 1) * sectorSize) :
    (disk.get (header.sectorOf disk block)).slice (start % sectorSize) count =
      header.bytesFrom disk start count := by
  rw [sectorSize_eq] at hstart hstop
  apply List.ext_getElem
  · simp only [Sector.slice, Bytes.slice, bytesFrom, List.length_take, List.length_drop,
      Vector.length_toList, List.length_map, List.length_range', sectorSize]
    omega
  · intro i hi hi'
    simp only [bytesFrom, List.length_map, List.length_range'] at hi'
    simp only [Sector.slice, Bytes.slice, bytesFrom, List.getElem_take, List.getElem_drop,
      Vector.getElem_toList, List.getElem_map, List.getElem_range', byteAt]
    have hdiv : (start + 1 * i) / sectorSize = block := by rw [sectorSize_eq]; omega
    have hmod : (start + 1 * i) % sectorSize = start % sectorSize + i := by
      rw [sectorSize_eq]
      omega
    simp only [hdiv, get_inSector _ (Nat.mod_lt _ sectorSize_pos), hmod]

/-- Reading the blocks from `block` to the end of a span gives the bytes from there on. -/
theorem Inside.yields_readBlocks (h : header.Inside disk) (hstop : span.stop ≤ header.length)
    (hspan : span.start < span.stop) {count block : Nat} (hfirstBlock : span.firstBlock ≤ block)
    (hblocks : block + count = sectorsFor span.stop) {post : Bytes → Disk → Prop} :
    (header.readBlocks span count block).Yields disk post ↔
      post (header.bytesFrom disk (max span.start (block * sectorSize))
        (span.stop - max span.start (block * sectorSize))) disk := by
  induction count generalizing block post with
  | zero =>
    have hend : ¬ block * sectorSize < span.stop := by
      rw [← lt_sectorsFor_iff]
      omega
    have hnone : span.stop - max span.start (block * sectorSize) = 0 := by omega
    rw [readBlocks, Transfer.yields_pure, hnone, bytesFrom, List.range'_zero, List.map_nil]
  | succ count ih =>
    have hblock : block * sectorSize < span.stop := by
      rw [← lt_sectorsFor_iff]
      omega
    have hstart := Span.start_lt_of_firstBlock_le hfirstBlock
    have hlt : (span.within block).start < header.length :=
      start_within_lt hstop hspan (by omega)
    have hblockOf := Span.start_within_div hfirstBlock
    -- the piece of this block, and what is left behind it
    obtain ⟨first, hfirst⟩ : ∃ first, first = max span.start (block * sectorSize) := ⟨_, rfl⟩
    obtain ⟨next, hnextStart⟩ : ∃ next, next = max span.start ((block + 1) * sectorSize) := ⟨_, rfl⟩
    have hpiece : span.within block = ⟨first, min span.stop ((block + 1) * sectorSize)⟩ := by
      rw [Span.within, hfirst]
    rw [hpiece] at hlt hblockOf
    have hsplit : header.bytesFrom disk first (min span.stop ((block + 1) * sectorSize) - first) ++
        header.bytesFrom disk next (span.stop - next) =
          header.bytesFrom disk first (span.stop - first) := by
      rw [sectorSize_eq] at *
      rcases Nat.le_total span.stop ((block + 1) * 128) with hle | hle
      · rw [Nat.min_eq_left hle, show span.stop - next = 0 by omega]
        simp [bytesFrom]
      · rw [Nat.min_eq_right hle, show next = first + ((block + 1) * 128 - first) by omega,
          bytesFrom_append]
        congr 1
        omega
    have hslice : (disk.get (header.sectorOf disk block)).slice (first % sectorSize)
        (min span.stop ((block + 1) * sectorSize) - first) =
          header.bytesFrom disk first (min span.stop ((block + 1) * sectorSize) - first) := by
      apply slice_sectorOf <;> rw [sectorSize_eq] at * <;> omega
    rw [readBlocks, hpiece]
    simp only [Transfer.yields_bind, h.yields_sectorAt hlt, hblockOf, Span.count]
    rw [Transfer.yields_load (h.sectorOf_lt (hblockOf ▸ div_lt_sectorCount hlt)),
      ih (Nat.le_add_right_of_le hfirstBlock) (by omega), Transfer.yields_pure, hslice,
      ← hnextStart, hsplit, hfirst]

/-- The lengths of files are far below the limit of sums. -/
theorem length_lt_sumLimit (header : FileHeader) : header.length < sumLimit :=
  Nat.lt_trans header.numBytes.toNat_lt (by decide)

/-- Where the end of what is asked for can be told, reading goes through the blocks up to there. -/
theorem readBytes_eq {offset count : Nat} (hsum : offset + count < sumLimit)
    (hspan : span = Span.clip offset (offset + count) header.length) :
    header.readBytes offset count = header.readBlocks span span.numBlocks span.firstBlock := by
  rw [readBytes, checkedAdd_eq hsum, hspan]
  rfl

/-- A slice of the contents is the bytes at those positions, as far as the file goes. -/
theorem slice_contents (header : FileHeader) (disk : Disk) (offset count : Nat) :
    (header.contents disk).slice offset count = header.bytesFrom disk offset
      (min (offset + count) header.length - offset) := by
  apply List.ext_getElem
  · simp only [Bytes.slice, bytesFrom, List.length_take, List.length_drop, length_contents,
      List.length_map, List.length_range']
    omega
  · intro i hi hi'
    simp [Bytes.slice, bytesFrom, getElem_contents]

/-- Reading gives the slice of the contents that was asked for, as far as it is there. -/
theorem Inside.yields_readBytes (h : header.Inside disk) {offset count : Nat}
    (hsum : offset + count < sumLimit) {post : Bytes → Disk → Prop} :
    (header.readBytes offset count).Yields disk post ↔
      post ((header.contents disk).slice offset count) disk := by
  rw [readBytes_eq hsum rfl, slice_contents]
  rcases Nat.lt_or_ge offset (min (offset + count) header.length) with hspan | hempty
  · rw [h.yields_readBlocks (Nat.min_le_right _ _) hspan (Nat.le_refl _)
      (Span.firstBlock_add_numBlocks hspan), Span.max_start_firstBlock]
    rfl
  · rw [Span.numBlocks_of_stop_le hempty, readBlocks, Transfer.yields_pure,
      Nat.sub_eq_zero_of_le hempty, bytesFrom, List.range'_zero, List.map_nil]

/-- Reading gives the bytes of the file that are in the range, and changes nothing. -/
theorem Placed.yields_readBytes (h : header.Placed disk) {offset count : Nat}
    (hsum : offset + count < sumLimit) {post : Bytes → Disk → Prop} :
    (header.readBytes offset count).Yields disk post ↔
      post ((header.contents disk).slice offset count) disk :=
  h.inside.yields_readBytes hsum

/-! ## Writing -/

/-- A write to the sector of one block changes the bytes of that block only. -/
theorem Placed.byteAt_put (h : header.Placed disk) {block : Nat}
    (hblock : block < header.sectorCount) (data : Sector) {i : Nat}
    (hi : i / sectorSize < header.sectorCount) :
    header.byteAt (disk.put (header.sectorOf disk block) data) i =
      if i / sectorSize = block then data.get (inSector i)
      else header.byteAt disk i := by
  -- the index sector is another one, so the block is where it was
  have hdata : header.dataSectors (disk.put (header.sectorOf disk block) data) =
      header.dataSectors disk := by
    apply dataSectors_congr
    intro s hs
    apply Disk.get_put_of_ne
    rintro rfl
    exact h.notMem_dataSectors_of_mem_indexSectors hs (h.sited.sectorOf_mem hblock)
  have hsector : header.sectorOf (disk.put (header.sectorOf disk block) data) (i / sectorSize) =
      header.sectorOf disk (i / sectorSize) := by
    rw [sectorOf, hdata, sectorOf]
  simp only [byteAt, hsector, Disk.get_put]
  by_cases heq : i / sectorSize = block
  · simp only [heq, if_true]
  · have hne : header.sectorOf disk (i / sectorSize) ≠ header.sectorOf disk block :=
      fun hsame => heq (h.sectorOf_inj hi hblock hsame)
    simp only [if_neg hne, if_neg heq]

/-- Data laid over a part of a block is seen at its positions. Where the data is the whole block, it
does not matter what it was laid over. -/
theorem getElem_patch_block (header : FileHeader) (disk : Disk) {block first stop : Nat}
    {data : Bytes} {old : Sector} (hfirst : block * sectorSize ≤ first) (hlt : first < stop)
    (hstop : stop ≤ (block + 1) * sectorSize) (hlength : data.length = stop - first)
    (hold : stop - first ≠ sectorSize → old = disk.get (header.sectorOf disk block)) {i : Nat}
    (hi : i / sectorSize = block) :
    (old.patch (first % sectorSize) data).get (inSector i) =
      if first ≤ i ∧ i < stop then data.getD (i - first) 0 else header.byteAt disk i := by
  rw [sectorSize_eq] at hfirst hstop
  have hfits : first % sectorSize + data.length ≤ sectorSize := by
    rw [sectorSize_eq]
    omega
  have hpos : i = block * 128 + i % sectorSize := by
    rw [sectorSize_eq] at hi ⊢
    omega
  have hmod : i % sectorSize < 128 := Nat.mod_lt _ (by decide)
  -- the bytes around the data are the old ones, if there are any
  have hbyte : stop - first ≠ sectorSize → old[i % sectorSize] = header.byteAt disk i := by
    intro hpart
    simp only [hold hpart, byteAt, hi, get_inSector _ hmod]
  have hfirstMod : first = block * 128 + first % sectorSize := by
    rw [sectorSize_eq]
    omega
  show (old.patch (first % sectorSize) data)[i % sectorSize] = _
  rw [Sector.getElem_patch hfits]
  -- the position is in the data, or before or behind it in the same block
  by_cases hin : first ≤ i ∧ i < stop
  · rw [if_pos hin, if_neg (by omega), dif_pos (by omega), List.getD_eq_getElem?_getD,
      List.getElem?_eq_getElem (by omega), Option.getD_some]
    congr 1
    omega
  · rw [if_neg hin]
    have hpart : stop - first ≠ sectorSize := by
      rw [sectorSize_eq]
      omega
    split
    · exact hbyte hpart
    · rw [dif_neg (by omega)]
      exact hbyte hpart

/-- Data is laid over the bytes of a file from `first` to `stop`, and nothing else is changed. -/
structure Overlaid (header : FileHeader) (disk : Disk) (first stop : Nat) (data : Bytes)
    (disk' : Disk) : Prop where
  /-- Only data sectors are written to. -/
  sameOff : disk.SameOff (header.dataSectors disk) disk'
  /-- The bytes of the file are the data, where it was laid, and the old ones elsewhere. -/
  byteAt_eq : ∀ i, i / sectorSize < header.sectorCount → header.byteAt disk' i =
    if first ≤ i ∧ i < stop then data.getD (i - first) 0 else header.byteAt disk i

/-- Where no block is left, all data is laid over. -/
theorem overlaid_of_stop_le {first stop : Nat} {data : Bytes} (h : stop ≤ first) :
    header.Overlaid disk first stop data disk where
  sameOff := Disk.SameOff.refl _ _
  byteAt_eq i _ := by rw [if_neg (by omega)]

/-- Where no byte is laid over, it does not matter from where on. -/
theorem Overlaid.of_stop_le {first first' stop : Nat} {data data' : Bytes}
    (h : header.Overlaid disk first stop data disk') (hfirst : stop ≤ first)
    (hfirst' : stop ≤ first') : header.Overlaid disk first' stop data' disk' where
  sameOff := h.sameOff
  byteAt_eq i hi := by rw [h.byteAt_eq i hi, if_neg (by omega), if_neg (by omega)]

/-- The index sector is no data sector, so it is as it was. -/
theorem Placed.get_eq_of_overlaid (h : header.Placed disk) {first stop : Nat} {data : Bytes}
    (hlaid : header.Overlaid disk first stop data disk') :
    ∀ s ∈ header.indexSectors, disk'.get s = disk.get s :=
  fun s hs => hlaid.sameOff.2 s (h.notMem_dataSectors_of_mem_indexSectors hs)

/-- A header stays placed when data is laid over the bytes of its file. -/
theorem Placed.of_overlaid (h : header.Placed disk) {first stop : Nat} {data : Bytes}
    (hlaid : header.Overlaid disk first stop data disk') : header.Placed disk' :=
  h.congr hlaid.sameOff.1 (h.get_eq_of_overlaid hlaid)

/-- Laying the front of the data over bytes and then the rest behind it lays all of it over them. -/
theorem Placed.overlaid_trans (h : header.Placed disk) {disk₁ : Disk} {first mid stop : Nat}
    {data : Bytes} (hfirst : first ≤ mid) (hmid : mid ≤ stop)
    (hfront : header.Overlaid disk first mid (data.take (mid - first)) disk₁)
    (hback : header.Overlaid disk₁ mid stop (data.drop (mid - first)) disk') :
    header.Overlaid disk first stop data disk' where
  sameOff := by
    have hsame := hback.sameOff
    rw [dataSectors_congr (h.get_eq_of_overlaid hfront)] at hsame
    exact (hfront.sameOff.trans hsame).mono (by simp)
  byteAt_eq i hi := by
    rw [hback.byteAt_eq i hi, hfront.byteAt_eq i hi]
    simp only [List.getD_eq_getElem?_getD, List.getElem?_drop]
    -- the position is behind the front, in it, or in neither part
    by_cases hbehind : mid ≤ i ∧ i < stop
    · rw [if_pos hbehind, if_pos ⟨by omega, hbehind.2⟩]
      congr 2
      omega
    rw [if_neg hbehind]
    by_cases hin : first ≤ i ∧ i < mid
    · rw [if_pos hin, if_pos ⟨hin.1, by omega⟩, List.getElem?_take_of_lt (by omega)]
    · rw [if_neg hin, if_neg (by omega)]

/-- Writing the piece from `first` to `stop` of one block lays the data over its bytes. -/
theorem Placed.yields_store_patch (h : header.Placed disk) {block first stop : Nat} {data : Bytes}
    {old : Sector} (hblock : block < header.sectorCount) (hfirst : block * sectorSize ≤ first)
    (hlt : first < stop) (hstop : stop ≤ (block + 1) * sectorSize)
    (hlength : data.length = stop - first)
    (hold : stop - first ≠ sectorSize → old = disk.get (header.sectorOf disk block)) :
    (Transfer.store (header.sectorOf disk block) (old.patch (first % sectorSize) data)).Yields disk
      fun _ disk' => header.Overlaid disk first stop data disk' := by
  rw [Transfer.yields_store (h.sited.sectorOf_lt hblock)]
  refine ⟨(Disk.SameOff.put disk _ _).mono (by simpa using h.sited.sectorOf_mem hblock), ?_⟩
  intro i hi
  rw [h.byteAt_put hblock _ hi]
  split
  · next heq => exact getElem_patch_block header disk hfirst hlt hstop hlength hold heq
  · next hne =>
    rw [if_neg]
    rw [sectorSize_eq] at *
    omega

/-- Writing the blocks from `block` to the end of a span lays the data over the bytes from there
on. -/
theorem Placed.yields_writeBlocks (h : header.Placed disk) (hstop : span.stop ≤ header.length)
    (hspan : span.start < span.stop) {count block : Nat} {data : Bytes}
    (hfirstBlock : span.firstBlock ≤ block)
    (hblocks : block + count = sectorsFor span.stop)
    (hdata : span.stop ≤ max span.start (block * sectorSize) + data.length) :
    (header.writeBlocks span count block data).Yields disk fun _ disk' =>
      header.Overlaid disk (max span.start (block * sectorSize)) span.stop data disk' := by
  induction count generalizing block data disk with
  | zero =>
    -- the span has ended, and nothing more is written
    have hend : ¬ block * sectorSize < span.stop := by
      rw [← lt_sectorsFor_iff]
      omega
    rw [writeBlocks, Transfer.yields_pure]
    exact overlaid_of_stop_le (by omega)
  | succ count ih =>
    have hblock : block * sectorSize < span.stop := by
      rw [← lt_sectorsFor_iff]
      omega
    have hstart := Span.start_lt_of_firstBlock_le hfirstBlock
    have hlt : (span.within block).start < header.length :=
      start_within_lt hstop hspan (by omega)
    have hblockOf := Span.start_within_div hfirstBlock
    -- the piece of the span in this block, from `first` to `stop`
    obtain ⟨first, hfirst⟩ : ∃ first, first = max span.start (block * sectorSize) := ⟨_, rfl⟩
    obtain ⟨stop, hpieceStop⟩ : ∃ stop, stop = min span.stop ((block + 1) * sectorSize) := ⟨_, rfl⟩
    have hpiece : span.within block = ⟨first, stop⟩ := by
      rw [Span.within, hfirst, hpieceStop]
    rw [hpiece] at hlt hblockOf
    have hfirstStop : first < stop := by
      rw [sectorSize_eq] at *
      omega
    have hsector : block < header.sectorCount := hblockOf ▸ div_lt_sectorCount hlt
    have hlength : (data.take (stop - first)).length = stop - first := by
      rw [List.length_take]
      omega
    -- whatever the block held: the piece is laid over it, and the rest is written behind
    have hrest : ∀ old : Sector,
        (stop - first ≠ sectorSize → old = disk.get (header.sectorOf disk block)) →
        (do
          Transfer.store (header.sectorOf disk block)
            (old.patch (first % sectorSize) (data.take (stop - first)))
          header.writeBlocks span count (block + 1) (data.drop (stop - first))).Yields disk
          fun _ disk' => header.Overlaid disk first span.stop data disk' := by
      intro old hold
      refine (h.yields_store_patch hsector (by omega) hfirstStop (by omega) hlength hold).bind ?_
      intro _ disk₁ hfront
      refine (ih (h.of_overlaid hfront) (Nat.le_add_right_of_le hfirstBlock) (by omega) ?_).mono ?_
      · rw [List.length_drop, sectorSize_eq] at *
        omega
      · intro _ disk' hback
        apply h.overlaid_trans (Nat.le_of_lt hfirstStop) (by omega) hfront
        -- what follows begins where the piece ends, or else there is nothing that follows
        rcases Nat.le_total ((block + 1) * sectorSize) span.stop with hle | hle
        · have hbegin : max span.start ((block + 1) * sectorSize) = stop := by omega
          rwa [hbegin] at hback
        · exact hback.of_stop_le (by omega) (by omega)
    rw [← hfirst, writeBlocks, hpiece]
    simp only [Transfer.yields_bind, h.sited.yields_sectorAt hlt, hblockOf, Span.count]
    -- a whole block is not read, and then the patch shows nothing of what it is laid over
    by_cases hwhole : stop - first = sectorSize
    · have htrue : (⟨first, stop⟩ : Span).isWholeBlock = true := by
        simp [Span.isWholeBlock, Span.count, hwhole]
      rw [if_pos htrue, pure_bind]
      exact hrest Sector.zero fun hne => absurd hwhole hne
    · have hfalse : ¬ (⟨first, stop⟩ : Span).isWholeBlock = true := by
        simpa [Span.isWholeBlock, Span.count] using hwhole
      rw [if_neg hfalse, Transfer.yields_bind, Transfer.yields_load (h.sited.sectorOf_lt hsector)]
      exact hrest _ fun _ => rfl

/-- Where the end of the data can be told, writing goes through the blocks up to there. -/
theorem writeAt_eq {offset : Nat} {data : Bytes} (hsum : offset + data.length < sumLimit)
    (hspan : span = Span.clip offset (offset + data.length) header.length) :
    header.writeAt offset data = do
      header.writeBlocks span span.numBlocks span.firstBlock data
      return span.count := by
  rw [writeAt, checkedAdd_eq hsum, hspan]
  rfl

/-- Writing lays as much of the data over the bytes of the file as there is room for behind
`offset`, and tells how many bytes that were. -/
theorem Placed.yields_writeAt (h : header.Placed disk) {offset : Nat} {data : Bytes}
    (hsum : offset + data.length < sumLimit) :
    (header.writeAt offset data).Yields disk fun written disk' =>
      written = min data.length (header.length - offset) ∧
      disk.SameOff (header.dataSectors disk) disk' ∧
      ∀ i, i / sectorSize < header.sectorCount → header.byteAt disk' i =
        if offset ≤ i ∧ i < offset + written then data.getD (i - offset) 0
        else header.byteAt disk i := by
  rw [writeAt_eq hsum rfl, Transfer.yields_bind]
  simp only [Transfer.yields_pure, Span.count_clip, true_and]
  -- the part that is written may be empty, and then no block is touched
  rcases Nat.lt_or_ge offset (min (offset + data.length) header.length) with hspan | hempty
  · refine (h.yields_writeBlocks (Nat.min_le_right _ _) hspan (Nat.le_refl _)
      (Span.firstBlock_add_numBlocks hspan) ?_).mono ?_
    · rw [Span.max_start_firstBlock]
      exact Nat.min_le_left _ _
    · rintro - disk' ⟨hsame, hbyte⟩
      refine ⟨hsame, fun i hi => ?_⟩
      rw [hbyte i hi, Span.max_start_firstBlock]
      have hstop : offset + min data.length (header.length - offset) =
          min (offset + data.length) header.length := by omega
      rw [hstop]
      rfl
  · rw [Span.numBlocks_of_stop_le hempty, writeBlocks, Transfer.yields_pure]
    refine ⟨Disk.SameOff.refl _ _, fun i _ => ?_⟩
    rw [if_neg (by omega)]

/-- Where there is no room for a byte of the data, nothing is done at all. -/
theorem writeAt_eq_pure {offset : Nat} {data : Bytes} (hsum : offset + data.length < sumLimit)
    (h : min data.length (header.length - offset) = 0) : header.writeAt offset data = pure 0 := by
  have hempty : (Span.clip offset (offset + data.length) header.length).numBlocks = 0 :=
    Span.numBlocks_of_stop_le (by simp only [Span.clip]; omega)
  rw [writeAt_eq hsum rfl, hempty, writeBlocks, Span.count_clip, h, pure_bind]

/-! ## The sectors of a span -/

/-- The data sectors that have a part of a span. -/
def sectorsIn (header : FileHeader) (disk : Disk) (span : Span) : List SectorId :=
  ((List.range header.sectorCount).filter fun block => 0 < (span.within block).count).map
    (header.sectorOf disk)

/-- A sector is in a span if it is that of a block with a byte of the span. -/
theorem mem_sectorsIn {s : SectorId} : s ∈ header.sectorsIn disk span ↔
    ∃ block < header.sectorCount, 0 < (span.within block).count ∧
      header.sectorOf disk block = s := by
  simp only [sectorsIn, List.mem_map, List.mem_filter, List.mem_range, decide_eq_true_eq, and_assoc]

/-- A span that lies in another one has no more sectors. -/
theorem sectorsIn_subset {span' : Span} (hstart : span'.start ≤ span.start)
    (hstop : span.stop ≤ span'.stop) :
    header.sectorsIn disk span ⊆ header.sectorsIn disk span' := by
  intro s hs
  obtain ⟨block, hblock, hcount, rfl⟩ := mem_sectorsIn.1 hs
  refine mem_sectorsIn.2 ⟨block, hblock, ?_, rfl⟩
  simp only [Span.count, Span.within] at hcount ⊢
  omega

/-- There are no sectors behind the end of the file. -/
theorem sectorsIn_subset_of_lt {start stop : Nat} (h : start < header.length) :
    header.sectorsIn disk ⟨start, stop⟩ ⊆ header.sectorsIn disk ⟨start, header.length⟩ := by
  intro s hs
  obtain ⟨block, hblock, hpart, rfl⟩ := mem_sectorsIn.1 hs
  refine mem_sectorsIn.2 ⟨block, hblock, ?_, rfl⟩
  rw [sectorCount, lt_sectorsFor_iff] at hblock
  simp only [Span.count, Span.within] at hpart ⊢
  rw [sectorSize_eq] at hblock hpart ⊢
  omega

/-- The sectors in a span depend on the data sectors only. -/
theorem sectorsIn_congr (h : header.dataSectors disk' = header.dataSectors disk) (span : Span) :
    header.sectorsIn disk' span = header.sectorsIn disk span := by
  have hsector : header.sectorOf disk' = header.sectorOf disk := by
    funext block
    rw [sectorOf, h, sectorOf]
  rw [sectorsIn, hsector, sectorsIn]

theorem SameLayout.sectorsIn_eq {header' : FileHeader} (h : header.SameLayout header')
    (disk : Disk) (span : Span) : header'.sectorsIn disk span = header.sectorsIn disk span := by
  have hsector : header'.sectorOf disk = header.sectorOf disk := by
    funext block
    rw [sectorOf, h.dataSectors_eq, sectorOf]
  rw [sectorsIn, hsector, h.sectorCount_eq, sectorsIn]

/-- The sectors in a span are data sectors of the file. -/
theorem Placed.sectorsIn_subset_dataSectors (h : header.Placed disk) (span : Span) :
    header.sectorsIn disk span ⊆ header.dataSectors disk := by
  intro s hs
  obtain ⟨block, hblock, -, rfl⟩ := mem_sectorsIn.1 hs
  exact h.sited.sectorOf_mem hblock

/-! ## The places of a span -/

/-- Where the bytes at the positions of a span are on the disk. -/
def places (header : FileHeader) (disk : Disk) (span : Span) : Set Place :=
  {p | ∃ i, span.start ≤ i ∧ i < span.stop ∧
    p = (header.sectorOf disk (i / sectorSize), inSector i)}

/-- The places of a span depend on the data sectors only. -/
theorem places_congr (h : header.dataSectors disk' = header.dataSectors disk) (span : Span) :
    header.places disk' span = header.places disk span := by
  have hsector : header.sectorOf disk' = header.sectorOf disk := by
    funext block
    rw [sectorOf, h, sectorOf]
  rw [places, hsector, places]

theorem SameLayout.places_eq {header' : FileHeader} (h : header.SameLayout header') (disk : Disk)
    (span : Span) : header'.places disk span = header.places disk span := by
  have hsector : header'.sectorOf disk = header.sectorOf disk := by
    funext block
    rw [sectorOf, h.dataSectors_eq, sectorOf]
  rw [places, hsector, places]

/-- A span with all positions of another one has all its places. -/
theorem places_subset {span' : Span}
    (h : ∀ i, span.start ≤ i → i < span.stop → span'.start ≤ i ∧ i < span'.stop) :
    header.places disk span ⊆ header.places disk span' := by
  rintro _ ⟨i, hstart, hstop, rfl⟩
  exact ⟨i, (h i hstart hstop).1, (h i hstart hstop).2, rfl⟩

/-- A file ends in its last sector. -/
theorem length_le_mul (header : FileHeader) :
    header.length ≤ header.sectorCount * sectorSize := by
  rw [sectorCount, sectorsFor, sectorSize_eq]
  omega

/-- The places of a span are in the sectors of the span. -/
theorem mem_sectorsIn_of_mem_places (hstop : span.stop ≤ header.sectorCount * sectorSize)
    {s : SectorId} {k : Fin sectorSize} (h : (s, k) ∈ header.places disk span) :
    s ∈ header.sectorsIn disk span := by
  obtain ⟨i, hstart, hlt, hplace⟩ := h
  rw [(Prod.mk.inj hplace).1]
  refine mem_sectorsIn.2 ⟨i / sectorSize, ?_, ?_, rfl⟩
  · rw [sectorSize_eq] at *
    omega
  · simp only [Span.count, Span.within]
    rw [sectorSize_eq]
    omega

/-- The bytes of a file are in its data sectors. -/
theorem Sited.mem_dataSectors_of_mem_places (h : header.Sited disk)
    (hstop : span.stop ≤ header.length) {s : SectorId} {k : Fin sectorSize}
    (hplace : (s, k) ∈ header.places disk span) : s ∈ header.dataSectors disk := by
  obtain ⟨i, -, hlt, heq⟩ := hplace
  rw [(Prod.mk.inj heq).1]
  exact h.sectorOf_mem (div_lt_sectorCount (Nat.lt_of_lt_of_le hlt hstop))

/-- Each byte of a data sector is at a position of the file, perhaps behind its end. -/
theorem IsConsistent.exists_position (h : header.IsConsistent) {s : SectorId}
    (hs : s ∈ header.dataSectors disk) (k : Fin sectorSize) :
    ∃ i, i / sectorSize < header.sectorCount ∧
      (s, k) = (header.sectorOf disk (i / sectorSize), inSector i) := by
  obtain ⟨block, hblock, rfl⟩ := List.getElem_of_mem hs
  obtain ⟨k, hk⟩ := k
  have hdiv : (block * sectorSize + k) / sectorSize = block := by
    rw [sectorSize_eq] at hk ⊢
    omega
  have hmod : (block * sectorSize + k) % sectorSize = k := by
    rw [sectorSize_eq] at hk ⊢
    omega
  refine ⟨block * sectorSize + k, ?_, ?_⟩
  · rw [hdiv, ← h.length_dataSectors disk]
    exact hblock
  · rw [hdiv, sectorOf, List.getD_eq_getElem?_getD, List.getElem?_eq_getElem hblock,
      Option.getD_some]
    exact congrArg (Prod.mk _) (Fin.ext hmod.symm)

/-- Where the bytes in front of a span and behind it stay, only the places of the span change. -/
theorem Placed.sameBytesOff_places (h : header.Placed disk)
    (hoff : disk.SameOff (header.dataSectors disk) disk')
    (hbytes : ∀ i, i / sectorSize < header.sectorCount → ¬ (span.start ≤ i ∧ i < span.stop) →
      header.byteAt disk' i = header.byteAt disk i) :
    disk.SameBytesOff (header.places disk span) disk' := by
  have hdata : header.dataSectors disk' = header.dataSectors disk :=
    dataSectors_congr fun s hs => hoff.2 s (h.notMem_dataSectors_of_mem_indexSectors hs)
  refine ⟨hoff.1, fun s k hplace => ?_⟩
  by_cases hs : s ∈ header.dataSectors disk
  swap
  · rw [hoff.2 s hs]
  obtain ⟨i, hi, hposition⟩ := h.consistent.exists_position hs k
  obtain ⟨rfl, rfl⟩ := Prod.mk.inj hposition
  have hbyte := hbytes i hi fun hspan => hplace ⟨i, hspan.1, hspan.2, rfl⟩
  rwa [byteAt, byteAt, sectorOf, hdata, ← sectorOf] at hbyte

end FileHeader

end SectorStore
