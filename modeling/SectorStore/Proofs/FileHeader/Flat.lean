import SectorStore.Proofs.FileHeader.Access
import SectorStore.Proofs.Volume.Reading

/-!
# A placed header is one array of bytes

`Placed.writeAt_splices` tells all that a write through a header does to a device: it lays as much
of the data over the bytes of the file as there is room for, reads give the spliced bytes
afterwards, and no other byte of the device changes, be it in another sector, in the index sector,
in the rest of a sector that is written in part, or behind the end of the file.
-/

namespace SectorStore

/-- A slice is cut out again by its own length. -/
theorem Bytes.slice_length_slice (bytes : Bytes) (start count : Nat) :
    bytes.slice start (bytes.slice start count).length = bytes.slice start count := by
  rw [slice, slice, List.take_eq_take_iff, List.length_take, Nat.min_assoc, Nat.min_self]

namespace FileHeader

variable {header : FileHeader} {disk disk' : Disk} {offset written : Nat} {data : Bytes}

/-- Bytes that show the data where it was written and are the old ones elsewhere are spliced. -/
theorem contents_eq_splice (hwritten : written = min data.length (header.length - offset))
    (hbytes : ∀ i, i / sectorSize < header.sectorCount → header.byteAt disk' i =
      if offset ≤ i ∧ i < offset + written then data.getD (i - offset) 0
      else header.byteAt disk i) :
    header.contents disk' = (header.contents disk).splice offset (data.take written) := by
  have hlength := length_contents header disk
  rcases Nat.lt_or_ge header.length offset with hbehind | hoffset
  · -- behind the end there is nothing to write
    obtain rfl : written = 0 := by omega
    rw [List.take_zero, Bytes.splice, List.append_nil, List.length_nil, Nat.add_zero,
      List.take_append_drop, contents, contents]
    refine List.map_congr_left fun i hi => ?_
    rw [hbytes i (div_lt_sectorCount (List.mem_range.1 hi)), if_neg (by omega)]
  have hfits : offset + (data.take written).length ≤ (header.contents disk).length := by
    rw [List.length_take]
    omega
  apply List.ext_getElem
  · rw [Bytes.length_splice hfits, length_contents, length_contents]
  intro i hi hi'
  rw [length_contents] at hi
  have hstart : offset ≤ (header.contents disk).length := hlength.symm ▸ hoffset
  -- byte by byte: what the splice has there, and what was written there
  have hgetD : ((header.contents disk).splice offset (data.take written)).getD i 0 = _ :=
    Bytes.getD_splice hstart i
  rw [List.getD_eq_getElem?_getD, List.getElem?_eq_getElem hi', Option.getD_some] at hgetD
  have hold : (header.contents disk).getD i 0 = header.byteAt disk i := by
    rw [List.getD_eq_getElem?_getD, List.getElem?_eq_getElem (by omega), Option.getD_some,
      getElem_contents]
  rw [getElem_contents, hbytes i (div_lt_sectorCount hi), hgetD, hold, List.length_take]
  by_cases hin : offset ≤ i ∧ i < offset + written
  · rw [if_pos hin, if_neg (by omega), if_pos (by omega), List.getD_eq_getElem?_getD,
      List.getD_eq_getElem?_getD, List.getElem?_take_of_lt (by omega)]
  · rw [if_neg hin]
    split
    · rfl
    · rw [if_neg (by omega)]

/-- A write splices the data into the bytes of the file, as far as the file goes, and changes no
other byte of the disk. -/
theorem Placed.yields_writeAt_splice (h : header.Placed disk)
    (hsum : offset + data.length < sumLimit) :
    (header.writeAt offset data).Yields disk fun written disk' =>
      written = min data.length (header.length - offset) ∧ header.Placed disk' ∧
      header.contents disk' = (header.contents disk).splice offset (data.take written) ∧
      disk.SameBytesOff (header.places disk ⟨offset, offset + written⟩) disk' := by
  refine (h.yields_writeAt hsum).mono ?_
  rintro written disk' ⟨hwritten, hoff, hbytes⟩
  have hindex : ∀ s ∈ header.indexSectors, disk'.get s = disk.get s := fun s hs =>
    hoff.2 s (h.notMem_dataSectors_of_mem_indexSectors hs)
  refine ⟨hwritten, h.congr hoff.1 hindex, contents_eq_splice hwritten hbytes, ?_⟩
  exact h.sameBytesOff_places hoff fun i hi hout => by rw [hbytes i hi, if_neg hout]

section Device

variable {δ : Type} [BlockDevice δ] [LawfulBlockDevice δ] {device : δ} {count : Nat}

/-- Listing the sectors of a header answers those that hold its bytes, and writes nothing. -/
theorem Inside.run_sectors (h : header.Inside (Disk.image device count))
    (hblocks : HasBlocks device count) :
    header.sectors.run device = (.ok (header.dataSectors (Disk.image device count)), device) :=
  header.onlyReads_sectors.run_eq hblocks (h.yields_sectors.2 rfl)

/-- A read fills the front of the buffer with the bytes of the file, and writes nothing. -/
theorem Inside.run_readAt (h : header.Inside (Disk.image device count))
    (hblocks : HasBlocks device count) {buffer : Bytes} (hsum : offset + buffer.length < sumLimit) :
    (header.readAt offset buffer).run device =
      (.ok (.front buffer ((header.contents (Disk.image device count)).slice offset buffer.length)),
        device) := by
  refine (header.onlyReads_readAt offset buffer).run_eq hblocks ?_
  rw [readAt, Transfer.yields_bind, h.yields_readBytes hsum, Transfer.yields_pure]

omit [LawfulBlockDevice δ] in
/-- The sectors of a header that is placed on a device are placed on its first blocks, as many as
sectors can be numbered. -/
theorem Placed.image_min (h : header.Placed (Disk.image device count)) :
    header.Placed (Disk.image device (min count (2 ^ 32))) where
  consistent := h.consistent
  nodup := h.nodup
  lt_count s hs := Nat.lt_min.2 ⟨h.lt_count s hs, s.toNat_lt⟩

/-- A write at `offset` through a placed header accepts as many bytes of the data as there are in
the file from there on. Every read afterwards gives the bytes of the file with these laid over them,
as far as the file goes, and leaves the rest of its buffer alone. No other byte of the device
changes. The ends of what is written and read are told in numbers of 64 bits. -/
theorem Placed.writeAt_splices (h : header.Placed (Disk.image device count))
    (hblocks : HasBlocks device count) (hsum : offset + data.length < sumLimit) :
    ∃ written device', (header.writeAt offset data).run device = (.ok written, device') ∧
      written = (if header.length ≤ offset then 0 else min data.length (header.length - offset)) ∧
      (∀ start (buffer : Bytes), start + buffer.length < sumLimit → ∃ filling,
        (header.readAt start buffer).run device' = (.ok filling, device') ∧
        filling.count = min (start + buffer.length) header.length - start ∧
        filling.buffer =
          ((header.contents (Disk.image device count)).splice offset (data.take written)).slice
            start filling.count ++ buffer.drop filling.count) ∧
      SameBytesOff (header.places (Disk.image device count) ⟨offset, offset + written⟩)
        device device' := by
  have hfirst := h.image_min
  have hblocks' : HasBlocks device (min count (2 ^ 32)) := fun block hblock =>
    hblocks block (Nat.lt_min.1 hblock).1
  have hyields := hfirst.yields_writeAt_splice hsum
  obtain ⟨written, device', hrun, hdevice', hwritten, hplaced, hcontents, hoff⟩ :=
    hyields.exists_run hblocks'
  refine ⟨written, device', hrun, ?_, ?_,
    hyields.sameBytesOff hblocks' (Nat.min_le_right _ _) hrun hoff⟩
  · rw [hwritten]
    split <;> omega
  intro start buffer hread
  have hspliced : header.contents (Disk.image device' (min count (2 ^ 32))) =
      (header.contents (Disk.image device count)).splice offset (data.take written) := hcontents
  have hlength := length_contents header (Disk.image device' (min count (2 ^ 32)))
  refine ⟨_, hplaced.inside.run_readAt hdevice' hread, ?_, ?_⟩
  · simp only [Filling.front, Bytes.slice, List.length_take, List.length_drop, hlength]
    omega
  · rw [← hspliced, Filling.front, Bytes.slice_length_slice, Bytes.splice, List.take_zero,
      List.nil_append, Nat.zero_add]

/-- On a memory disk of twelve blocks, data is written across the border between the sectors that
the header lists and those that the index sector lists, up to the end of the file and beyond. -/
theorem Placed.writeAt_splices_of_indirect :
    ∃ header : FileHeader, header.map = .indirect #v[10, 9, 8, 7, 6, 5, 4, 3] 11 ∧
      header.length = 1100 ∧ header.Placed (Disk.image (RamDisk.zeroed 12 sectorSize) 12) ∧
      HasBlocks (RamDisk.zeroed 12 sectorSize) 12 ∧
      1000 + (List.replicate 200 (7 : UInt8)).length < sumLimit ∧
      ∃ written device',
        (header.writeAt 1000 (List.replicate 200 7)).run (RamDisk.zeroed 12 sectorSize) =
          (.ok written, device') ∧
        written = 100 ∧
        (∀ start (buffer : Bytes), start + buffer.length < sumLimit → ∃ filling,
          (header.readAt start buffer).run device' = (.ok filling, device') ∧
          filling.count = min (start + buffer.length) header.length - start ∧
          filling.buffer =
            ((header.contents (Disk.image (RamDisk.zeroed 12 sectorSize) 12)).splice 1000
              ((List.replicate 200 7).take written)).slice start filling.count ++
              buffer.drop filling.count) ∧
        SameBytesOff (header.places (Disk.image (RamDisk.zeroed 12 sectorSize) 12)
          ⟨1000, 1000 + written⟩) (RamDisk.zeroed 12 sectorSize) device' := by
  let header : FileHeader := { empty with
    numBytes := 1100, map := .indirect #v[10, 9, 8, 7, 6, 5, 4, 3] 11 }
  -- checked along the list: deciding it for all `s` would go through all numbers of sectors
  have hinside : (header.allSectors (Disk.image (RamDisk.zeroed 12 sectorSize) 12)).all
      (·.toNat < 12) = true := by decide +kernel
  have hplaced : header.Placed (Disk.image (RamDisk.zeroed 12 sectorSize) 12) :=
    ⟨by decide, by decide +kernel, fun s hs => of_decide_eq_true (List.all_eq_true.1 hinside s hs)⟩
  have hblocks : HasBlocks (RamDisk.zeroed 12 sectorSize) 12 := RamDisk.hasBlocks _
  have hsum : 1000 + (List.replicate 200 (7 : UInt8)).length < sumLimit := by
    rw [List.length_replicate]
    decide
  obtain ⟨written, device', hrun, hwritten, hreads, hoff⟩ := hplaced.writeAt_splices hblocks hsum
  have hcount : written = 100 := hwritten.trans (by decide +kernel)
  exact ⟨header, rfl, rfl, hplaced, hblocks, hsum, written, device', hrun, hcount, hreads, hoff⟩

end Device

end FileHeader

end SectorStore
