import SectorStore.Proofs.FileHeader.Allocation
import SectorStore.Proofs.FileHeader.RoundTrip
import SectorStore.Proofs.Transfer.Always

/-!
# Looking up one position and listing all sectors agree

`sectorAt` walks to the sector of one byte, through the header or one slot of the index sector;
`sectors` cuts as many numbers out of the header and the index sector as the length asks for.
`sectorAt_agrees_sectors` shows that they say the same on every device from which the index sector,
if there is one, can be read (`HoldsIndex`), and without a write.

Nothing is asked of the header but that it is consistent. Headers that are allocated, grown, written
back and fetched are (`Formed.isConsistent`), and the device they were made for holds their index
sector (`Formed.index_lt`).
-/

namespace SectorStore

namespace FreeMap

variable {map map' : FreeMap}

theorem size_of_take? {sector : SectorId} (h : map.take? = some (sector, map')) :
    map'.size = map.size := by
  rw [take?] at h
  split at h
  · cases h
    exact size_set ..
  · cases h

/-- A sector that is handed out is a sector of the map, however large the map is: a number that is
too large for a sector number is cut off to a lower one. -/
theorem toNat_lt_of_take? {sector : SectorId} (h : map.take? = some (sector, map')) :
    sector.toNat < map.size := by
  rw [take?] at h
  split at h
  · next hfree =>
    cases h
    exact Nat.lt_of_le_of_lt (Nat.mod_le _ _) hfree
  · cases h

theorem size_of_takeMany? {count : Nat} {sectors : Vector SectorId count}
    (h : map.takeMany? count = some (sectors, map')) : map'.size = map.size := by
  induction count generalizing map' with
  | zero =>
    cases h
    rfl
  | succ count ih =>
    simp only [takeMany?, Option.bind_eq_bind, Option.bind_eq_some_iff] at h
    obtain ⟨⟨front, map₁⟩, hfront, ⟨sector, map₂⟩, hlast, heq⟩ := h
    cases heq
    rw [size_of_take? hlast, ih hfront]

end FreeMap

namespace FileHeader

variable {header header' : FileHeader} {map map' : FreeMap} {numSectors : Nat}

/-! ## On a device that holds the index sector -/

section Device

variable {δ : Type} [BlockDevice δ] {device : δ}

/-- The index sector of the header, if there is one, can be read from the device. -/
def HoldsIndex (header : FileHeader) (device : δ) : Prop :=
  ∀ s ∈ header.indexSectors, ∃ data, BlockDevice.read device s.toNat = .ok data

/-- Reading a sector answers what the image shows. -/
theorem run_load_image {s : SectorId} {data : Sector}
    (h : BlockDevice.read device s.toNat = .ok data) (count : Nat) :
    (Transfer.load s).run device = (.ok ((Disk.image device count).get s), device) := by
  rw [Transfer.load, Transfer.run, Disk.get, Disk.sector_image h, h]
  rfl

/-- All sectors of a consistent header are listed if its index sector is there. -/
theorem IsConsistent.run_sectors (h : header.IsConsistent) (hindex : header.HoldsIndex device) :
    header.sectors.run device = (.ok (header.dataSectors (Disk.image device 0)), device) := by
  rw [sectors, dataSectors]
  rw [HoldsIndex, indexSectors] at hindex
  cases hmap : header.map with
  | direct sectors => rfl
  | indirect sectors index =>
    rw [hmap] at hindex
    obtain ⟨data, hdata⟩ := hindex index (List.mem_singleton_self index)
    simp only [h.indirectCount_eq hmap, Transfer.liftM_ok, pure_bind, Transfer.run_bind,
      run_load_image hdata 0, h.front_ofSector, Transfer.run_pure]

/-- The sector of a position inside the file is found if the index sector is there. -/
theorem IsConsistent.run_sectorAt (h : header.IsConsistent) (hindex : header.HoldsIndex device)
    {offset : Nat} (hoffset : offset < header.length) :
    (header.sectorAt offset).run device =
      (.ok (header.sectorOf (Disk.image device 0) (offset / sectorSize)), device) := by
  rcases Nat.lt_or_ge (offset / sectorSize) numDirect with hdirect | hindirect
  · rw [h.sectorAt_eq_pure (Disk.image device 0) hoffset hdirect, Transfer.run_pure]
  · obtain ⟨index, hsectors, hload, hsector⟩ := h.sectorAt_eq_load hoffset hindirect
    obtain ⟨data, hdata⟩ := hindex index (by simp [hsectors])
    rw [hload, Transfer.run_bind, run_load_image hdata 0, hsector]
    rfl

/-- Behind the end of the file there is no sector to be found, and none is looked for. -/
theorem run_sectorAt_of_length_le {offset : Nat} (h : header.length ≤ offset) :
    (header.sectorAt offset).run device =
      (.error (.offsetOutOfRange offset header.length), device) := by
  rw [sectorAt, if_pos h]
  rfl

/-- Looking up the sector of a position agrees with the list of all sectors. -/
structure LooksUp (header : FileHeader) (device : δ) (sectors : List SectorId) : Prop where
  /-- The list is answered. -/
  run_sectors : header.sectors.run device = (.ok sectors, device)
  /-- It has one sector for each begun block of the file. -/
  length_eq : sectors.length = header.sectorCount
  /-- A position inside the file has the sector that the list has for its block. -/
  run_sectorAt : ∀ offset < header.length, ∃ s, sectors[offset / sectorSize]? = some s ∧
    (header.sectorAt offset).run device = (.ok s, device)
  /-- At and behind the end of the file there is a fault. -/
  run_sectorAt_of_le : ∀ offset, header.length ≤ offset → ∃ cause : Fault,
    (header.sectorAt offset).run device = (.error cause, device) ∧
      cause.message? = some s!"offset {offset} out of file range {header.length}"
  /-- If no sector is listed twice, two positions have the same sector exactly if they are in the
  same block. -/
  same_iff : sectors.Nodup → ∀ offset < header.length, ∀ offset' < header.length,
    ((header.sectorAt offset).run device = (header.sectorAt offset').run device ↔
      offset / sectorSize = offset' / sectorSize)

theorem IsConsistent.looksUp (h : header.IsConsistent) (hindex : header.HoldsIndex device) :
    header.LooksUp device (header.dataSectors (Disk.image device 0)) := by
  have hlength := h.length_dataSectors (Disk.image device 0)
  have hget : ∀ offset < header.length,
      (header.dataSectors (Disk.image device 0))[offset / sectorSize]? =
        some (header.sectorOf (Disk.image device 0) (offset / sectorSize)) := by
    intro offset hoffset
    have hblock := div_lt_sectorCount hoffset
    rw [sectorOf, List.getD_eq_getElem?_getD, List.getElem?_eq_getElem (hlength ▸ hblock),
      Option.getD_some]
  refine ⟨h.run_sectors hindex, hlength, ?_, ?_, ?_⟩
  · intro offset hoffset
    exact ⟨_, hget offset hoffset, h.run_sectorAt hindex hoffset⟩
  · intro offset hoffset
    exact ⟨_, run_sectorAt_of_length_le hoffset, rfl⟩
  · intro hnodup offset hoffset offset' hoffset'
    rw [h.run_sectorAt hindex hoffset, h.run_sectorAt hindex hoffset']
    constructor
    · intro heq
      -- equal numbers at two places of a list without repetition are at one place
      have hsame := Except.ok.inj (Prod.mk.inj heq).1
      have hblock := div_lt_sectorCount hoffset
      refine (List.getElem?_inj (hlength ▸ hblock) hnodup).1 ?_
      rw [hget offset hoffset, hget offset' hoffset', hsame]
    · intro heq
      rw [heq]

end Device

/-! ## Headers that come about in the store -/

/-- Allocation that goes through gives a consistent header, with an index sector of the map. -/
theorem grants_allocate (header : FileHeader) (map : FreeMap) (size : Nat) :
    Transfer.Grants
      (fun answer => answer.1.IsConsistent ∧ ∀ s ∈ answer.1.indexSectors, s.toNat < map.size)
      (header.allocate map size) := by
  rw [allocate]
  by_cases hlarge : maxSectors < sectorsFor size
  · simp only [if_pos hlarge]
    exact Transfer.grants_throw _
  have hmax := Nat.le_of_not_lt hlarge
  have hlength := length_of_numBytes hmax
  simp only [if_neg hlarge]
  by_cases hdirect : sectorsFor size ≤ numDirect
  · simp only [if_pos hdirect]
    rcases map.takeMany? (sectorsFor size) with _ | ⟨sectors, map₁⟩
    · exact Transfer.grants_throw _
    · refine Transfer.grants_pure ⟨?_, by simp [indexSectors]⟩
      simp only [IsConsistent, sectorCount, length, hlength, Vector.length_toList]
      exact ⟨trivial, hdirect⟩
  · simp only [if_neg hdirect]
    rcases hfront : map.takeMany? numDirect with _ | ⟨sectors, map₁⟩
    · exact Transfer.grants_throw _
    rcases hindex : map₁.take? with _ | ⟨index, map₂⟩
    · simp only [hindex]
      exact Transfer.grants_throw _
    simp only [hindex]
    rcases map₂.takeMany? (sectorsFor size - numDirect) with _ | ⟨others, map₃⟩
    · exact Transfer.grants_throw _
    refine Transfer.grants_bind fun _ => Transfer.grants_pure ⟨?_, ?_⟩
    · simp only [IsConsistent, sectorCount, length, hlength]
      exact ⟨Nat.lt_of_not_le hdirect, hmax⟩
    · -- the index sector was a free one of the map
      intro s hs
      obtain rfl : s = index := by simpa [indexSectors] using hs
      exact FreeMap.size_of_takeMany? hfront ▸ FreeMap.toNat_lt_of_take? hindex

/-- Growth that goes through gives a consistent header with the same index sector. -/
theorem IsConsistent.of_growTo (h : header.IsConsistent) {stop : Nat} (hstop : header.length ≤ stop)
    (hok : header.growTo map stop = .ok (header', map')) :
    header'.IsConsistent ∧ header'.indexSectors = header.indexSectors := by
  by_cases hsame : sectorsFor stop = header.sectorCount
  · obtain ⟨header₁, hok₁, hgrown⟩ : ∃ header₁, header.growTo map stop = .ok (header₁, map) ∧
        header.Grown map stop [] header₁ map := exists_growTo_within h hsame
    rw [hok, Except.ok.injEq, Prod.mk.injEq] at hok₁
    obtain ⟨rfl, rfl⟩ := hok₁
    exact ⟨hgrown.consistent, hgrown.indexSectors_eq⟩
  have hle : header.sectorCount ≤ sectorsFor stop := sectorsFor_mono hstop
  rw [IsConsistent] at h
  simp only [growTo, if_neg hsame] at hok
  -- a header with an index sector is refused any further sector
  cases hmap : header.map with
  | indirect sectors index => simp [hmap] at hok
  | direct sectors =>
    simp only [hmap] at h hok
    split at hok
    · cases hok
    · next hdirect =>
      have hmax : sectorsFor stop ≤ maxSectors :=
        Nat.le_trans (Nat.le_of_not_lt hdirect) (by decide)
      rcases htake : map.takeMany? (sectorsFor stop - header.sectorCount) with _ | ⟨others, map₁⟩
      · simp [htake] at hok
      · rw [htake] at hok
        cases hok
        refine ⟨?_, by rw [indexSectors, indexSectors, hmap]⟩
        have hcount : sectorsFor (UInt32.ofNat stop).toNat = sectorsFor stop :=
          congrArg sectorsFor (length_of_numBytes hmax)
        show (sectors ++ others.toList).length = sectorsFor (UInt32.toNat _) ∧
          sectorsFor (UInt32.toNat _) ≤ numDirect
        rw [hcount, List.length_append, h.1, Vector.length_toList]
        omega

/-- The headers that come about on volumes of at most `numSectors` sectors. -/
inductive Formed (δ : Type) [BlockDevice δ] (numSectors : Nat) : FileHeader → Prop
  /-- The header of no bytes. -/
  | empty : Formed δ numSectors .empty
  /-- The sectors of a file are taken. -/
  | allocate {header header' : FileHeader} {map map' : FreeMap} {size : Nat} {device device' : δ}
      (hformed : Formed δ numSectors header) (hsize : map.size ≤ numSectors)
      (hrun : (header.allocate map size).run.run device = (.ok (.ok (header', map')), device')) :
      Formed δ numSectors header'
  /-- The file is made longer. -/
  | grow {header header' : FileHeader} {map map' : FreeMap} {extra : Nat}
      (hformed : Formed δ numSectors header)
      (hok : header.grow map extra = .ok (.ok (header', map'))) : Formed δ numSectors header'
  /-- The header is fetched from a sector that has been as it was when the header was written
  back. -/
  | fetch {header header' : FileHeader} {s : SectorId} {device device' : δ}
      (hformed : Formed δ numSectors header)
      (hread : BlockDevice.read device s.toNat = .ok header.encode)
      (hrun : (load s).run device = (.ok header', device')) : Formed δ numSectors header'

theorem Formed.isConsistent_and_index_lt {δ : Type} [BlockDevice δ]
    (h : Formed δ numSectors header) :
    header.IsConsistent ∧ ∀ s ∈ header.indexSectors, s.toNat < numSectors := by
  induction h with
  | empty => exact ⟨isConsistent_empty, nofun⟩
  | allocate _ hsize hrun ih =>
    obtain ⟨hcons, hindex⟩ := (grants_allocate _ _ _).of_run hrun _ rfl
    exact ⟨hcons, fun s hs => Nat.lt_of_lt_of_le (hindex s hs) hsize⟩
  | grow _ hok ih =>
    obtain ⟨hcons, hindex⟩ := ih.1.of_growTo (Nat.le_add_right _ _) (growTo_of_grow hok).2
    exact ⟨hcons, hindex ▸ ih.2⟩
  | fetch _ hread hrun ih =>
    rw [run_load hread, decode?_encode ih.1] at hrun
    cases hrun
    exact ih

/-- Looking up the sector of one position agrees with listing all sectors, for every consistent
header on every device that holds its index sector. That covers what can become of a header: however
it was allocated, grown, written back and fetched, it is consistent, and every device of the
volume's size holds its index sector. -/
theorem sectorAt_agrees_sectors {δ : Type} [BlockDevice δ] (numSectors : Nat) :
    (∀ (header : FileHeader) (device : δ), header.IsConsistent → header.HoldsIndex device →
      ∃ sectors, header.LooksUp device sectors) ∧
    ∀ header : FileHeader, Formed δ numSectors header →
      header.IsConsistent ∧ ∀ device : δ, HasBlocks device numSectors →
        header.HoldsIndex device := by
  constructor
  · intro header device hcons hindex
    exact ⟨_, hcons.looksUp hindex⟩
  · intro header hformed
    obtain ⟨hcons, hindex⟩ := hformed.isConsistent_and_index_lt
    exact ⟨hcons, fun device hblocks s hs => hblocks s.toNat (hindex s hs)⟩

/-- A file of ten sectors is made on a memory disk, written back to sector 19 and fetched from
there. Its position 1100 is in the block of the ninth sector that is listed, which is the first one
that the index sector has. -/
theorem sectorAt_agrees_sectors_of_fetch :
    ∃ (header : FileHeader) (device : RamDisk sectorSize) (sectors : List SectorId),
      Formed (RamDisk sectorSize) 20 header ∧ HasBlocks device 20 ∧
      header.length = 1200 ∧ header.LooksUp device sectors ∧
      ∃ s, sectors[8]? = some s ∧ (header.sectorAt 1100).run device = (.ok s, device) := by
  have hmax : sectorsFor 1200 ≤ maxSectors := by decide
  have hfree : totalSectorsFor 1200 ≤ (FreeMap.free 20).numFree := by decide +kernel
  have hallocate : (empty.allocate (.free 20) 1200).run.Yields
      (Disk.image (RamDisk.zeroed 20 sectorSize) 20) _ :=
    yields_allocate (by decide) (Nat.le_refl 20) hmax hfree
  obtain ⟨_, device₁, hrun, hblocks₁, header₁, map, rfl, hallocated⟩ :=
    hallocate.exists_run (RamDisk.zeroed 20 sectorSize).hasBlocks
  have hformed₁ : Formed (RamDisk sectorSize) 20 header₁ := .allocate .empty (Nat.le_refl 20) hrun
  -- the sector that it is written back to is none of those that it took
  obtain ⟨old, hold⟩ := hblocks₁ 19 (by decide)
  obtain ⟨device, -, hread, hoff⟩ := exists_run_store (s := 19) hold header₁
  have hload : (load 19).run device = (.ok { header₁ with home := none }, device) := by
    rw [run_load hread, decode?_encode hallocated.consistent]
  have hformed := hformed₁.fetch hread hload
  have hblocks : HasBlocks device 20 := by
    intro block hblock
    by_cases h : block = 19
    · subst h
      exact ⟨_, hread⟩
    · rw [hoff block (by simpa using Ne.symm h)]
      exact hblocks₁ block hblock
  have hagrees := sectorAt_agrees_sectors (δ := RamDisk sectorSize) 20
  obtain ⟨hcons, hindex⟩ := hagrees.2 _ hformed
  obtain ⟨sectors, hlooksUp⟩ := hagrees.1 _ device hcons (hindex device hblocks)
  have hlength : ({ header₁ with home := none } : FileHeader).length = 1200 := hallocated.length_eq
  exact ⟨_, device, sectors, hformed, hblocks, hlength, hlooksUp,
    hlooksUp.run_sectorAt 1100 (hlength ▸ by decide)⟩

end FileHeader

end SectorStore
