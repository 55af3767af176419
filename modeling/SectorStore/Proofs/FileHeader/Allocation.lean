import SectorStore.FileHeader.Allocation
import SectorStore.Proofs.FileHeader.Access
import SectorStore.Proofs.FreeMap.Taking

/-!
# Sectors taken and given back by headers

What `grow`, `allocate` and `release` do, told by the sets of sectors: which requests are met, which
sectors are taken, and that the header that comes out is consistent again.

* `Growable`, `exists_growTo`: growth is possible within the last sector, or within the sectors that
  a header lists itself if there are enough free ones; the old bytes keep their places.
* `yields_allot`: a request of a possible size is met if there are enough free sectors, by the
  lowest ones in the order in which the header and the index sector list them.
* `Placed.yields_release`: the sectors of a placed header can be given back.
-/

namespace SectorStore.FileHeader

variable {header header' : FileHeader} {map map' : FreeMap} {disk disk' : Disk}

theorem length_of_numBytes {size : Nat} (h : sectorsFor size ≤ maxSectors) :
    (UInt32.ofNat size).toNat = size := by
  apply UInt32.toNat_ofNat_of_lt
  rw [sectorsFor, sectorSize_eq, maxSectors_eq] at h
  rw [UInt32.size]
  omega

/-! ## Growth -/

/-- A file of `length` bytes can be made to end at `stop` where `free` sectors are free: its last
sector reaches that far, or its header has room for the sectors that are missing and there are
enough free ones. -/
def Growable (length free stop : Nat) : Prop :=
  sectorsFor stop = sectorsFor length ∨
    sectorsFor length ≤ numDirect ∧ sectorsFor stop ≤ numDirect ∧
      sectorsFor stop - sectorsFor length ≤ free

instance (length free stop : Nat) : Decidable (Growable length free stop) :=
  inferInstanceAs (Decidable (_ ∨ _))

/-- The length of a file of `length` bytes after a write that was to end at `stop`. -/
def reach (length free stop : Nat) : Nat :=
  if length < stop ∧ Growable length free stop then stop else length

theorem le_reach (length free stop : Nat) : length ≤ reach length free stop := by
  rw [reach]
  split <;> omega

/-- The header and the map after growth up to `stop`, with `fresh` as the new sectors. -/
structure Grown (header : FileHeader) (map : FreeMap) (stop : Nat) (fresh : List SectorId)
    (header' : FileHeader) (map' : FreeMap) : Prop where
  /-- The new sectors are the lowest free ones. -/
  takes : map.Takes fresh map'
  /-- The file ends where it was to end. -/
  length_eq : header'.length = stop
  /-- The header is consistent again. -/
  consistent : header'.IsConsistent
  /-- The new sectors come behind the old ones. -/
  dataSectors_eq : ∀ disk, header'.dataSectors disk = header.dataSectors disk ++ fresh
  /-- There is no other index sector than before. -/
  indexSectors_eq : header'.indexSectors = header.indexSectors
  /-- A file with an index sector gets no new sectors. -/
  fresh_eq_nil : header.indexSectors ≠ [] → fresh = []
  /-- Only the length and the sectors change. -/
  fields_eq : header' = { header with numBytes := header'.numBytes, map := header'.map }

/-- Where the new length can be told, growth is growth up to it. -/
theorem grow_eq_growTo {extra : Nat} (hsum : header.length + extra < sumLimit) :
    header.grow map extra = .ok (header.growTo map (header.length + extra)) := by
  rw [grow, checkedAdd_eq hsum]
  rfl

theorem grow_eq {stop : Nat} (hstop : header.length ≤ stop) (hsum : stop < sumLimit) :
    header.grow map (stop - header.length) = .ok (header.growTo map stop) := by
  have hadd : header.length + (stop - header.length) = stop := Nat.add_sub_of_le hstop
  rw [grow_eq_growTo (hadd.symm ▸ hsum), hadd]

/-- Growth that runs through is growth up to the new length. -/
theorem growTo_of_grow {extra : Nat} {answer : Except Refusal (FileHeader × FreeMap)}
    (hok : header.grow map extra = .ok answer) :
    header.length + extra < sumLimit ∧ header.growTo map (header.length + extra) = answer := by
  by_cases hsum : header.length + extra < sumLimit
  · rw [grow_eq_growTo hsum] at hok
    exact ⟨hsum, Except.ok.inj hok⟩
  · rw [grow, checkedAdd_eq_error hsum] at hok
    cases hok

/-- Growth is refused if the file cannot be made to end there. -/
theorem exists_growTo_eq_error (h : header.IsConsistent) (hsize : map.size ≤ 2 ^ 32) {stop : Nat}
    (hgrow : ¬ Growable header.length map.numFree stop) :
    ∃ cause, header.growTo map stop = .error cause := by
  rw [Growable, ← sectorCount, not_or] at hgrow
  rw [IsConsistent] at h
  simp only [growTo, if_neg hgrow.1]
  split at h
  · next sectors hmap =>
    simp only [hmap]
    split
    · exact ⟨_, rfl⟩
    · next hdirect =>
      have hnone : map.takeMany? (sectorsFor stop - header.sectorCount) = none := by
        rw [FreeMap.takeMany?_eq_none_iff hsize]
        by_contra hle
        exact hgrow.2 ⟨h.2, Nat.le_of_not_lt hdirect, Nat.le_of_not_lt hle⟩
      rw [hnone]
      exact ⟨_, rfl⟩
  · next sectors index hmap =>
    simp only [hmap]
    exact ⟨_, rfl⟩

/-- A file can be made longer within the sectors that it has. -/
theorem exists_growTo_within (h : header.IsConsistent) {stop : Nat}
    (hsame : sectorsFor stop = header.sectorCount) :
    ∃ header', header.growTo map stop = .ok (header', map) ∧
      header.Grown map stop [] header' map := by
  have hlength := length_of_numBytes (hsame ▸ h.sectorCount_le)
  let header' := { header with numBytes := .ofNat stop }
  have hcount : header'.sectorCount = header.sectorCount := by
    rw [← hsame, sectorCount]
    exact congrArg sectorsFor hlength
  refine ⟨header', by simp only [growTo, if_pos hsame, header'], FreeMap.Takes.nil map,
    hlength, ?_, ?_, rfl, fun _ => rfl, rfl⟩
  · rw [IsConsistent] at h ⊢
    rwa [hcount]
  · intro disk
    rw [dataSectors, hcount, List.append_nil]
    rfl

/-- A file whose header lists all its sectors gets those that are missing, if it can list them too
and there are enough free ones. -/
theorem exists_growTo_direct (h : header.IsConsistent) (hsize : map.size ≤ 2 ^ 32) {stop : Nat}
    (hstop : header.length ≤ stop) (hsame : sectorsFor stop ≠ header.sectorCount)
    (hold : header.sectorCount ≤ numDirect) (hdirect : sectorsFor stop ≤ numDirect)
    (hfree : sectorsFor stop - header.sectorCount ≤ map.numFree) :
    ∃ header' map' fresh, header.growTo map stop = .ok (header', map') ∧
      header.Grown map stop fresh header' map' := by
  have hlength : (UInt32.ofNat stop).toNat = stop :=
    length_of_numBytes (Nat.le_trans hdirect (by decide))
  obtain ⟨others, map', htake, htakes⟩ := FreeMap.exists_takeMany? hsize hfree
  rw [IsConsistent] at h
  split at h
  · next sectors hmap =>
    let header' := { header with
      numBytes := .ofNat stop
      map := .direct (sectors ++ others.toList) }
    have hcount : header'.sectorCount = sectorsFor stop :=
      congrArg sectorsFor hlength
    have hle : header.sectorCount ≤ sectorsFor stop := sectorsFor_mono hstop
    refine ⟨header', map', others.toList, ?grown, htakes, hlength, ?consistent, ?data, ?index,
      ?none, rfl⟩
    case grown =>
      simp only [growTo, if_neg hsame, hmap, if_neg (Nat.not_lt.2 hdirect), htake, header']
    case consistent =>
      show (sectors ++ others.toList).length = header'.sectorCount ∧
        header'.sectorCount ≤ numDirect
      rw [hcount, List.length_append, h.1, Vector.length_toList]
      omega
    case data =>
      intro disk
      simp only [dataSectors, hmap, header']
    case index => simp only [indexSectors, hmap, header']
    case none =>
      intro hne
      simp [indexSectors, hmap] at hne
  -- a header with an index sector has more sectors than it can list
  · omega

/-- Growth goes through if the file can be made to end there. -/
theorem exists_growTo (h : header.IsConsistent) (hsize : map.size ≤ 2 ^ 32) {stop : Nat}
    (hstop : header.length ≤ stop) (hgrow : Growable header.length map.numFree stop) :
    ∃ header' map' fresh, header.growTo map stop = .ok (header', map') ∧
      header.Grown map stop fresh header' map' := by
  rw [Growable, ← sectorCount] at hgrow
  by_cases hsame : sectorsFor stop = header.sectorCount
  · obtain ⟨header', hok, hgrown⟩ := exists_growTo_within h hsame
    exact ⟨header', map, [], hok, hgrown⟩
  · obtain ⟨hold, hdirect, hfree⟩ := hgrow.resolve_left hsame
    exact exists_growTo_direct h hsize hstop hsame hold hdirect hfree

/-- A file with an index sector does not get more sectors, and no file more than a header can
list. -/
theorem growTo_eq_expandBeyondDirect {stop : Nat}
    (hcount : sectorsFor stop ≠ header.sectorCount)
    (hbeyond : header.indexSectors ≠ [] ∨ numDirect < sectorsFor stop) :
    header.growTo map stop = .error .expandBeyondDirect := by
  simp only [growTo, if_neg hcount]
  cases hmap : header.map with
  | direct sectors =>
    have hlarge := hbeyond.resolve_left (by simp [indexSectors, hmap])
    simp only [if_pos hlarge]
  | indirect sectors index => rfl

/-- A file whose header could list the sectors that are missing is refused them if there are too
few. -/
theorem growTo_eq_noSpace (hsize : map.size ≤ 2 ^ 32) {stop : Nat}
    (hcount : sectorsFor stop ≠ header.sectorCount)
    (hdirect : header.indexSectors = []) (hlisted : sectorsFor stop ≤ numDirect)
    (hfree : map.numFree < sectorsFor stop - header.sectorCount) :
    header.growTo map stop = .error .noSpace := by
  have hnone := (FreeMap.takeMany?_eq_none_iff hsize).2 hfree
  simp only [growTo, if_neg hcount]
  cases hmap : header.map with
  | direct sectors => simp only [if_neg (Nat.not_lt.2 hlisted), hnone]
  | indirect sectors index => simp [indexSectors, hmap] at hdirect

/-- All sectors of a grown file are the old ones and the new ones. -/
theorem Grown.allSectors_eq {stop : Nat} {fresh : List SectorId}
    (h : header.Grown map stop fresh header' map') (disk : Disk) :
    header'.allSectors disk = header.allSectors disk ++ fresh := by
  rw [allSectors, allSectors, h.dataSectors_eq, h.indexSectors_eq]
  by_cases hindex : header.indexSectors = []
  · rw [hindex, List.append_nil, List.append_nil]
  · rw [h.fresh_eq_nil hindex, List.append_nil, List.append_nil]

/-- The new sectors are as many as are missing. -/
theorem Grown.length_fresh {stop : Nat} {fresh : List SectorId}
    (h : header.Grown map stop fresh header' map') (hold : header.IsConsistent) :
    fresh.length = sectorsFor stop - header.sectorCount := by
  have hcount := congrArg List.length (h.dataSectors_eq ⟨0, fun _ => Sector.zero⟩)
  rw [List.length_append, h.consistent.length_dataSectors, hold.length_dataSectors, sectorCount,
    h.length_eq] at hcount
  omega

/-- A map with an index sector stays as it is, and any other has the new sectors behind the old
ones. -/
theorem Grown.map_eq {stop : Nat} {fresh : List SectorId}
    (h : header.Grown map stop fresh header' map') :
    header'.map = match header.map with
      | .direct sectors => .direct (sectors ++ fresh)
      | .indirect sectors index => .indirect sectors index := by
  let disk : Disk := ⟨0, fun _ => Sector.zero⟩
  have hdata := h.dataSectors_eq disk
  have hindex := h.indexSectors_eq
  cases hmap : header.map with
  | direct sectors =>
    let longer : FileHeader := { header with map := .direct (sectors ++ fresh) }
    have hsectors : header'.dataSectors disk = longer.dataSectors disk := by
      rw [hdata]
      simp only [dataSectors, hmap, longer]
    have hnone : header'.indexSectors = longer.indexSectors := by
      rw [hindex]
      simp only [indexSectors, hmap, longer]
    exact map_eq_of_sectors_eq hsectors hnone
  | indirect sectors index =>
    have hnone : fresh = [] := h.fresh_eq_nil (by simp [indexSectors, hmap])
    rw [hnone, List.append_nil] at hdata
    exact (map_eq_of_sectors_eq hdata hindex).trans hmap

/-- The old positions are looked up as before. -/
theorem Grown.sectorAt_eq {stop : Nat} {fresh : List SectorId}
    (h : header.Grown map stop fresh header' map') (hold : header.IsConsistent)
    (hstop : header.length ≤ stop) {offset : Nat} (hoffset : offset < header.length) :
    header'.sectorAt offset = header.sectorAt offset := by
  have hmap' := h.map_eq
  have hlength := h.length_eq
  rw [sectorAt, sectorAt, if_neg (by omega), if_neg (Nat.not_le.2 hoffset)]
  rw [IsConsistent] at hold
  cases hmap : header.map with
  | direct sectors =>
    simp only [hmap] at hold hmap'
    have hblock : offset / sectorSize < sectors.length := hold.1 ▸ div_lt_sectorCount hoffset
    simp only [hmap', SectorTable.entry, List.getElem?_append_left hblock]
  | indirect sectors index =>
    simp only [hmap] at hmap'
    simp only [hmap']

/-- The bytes of the old sectors keep their positions. -/
theorem Grown.byteAt_eq {stop : Nat} {fresh : List SectorId}
    (h : header.Grown map stop fresh header' map') (hold : header.IsConsistent) (disk : Disk)
    {i : Nat} (hi : i / sectorSize < header.sectorCount) :
    header'.byteAt disk i = header.byteAt disk i := by
  have hsector :
      header'.sectorOf disk (i / sectorSize) = header.sectorOf disk (i / sectorSize) := by
    rw [sectorOf, sectorOf, h.dataSectors_eq, List.getD_eq_getElem?_getD,
      List.getElem?_append_left (by rwa [hold.length_dataSectors]), List.getD_eq_getElem?_getD]
  simp only [byteAt, hsector]

/-! ## Allocation -/

/-- The header, the map and the disk after the sectors for `size` bytes were taken. -/
structure Allocated (header : FileHeader) (map : FreeMap) (size : Nat) (disk : Disk)
    (header' : FileHeader) (map' : FreeMap) (disk' : Disk) : Prop where
  /-- The file has the length that was asked for. -/
  length_eq : header'.length = size
  /-- The header is consistent. -/
  consistent : header'.IsConsistent
  /-- The sectors of the file are the lowest free ones. -/
  takes : ∃ taken, map.Takes taken map' ∧ (header'.allSectors disk').Perm taken
  /-- Nothing but the index sector is written. -/
  sameOff : disk.SameOff header'.indexSectors disk'
  /-- Only the length and the sectors change. -/
  fields_eq : header' = { header with numBytes := header'.numBytes, map := header'.map }

/-- The header, the map and the disk after the sectors `taken` were handed to a file of `size`
bytes: its header lists the first ones, the next one is the index sector, which lists the rest. -/
structure Allotted (header : FileHeader) (map : FreeMap) (size : Nat) (taken : List SectorId)
    (disk : Disk) (header' : FileHeader) (map' : FreeMap) (disk' : Disk) : Prop where
  /-- The sectors are the lowest free ones. -/
  takes : map.Takes taken map'
  /-- They are as many as the size asks for. -/
  length_taken : taken.length = totalSectorsFor size
  /-- The file has the length that was asked for. -/
  length_eq : header'.length = size
  /-- The header is consistent. -/
  consistent : header'.IsConsistent
  /-- The header lists the first sectors. -/
  listed_eq : header'.map.listed = taken.take numDirect
  /-- The next sector is the index sector. -/
  indexSectors_eq : header'.indexSectors = (taken.drop numDirect).take 1
  /-- The bytes of the file are in all sectors but the index sector. -/
  dataSectors_eq : header'.dataSectors disk' = taken.take numDirect ++ taken.drop (numDirect + 1)
  /-- The index sector has the numbers of the sectors that the header does not list. -/
  get_index : ∀ s ∈ header'.indexSectors,
    disk'.get s = SectorTable.toSector (taken.drop (numDirect + 1))
  /-- Nothing but the index sector is written. -/
  sameOff : disk.SameOff header'.indexSectors disk'
  /-- Only the length and the sectors change. -/
  fields_eq : header' = { header with numBytes := header'.numBytes, map := header'.map }

theorem Allotted.allocated {size : Nat} {taken : List SectorId}
    (h : header.Allotted map size taken disk header' map' disk') :
    header.Allocated map size disk header' map' disk' := by
  refine ⟨h.length_eq, h.consistent, ⟨taken, h.takes, ?_⟩, h.sameOff, h.fields_eq⟩
  -- the index sector was taken before the sectors that it lists
  have hsplit : taken = taken.take numDirect ++
      ((taken.drop numDirect).take 1 ++ taken.drop (numDirect + 1)) := by
    rw [← List.drop_drop, List.take_append_drop, List.take_append_drop]
  rw [allSectors, h.dataSectors_eq, h.indexSectors_eq, List.append_assoc]
  conv_rhs => rw [hsplit]
  exact List.perm_append_comm.append_left _

theorem allocate_eq_fileTooLarge {size : Nat} (h : maxSectors < sectorsFor size) :
    header.allocate map size = throw .fileTooLarge := by
  simp only [allocate, if_pos h]

/-- A request is refused if there are fewer free sectors than it needs. -/
theorem allocate_eq_noSpace (hsize : map.size ≤ 2 ^ 32) {size : Nat}
    (hmax : sectorsFor size ≤ maxSectors) (hfree : map.numFree < totalSectorsFor size) :
    header.allocate map size = throw .noSpace := by
  simp only [allocate, if_neg (Nat.not_lt.2 hmax)]
  by_cases hdirect : sectorsFor size ≤ numDirect
  · have hnone : map.takeMany? (sectorsFor size) = none := by
      rw [FreeMap.takeMany?_eq_none_iff hsize]
      rwa [totalSectorsFor, if_neg (Nat.not_lt.2 hdirect)] at hfree
    rw [if_pos hdirect, hnone]
  · -- too few sectors show at the first search that fails: direct, index, or the rest
    rw [if_neg hdirect]
    rw [totalSectorsFor, if_pos (Nat.lt_of_not_le hdirect)] at hfree
    rcases htake : map.takeMany? numDirect with _ | ⟨sectors, map₁⟩
    · rfl
    have htakes := FreeMap.takes_of_takeMany? hsize htake
    have hcount := htakes.numFree_add_length
    rw [Vector.length_toList] at hcount
    rcases htake₁ : map₁.take? with _ | ⟨index, map₂⟩
    · simp only [htake₁]
    have hsize₁ : map₁.size ≤ 2 ^ 32 := htakes.size_eq ▸ hsize
    have htakes₁ := FreeMap.takes_of_take? hsize₁ htake₁
    have hcount₁ := htakes₁.numFree_add_length
    rw [List.length_singleton] at hcount₁
    have hnone : map₂.takeMany? (sectorsFor size - numDirect) = none := by
      rw [FreeMap.takeMany?_eq_none_iff (htakes₁.size_eq ▸ hsize₁)]
      omega
    simp only [htake₁, hnone]

/-- A file whose header can list all its sectors gets as many as its size asks for. -/
theorem yields_allot_direct (hsize : map.size ≤ 2 ^ 32) {size : Nat}
    (hdirect : sectorsFor size ≤ numDirect) (hfree : totalSectorsFor size ≤ map.numFree) :
    (header.allocate map size).run.Yields disk fun answer disk' =>
      ∃ header' map' taken, answer = .ok (header', map') ∧
        header.Allotted map size taken disk header' map' disk' := by
  have hmax : sectorsFor size ≤ maxSectors := Nat.le_trans hdirect (by decide)
  have hlength := length_of_numBytes hmax
  have htotal : totalSectorsFor size = sectorsFor size := by
    rw [totalSectorsFor, if_neg (Nat.not_lt.2 hdirect), Nat.add_zero]
  obtain ⟨sectors, map', htake, htakes⟩ := FreeMap.exists_takeMany? hsize (htotal ▸ hfree)
  have hcount : sectors.toList.length ≤ numDirect := by rwa [Vector.length_toList]
  have hall : sectors.toList.take numDirect = sectors.toList := List.take_of_length_le hcount
  have hnone : ∀ n, numDirect ≤ n → sectors.toList.drop n = [] := fun n hn =>
    List.drop_eq_nil_of_le (Nat.le_trans hcount hn)
  simp only [allocate, if_neg (Nat.not_lt.2 hmax), if_pos hdirect, htake, Transfer.yields_run_pure]
  refine ⟨_, _, sectors.toList, rfl, htakes, ?_, hlength, ?_, ?_, ?_, ?_, ?_,
    Disk.SameOff.refl _ _, rfl⟩
  · rw [Vector.length_toList, htotal]
  · simp only [IsConsistent, sectorCount, length, hlength, Vector.length_toList, true_and]
    exact hdirect
  · rw [hall]
    rfl
  · rw [hnone _ (Nat.le_refl _)]
    rfl
  · rw [hall, hnone _ (Nat.le_succ _), List.append_nil]
    rfl
  · exact fun s hs => absurd hs List.not_mem_nil

/-- A larger file gets sectors for its header to list, an index sector, and sectors that this one
lists, which is written at once. -/
theorem yields_allot_indirect (hsize : map.size ≤ 2 ^ 32) (hcount : map.size ≤ disk.count)
    {size : Nat} (hindirect : numDirect < sectorsFor size) (hmax : sectorsFor size ≤ maxSectors)
    (hfree : totalSectorsFor size ≤ map.numFree) :
    (header.allocate map size).run.Yields disk fun answer disk' =>
      ∃ header' map' taken, answer = .ok (header', map') ∧
        header.Allotted map size taken disk header' map' disk' := by
  have hlength := length_of_numBytes hmax
  have htotal : totalSectorsFor size = sectorsFor size + 1 := by
    rw [totalSectorsFor, if_pos hindirect]
  obtain ⟨sectors, map₁, htake, htakes⟩ :=
    FreeMap.exists_takeMany? hsize (show numDirect ≤ map.numFree by omega)
  have hcount₁ := htakes.numFree_add_length
  rw [Vector.length_toList] at hcount₁
  have hsize₁ : map₁.size ≤ 2 ^ 32 := htakes.size_eq ▸ hsize
  obtain ⟨index, map₂, htake₁, htakes₁⟩ := FreeMap.exists_take? hsize₁ (by omega)
  have hcount₂ := htakes₁.numFree_add_length
  rw [List.length_singleton] at hcount₂
  have hsize₂ : map₂.size ≤ 2 ^ 32 := htakes₁.size_eq ▸ hsize₁
  obtain ⟨others, map₃, htake₂, htakes₂⟩ :=
    FreeMap.exists_takeMany? hsize₂ (show sectorsFor size - numDirect ≤ map₂.numFree by omega)
  have hindex : index.toNat < disk.count := by
    have hlt := htakes₁.lt_size index (List.mem_singleton_self _)
    rw [htakes.size_eq] at hlt
    omega
  -- the index sector has room for the rest, and lists it again when it is read
  have hothers : (SectorTable.ofSector (SectorTable.toSector others.toList)).take
      (sectorsFor size - numDirect) = others.toList := by
    have htable : others.toList.length ≤ indexCapacity := by
      rw [Vector.length_toList, indexCapacity_eq]
      rw [maxSectors_eq] at hmax
      rw [numDirect_eq]
      omega
    have := SectorTable.take_ofSector_toSector htable
    rwa [Vector.length_toList] at this
  simp only [allocate, if_neg (Nat.not_lt.2 hmax), if_neg (Nat.not_le.2 hindirect), htake, htake₁,
    htake₂, Transfer.yields_run_bind, Transfer.yields_run_lift, Transfer.yields_store hindex,
    Transfer.yields_run_pure]
  -- the sectors in the order in which they were taken
  have hfront : (sectors.toList ++ [index] ++ others.toList).take numDirect = sectors.toList := by
    rw [List.append_assoc, List.take_left' (Vector.length_toList ..)]
  have hnext : (sectors.toList ++ [index] ++ others.toList).drop numDirect =
      index :: others.toList := by
    rw [List.append_assoc, List.drop_left' (Vector.length_toList ..), List.singleton_append]
  have hrest : (sectors.toList ++ [index] ++ others.toList).drop (numDirect + 1) =
      others.toList := by
    rw [← List.drop_drop, hnext, List.drop_one, List.tail_cons]
  refine ⟨_, _, sectors.toList ++ [index] ++ others.toList, rfl,
    (htakes.append htakes₁).append htakes₂, ?_, hlength, ?_, hfront.symm, ?_, ?_, ?_,
    Disk.SameOff.put disk index _, rfl⟩
  · simp only [List.length_append, Vector.length_toList, List.length_singleton]
    omega
  · simp only [IsConsistent, sectorCount, length, hlength]
    exact ⟨hindirect, hmax⟩
  · rw [hnext]
    rfl
  · rw [hfront, hrest]
    simp only [dataSectors, sectorCount, length, hlength, Disk.get_put_self, hothers]
  · intro s hs
    obtain rfl := List.mem_singleton.1 hs
    rw [hrest, Disk.get_put_self]

/-- A request of a possible size is met by the lowest free sectors if there are enough. -/
theorem yields_allot (hsize : map.size ≤ 2 ^ 32) (hcount : map.size ≤ disk.count) {size : Nat}
    (hmax : sectorsFor size ≤ maxSectors) (hfree : totalSectorsFor size ≤ map.numFree) :
    (header.allocate map size).run.Yields disk fun answer disk' =>
      ∃ header' map' taken, answer = .ok (header', map') ∧
        header.Allotted map size taken disk header' map' disk' := by
  rcases Nat.lt_or_ge numDirect (sectorsFor size) with hindirect | hdirect
  · exact yields_allot_indirect hsize hcount hindirect hmax hfree
  · exact yields_allot_direct hsize hdirect hfree

/-- A request of a possible size is met if there are enough free sectors. -/
theorem yields_allocate (hsize : map.size ≤ 2 ^ 32) (hcount : map.size ≤ disk.count) {size : Nat}
    (hmax : sectorsFor size ≤ maxSectors) (hfree : totalSectorsFor size ≤ map.numFree) :
    (header.allocate map size).run.Yields disk fun answer disk' =>
      ∃ header' map', answer = .ok (header', map') ∧
        header.Allocated map size disk header' map' disk' := by
  refine (yields_allot hsize hcount hmax hfree).mono ?_
  rintro answer disk' ⟨header', map', taken, hanswer, hallotted⟩
  exact ⟨header', map', hanswer, hallotted.allocated⟩

/-- The sectors of a new file were free. -/
theorem Allocated.free {size : Nat} (h : header.Allocated map size disk header' map' disk')
    {s : SectorId} (hs : s ∈ header'.allSectors disk') : s.toNat ∉ map := by
  obtain ⟨taken, htakes, hperm⟩ := h.takes
  exact htakes.free s (hperm.subset hs)

theorem Allocated.placed {size : Nat} (h : header.Allocated map size disk header' map' disk')
    (hcount : map.size ≤ disk.count) : header'.Placed disk' := by
  obtain ⟨taken, htakes, hperm⟩ := h.takes
  refine ⟨h.consistent, hperm.nodup_iff.2 htakes.nodup, ?_⟩
  intro s hs
  rw [h.sameOff.1]
  exact Nat.lt_of_lt_of_le (htakes.lt_size s (hperm.subset hs)) hcount

theorem Allocated.size_eq {size : Nat} (h : header.Allocated map size disk header' map' disk') :
    map'.size = map.size := by
  obtain ⟨taken, htakes, -⟩ := h.takes
  exact htakes.size_eq

/-- A new file takes the sectors that its size asks for. -/
theorem Allocated.numFree_eq {size : Nat} (h : header.Allocated map size disk header' map' disk') :
    map'.numFree + totalSectorsFor size = map.numFree := by
  obtain ⟨taken, htakes, hperm⟩ := h.takes
  rw [← htakes.numFree_add_length, ← hperm.length_eq, h.consistent.length_allSectors, h.length_eq]

/-! ## Release -/

/-- The sectors of a placed header can be given back if they are taken. -/
theorem Placed.yields_release (h : header.Placed disk)
    (htaken : ∀ s ∈ header.allSectors disk, s.toNat ∈ map) :
    (header.release map).Yields disk fun answer disk' =>
      disk' = disk ∧ map.GivesBack (header.allSectors disk) answer.2 := by
  obtain ⟨map', hall, hback⟩ := FreeMap.exists_releaseAll h.nodup htaken
  rw [release]
  rw [allSectors, dataSectors, indexSectors] at hall
  cases hmap : header.map with
  | direct sectors =>
    simp only [hmap, List.append_nil] at hall
    simp only [SectorMap.listed, hall, Transfer.liftM_ok, pure_bind, Transfer.yields_pure]
    exact ⟨trivial, hback⟩
  | indirect sectors index =>
    -- the three groups are given back one after another
    simp only [hmap, FreeMap.releaseAll_append, FreeMap.releaseAll_singleton] at hall
    rcases hlisted : map.releaseAll sectors.toList with cause | map₁
    · simp [hlisted, bind, Except.bind] at hall
    rcases hothers : map₁.releaseAll
        ((SectorTable.ofSector (disk.get index)).take (header.sectorCount - numDirect))
        with cause | map₂
    · simp [hlisted, hothers, bind, Except.bind] at hall
    have hindex : map₂.release index = .ok map' := by
      simpa [hlisted, hothers, bind, Except.bind] using hall
    simp only [SectorMap.listed, hlisted, Transfer.liftM_ok, pure_bind, Transfer.yields_bind,
      Transfer.yields_load (h.inside.index_lt_count hmap), h.consistent.indirectCount_eq hmap,
      h.consistent.front_ofSector, hothers, hindex, Transfer.yields_pure]
    exact ⟨trivial, hback⟩

end SectorStore.FileHeader
