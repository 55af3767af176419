import SectorStore.Proofs.FileHeader.Releasing
import SectorStore.Proofs.FileHeader.Requests
import SectorStore.Proofs.FreeMap.Partition
import SectorStore.Proofs.Transfer.Always

/-!
# Headers that share a free map

A `HeaderPool` is a number of headers that take their sectors from one free map. Sectors are
allocated to them, they grow, bytes are written to their files, and their sectors are given back, in
any order.

`Sound` is the invariant of such a pool: the taken sectors are shared out among the headers and
those that were taken at first. It cannot be told of the headers and the map alone, as the sectors
of a large file are listed in an index sector on the disk, so each step also has to leave the index
sectors of the other headers alone.

* `Sound.yields_perform`: a permitted request runs through and keeps the pool sound;
* `Reaches.sound`: so is every pool that requests lead to;
* `Reaches.apart_and_restored`: what follows for the headers on a device and for the map.
-/

namespace SectorStore

/-! ## What is taken at first -/

namespace FreeMap

variable {map : FreeMap} {s : SectorId}

/-- The taken sectors in ascending order. -/
def takenSectors (map : FreeMap) : List SectorId :=
  ((List.range map.size).filter (· ∈ map)).map UInt32.ofNat

theorem toNat_ofNat_of_mem (hsize : map.size ≤ 2 ^ 32) {i : Nat} (h : i ∈ map) :
    (UInt32.ofNat i).toNat = i :=
  UInt32.toNat_ofNat_of_lt (Nat.lt_of_lt_of_le (lt_size_of_mem h) hsize)

/-- The taken sectors are those that are in the map. -/
theorem mem_takenSectors (hsize : map.size ≤ 2 ^ 32) :
    s ∈ map.takenSectors ↔ s.toNat ∈ map := by
  simp only [takenSectors, List.mem_map, List.mem_filter, List.mem_range, decide_eq_true_eq]
  constructor
  · rintro ⟨i, ⟨-, hi⟩, rfl⟩
    rwa [toNat_ofNat_of_mem hsize hi]
  · intro hs
    exact ⟨s.toNat, ⟨lt_size_of_mem hs, hs⟩, UInt32.ofNat_toNat⟩

/-- The numbers of the taken sectors are the members of the map. -/
theorem exists_takenSectors_iff (hsize : map.size ≤ 2 ^ 32) {i : Nat} :
    (∃ s ∈ map.takenSectors, s.toNat = i) ↔ i ∈ map := by
  constructor
  · rintro ⟨s, hs, rfl⟩
    exact (mem_takenSectors hsize).1 hs
  · intro hi
    have hnumber := toNat_ofNat_of_mem hsize hi
    exact ⟨.ofNat i, (mem_takenSectors hsize).2 (by rwa [hnumber]), hnumber⟩

theorem nodup_takenSectors (hsize : map.size ≤ 2 ^ 32) : map.takenSectors.Nodup := by
  refine List.Nodup.map_on ?_ (List.nodup_range.filter _)
  intro i hi j hj heq
  have hi : i ∈ map := of_decide_eq_true (List.mem_filter.1 hi).2
  have hj : j ∈ map := of_decide_eq_true (List.mem_filter.1 hj).2
  rw [← toNat_ofNat_of_mem hsize hi, heq, toNat_ofNat_of_mem hsize hj]

end FreeMap

/-! ## Pools -/

/-- Headers that take their sectors from one free map. -/
structure HeaderPool (ι : Type) where
  /-- The headers. -/
  headers : ι → FileHeader
  /-- The free map. -/
  map : FreeMap

namespace HeaderPool

variable {ι δ : Type}

/-! ## The invariant -/

/-- The sectors that were taken at first, and those of each header. -/
def parts (pool : HeaderPool ι) (map₀ : FreeMap) (disk : Disk) : Option ι → List SectorId
  | none => map₀.takenSectors
  | some o => (pool.headers o).allSectors disk

/-- The headers are consistent, and the taken sectors are shared out among them and those that were
taken at first. -/
structure Sound (pool : HeaderPool ι) (map₀ : FreeMap) (disk : Disk) : Prop where
  /-- The disk has as many blocks as the map has marks. -/
  count_eq : disk.count = map₀.size
  /-- The map covers the sectors that it covered at first. -/
  size_eq : pool.map.size = map₀.size
  /-- Each header lists as many sectors as its length asks for. -/
  consistent : ∀ o, (pool.headers o).IsConsistent
  /-- No sector belongs to two headers, or to one and to what was taken at first. -/
  partition : pool.map.IsPartition (pool.parts map₀ disk)

variable {pool : HeaderPool ι} {map₀ map' : FreeMap} {disk disk' : Disk} {o : ι}

/-- Headers without sectors are sound beside any map. -/
theorem sound_start (hsize : map₀.size ≤ 2 ^ 32) {headers : ι → FileHeader}
    (hvacant : ∀ o, (headers o).numBytes = 0 ∧ (headers o).map = .direct [])
    (hcount : disk.count = map₀.size) : Sound ⟨headers, map₀⟩ map₀ disk := by
  have hnone : ∀ o, (headers o).allSectors disk = [] := fun o =>
    FileHeader.allSectors_eq_nil (hvacant o).2 disk
  refine ⟨hcount, rfl, fun o => FileHeader.isConsistent_of_nil (hvacant o).1 (hvacant o).2, ?_, ?_,
    ?_⟩
  · rintro (_ | o)
    · exact FreeMap.nodup_takenSectors hsize
    · rw [parts, hnone o]
      exact List.nodup_nil
  · rintro (_ | o) (_ | o') s hs hs'
    · rfl
    · rw [parts, hnone o'] at hs'
      cases hs'
    all_goals
      rw [parts, hnone o] at hs
      cases hs
  · intro i
    rw [Option.exists, parts, FreeMap.exists_takenSectors_iff hsize]
    simp [parts, hnone]

namespace Sound

/-- The sectors of each header can be found on the disk. -/
theorem placed (h : pool.Sound map₀ disk) (o : ι) : (pool.headers o).Placed disk where
  consistent := h.consistent o
  nodup := h.partition.nodup (some o)
  lt_count s hs := by
    rw [h.count_eq, ← h.size_eq]
    exact h.partition.lt_size (o := some o) hs

/-- The sectors of any header can be given back. -/
theorem canRelease (h : pool.Sound map₀ disk) (o : ι) :
    pool.map.CanRelease ((pool.headers o).allSectors disk) where
  nodup := h.partition.nodup (some o)
  mem _ hs := h.partition.mem (o := some o) hs

/-- Bytes were written to the sectors of one file. -/
theorem of_sameOff (h : pool.Sound map₀ disk)
    (hoff : disk.SameOff ((pool.headers o).dataSectors disk) disk') : pool.Sound map₀ disk' where
  count_eq := hoff.1.trans h.count_eq
  size_eq := h.size_eq
  consistent := h.consistent
  partition := by
    refine h.partition.congr ?_
    rintro (_ | o')
    · exact .refl _
    rw [parts, FileHeader.allSectors_congr fun _ hs => hoff.2 _ fun hdata => ?_]
    · exact .refl _
    -- a data sector that is an index sector would have two owners, or be there twice
    · have heq : some o' = some o := h.partition.owner_eq
        (FileHeader.indexSectors_subset _ disk hs) (FileHeader.dataSectors_subset _ disk hdata)
      cases heq
      exact (h.placed o).notMem_dataSectors_of_mem_indexSectors hs hdata

/-- A sector is taken exactly if it was taken at first or a header has it. -/
theorem mem_iff (h : pool.Sound map₀ disk) (hsize : map₀.size ≤ 2 ^ 32) {i : Nat} :
    i ∈ pool.map ↔ i ∈ map₀ ∨ ∃ o, ∃ s ∈ (pool.headers o).allSectors disk, s.toNat = i := by
  rw [h.partition.mem_iff, Option.exists, parts, FreeMap.exists_takenSectors_iff hsize]
  rfl

/-- If no header has a sector, the map is as it was at first. -/
theorem map_eq (h : pool.Sound map₀ disk) (hsize : map₀.size ≤ 2 ^ 32)
    (hnone : ∀ o, (pool.headers o).map = .direct []) : pool.map = map₀ := by
  refine FreeMap.ext_isTaken h.size_eq fun i => ?_
  rw [Bool.eq_iff_iff, ← FreeMap.mem_iff, ← FreeMap.mem_iff, h.mem_iff hsize]
  constructor
  · rintro (hi | ⟨o, s, hs, -⟩)
    · exact hi
    · rw [FileHeader.allSectors_eq_nil (hnone o)] at hs
      cases hs
  · exact .inl

end Sound

/-! ## What the headers have on a device -/

section Device

variable [BlockDevice δ] {device : δ}

/-- The data sectors of a header and its index sector, which are found on a device with the blocks
of the map. -/
def owned (pool : HeaderPool ι) (device : δ) (o : ι) : List SectorId :=
  (pool.headers o).allSectors (Disk.image device pool.map.size)

/-- The headers keep their sectors apart from one another, and from the sectors that were taken at
first. -/
structure KeepsApart (pool : HeaderPool ι) (map₀ : FreeMap) (device : δ) : Prop where
  /-- The map covers the sectors that it covered at first. -/
  size_eq : pool.map.size = map₀.size
  /-- No header has a sector twice. -/
  nodup : ∀ o, (pool.owned device o).Nodup
  /-- No two headers have the same sector. -/
  disjoint : ∀ o o', o ≠ o' → (pool.owned device o).Disjoint (pool.owned device o')
  /-- No header has a sector that was taken at first. -/
  free : ∀ o, ∀ s ∈ pool.owned device o, s.toNat ∉ map₀
  /-- A sector is taken exactly if it was taken at first or a header has it. -/
  mem_iff : ∀ i, i ∈ pool.map ↔ i ∈ map₀ ∨ ∃ o, ∃ s ∈ pool.owned device o, s.toNat = i
  /-- The sectors of a header are those that it lists, and its index sector. -/
  run_sectors : ∀ o, ∃ listed, (pool.headers o).sectors.run device = (.ok listed, device) ∧
    pool.owned device o = listed ++ (pool.headers o).indexSectors
  /-- Just these sectors become free where the header gives back what it has. -/
  run_release : ∀ o, ∃ map', pool.map.GivesBack (pool.owned device o) map' ∧
    ((pool.headers o).release pool.map).run device =
      (.ok ((pool.headers o).vacated, map'), device)

variable [LawfulBlockDevice δ]

/-- The headers of a sound pool keep their sectors apart. -/
theorem Sound.keepsApart (h : pool.Sound map₀ (Disk.image device map₀.size))
    (hsize : map₀.size ≤ 2 ^ 32) (hblocks : HasBlocks device map₀.size) :
    pool.KeepsApart map₀ device := by
  have howned : ∀ o, pool.owned device o =
      (pool.headers o).allSectors (Disk.image device map₀.size) := by
    intro o
    rw [owned, h.size_eq]
  constructor
  case size_eq => exact h.size_eq
  case nodup =>
    intro o
    rw [howned]
    exact h.partition.nodup (some o)
  case disjoint =>
    intro o o' hne s hs hs'
    rw [howned] at hs hs'
    have heq : some o = some o' := h.partition.owner_eq hs hs'
    exact hne (Option.some.inj heq)
  case free =>
    -- the sectors that were taken at first are a part of their own, apart from those of the headers
    intro o s hs hfirst
    rw [howned] at hs
    have hnone : s ∈ pool.parts map₀ (Disk.image device map₀.size) none :=
      (FreeMap.mem_takenSectors hsize).2 hfirst
    cases h.partition.owner_eq (o := some o) hs hnone
  case mem_iff =>
    intro i
    simp only [howned]
    exact h.mem_iff hsize
  case run_sectors =>
    intro o
    rw [howned]
    exact ⟨_, (h.placed o).inside.run_sectors hblocks, rfl⟩
  case run_release =>
    intro o
    rw [howned]
    obtain ⟨map', hall, hback⟩ := (h.canRelease o).exists_releaseAll
    refine ⟨map', hback, ?_⟩
    rw [(h.consistent o).run_release hblocks, hall]
    · rfl
    · intro s hs
      exact (h.placed o).lt_count s (FileHeader.indexSectors_subset _ _ hs)

end Device

/-! ## Requests -/

/-- What may be asked of a pool. -/
inductive Request (ι : Type) where
  /-- Takes the sectors for `size` bytes. -/
  | allocate (o : ι) (size : Nat)
  /-- Makes the file `extra` bytes longer. -/
  | grow (o : ι) (extra : Nat)
  /-- Writes `data` from `offset` on. -/
  | write (o : ι) (offset : Nat) (data : Bytes)
  /-- Gives back all sectors. -/
  | release (o : ι)

variable [DecidableEq ι]

/-- The pool after a request to one of the headers. -/
def set (pool : HeaderPool ι) (o : ι) (header : FileHeader) (map : FreeMap) : HeaderPool ι where
  headers := Function.update pool.headers o header
  map := map

@[simp]
theorem headers_set_self (pool : HeaderPool ι) (o : ι) (header : FileHeader) (map : FreeMap) :
    (pool.set o header map).headers o = header :=
  Function.update_self ..

theorem headers_set_of_ne {pool : HeaderPool ι} {o o' : ι} {header : FileHeader} {map : FreeMap}
    (h : o' ≠ o) : (pool.set o header map).headers o' = pool.headers o' :=
  Function.update_of_ne h ..

/-- Carries out a request. One that is refused leaves the headers and the map as they are. -/
def perform (pool : HeaderPool ι) : Request ι → Transfer (HeaderPool ι)
  | .allocate o size => do
    match ← ((pool.headers o).allocate pool.map size).run with
    | .ok (header, map) => return pool.set o header map
    | .error _ => return pool
  | .grow o extra => do
    match ← (pool.headers o).grow pool.map extra with
    | .ok (header, map) => return pool.set o header map
    | .error _ => return pool
  | .write o offset data => do
    let _ ← (pool.headers o).writeAt offset data
    return pool
  | .release o => do
    let (header, map) ← (pool.headers o).release pool.map
    return pool.set o header map

/-- Gives back the sectors of some headers, one header after another. -/
def releaseAll (pool : HeaderPool ι) (owners : List ι) : Transfer (HeaderPool ι) :=
  owners.foldlM (fun pool o => pool.perform (.release o)) pool

/-- Sectors are allocated only to a header that has none. -/
def Permits (pool : HeaderPool ι) : Request ι → Prop
  | .allocate o _ => (pool.headers o).map = .direct []
  | _ => True

/-- The sums of positions and lengths that the request makes are below the limit. -/
def SumsFit (pool : HeaderPool ι) : Request ι → Prop
  | .grow o extra => (pool.headers o).length + extra < sumLimit
  | .write _ offset data => offset + data.length < sumLimit
  | _ => True

/-- The pool has come of headers without bytes and sectors, with the map `map₀` and any device with
the blocks of the map, and of permitted requests. -/
inductive Reaches [BlockDevice δ] (map₀ : FreeMap) : δ → HeaderPool ι → Prop
  /-- Nothing was asked yet. -/
  | start {device : δ} {headers : ι → FileHeader} (hblocks : HasBlocks device map₀.size)
      (hvacant : ∀ o, (headers o).numBytes = 0 ∧ (headers o).map = .direct []) :
      Reaches map₀ device ⟨headers, map₀⟩
  /-- A permitted request was carried out. -/
  | perform {device device' : δ} {pool pool' : HeaderPool ι} {request : Request ι}
      (h : Reaches map₀ device pool) (hpermits : pool.Permits request)
      (hrun : (pool.perform request).run device = (.ok pool', device')) :
      Reaches map₀ device' pool'

namespace Sound

/-- A header got sectors that were free, and nothing was written to others. -/
theorem set_extend (h : pool.Sound map₀ disk) {header : FileHeader} {fresh : List SectorId}
    (hcons : header.IsConsistent) (htakes : pool.map.Takes fresh map')
    (hself : (header.allSectors disk').Perm ((pool.headers o).allSectors disk ++ fresh))
    (hoff : disk.SameOff fresh disk') : (pool.set o header map').Sound map₀ disk' where
  count_eq := hoff.1.trans h.count_eq
  size_eq := htakes.size_eq.trans h.size_eq
  consistent := Function.forall_update_iff pool.headers (fun _ header => header.IsConsistent) |>.2
    ⟨hcons, fun o' _ => h.consistent o'⟩
  partition := by
    refine h.partition.extend (o := some o) htakes ?_ ?_
    · simpa only [parts, headers_set_self] using hself
    · rintro (_ | o') hne
      · exact .refl _
      · have hne : o' ≠ o := fun heq => hne (congrArg some heq)
        simp only [parts, headers_set_of_ne hne]
        -- the index sector of another header is taken, so it is none of those written
        rw [FileHeader.allSectors_congr fun _ hs => hoff.2 _ fun hfresh => ?_]
        exact h.partition.notMem_of_takes (o := some o') htakes hfresh
          (FileHeader.indexSectors_subset _ disk hs)

/-- A header gave back all its sectors. -/
theorem set_vacated (h : pool.Sound map₀ disk)
    (hback : pool.map.GivesBack ((pool.headers o).allSectors disk) map') :
    (pool.set o (pool.headers o).vacated map').Sound map₀ disk where
  count_eq := h.count_eq
  size_eq := hback.size_eq.trans h.size_eq
  consistent := Function.forall_update_iff pool.headers (fun _ header => header.IsConsistent) |>.2
    ⟨FileHeader.isConsistent_of_nil rfl rfl, fun o' _ => h.consistent o'⟩
  partition := by
    refine h.partition.vacate (o := some o) hback ?_ ?_
    · rw [parts, headers_set_self]
      exact FileHeader.allSectors_eq_nil rfl disk
    · rintro (_ | o') hne
      · exact .refl _
      · have hne : o' ≠ o := fun heq => hne (congrArg some heq)
        simp only [parts, headers_set_of_ne hne]
        exact .refl _

/-! ## Steps -/

/-- A header without sectors is given some, and the pool stays sound. -/
theorem yields_allocate (h : pool.Sound map₀ disk) (hsize : map₀.size ≤ 2 ^ 32)
    (hvacant : (pool.headers o).map = .direct []) (size : Nat) :
    (pool.perform (.allocate o size)).Yields disk fun pool' disk' => pool'.Sound map₀ disk' := by
  have hsize' : pool.map.size ≤ 2 ^ 32 := h.size_eq ▸ hsize
  rw [perform, Transfer.yields_bind]
  -- both refusals leave the headers, the map and the disk alone
  rcases Nat.lt_or_ge maxSectors (sectorsFor size) with hlarge | hmax
  · rw [FileHeader.allocate_eq_fileTooLarge hlarge, Transfer.yields_run_throw]
    exact Transfer.yields_pure.2 h
  rcases Nat.lt_or_ge pool.map.numFree (totalSectorsFor size) with hfew | hfree
  · rw [FileHeader.allocate_eq_noSpace hsize' hmax hfew, Transfer.yields_run_throw]
    exact Transfer.yields_pure.2 h
  refine (FileHeader.yields_allocate hsize' (Nat.le_of_eq (h.size_eq.trans h.count_eq.symm)) hmax
    hfree).mono ?_
  rintro _ disk' ⟨header, map', rfl, hallocated⟩
  obtain ⟨taken, htakes, hperm⟩ := hallocated.takes
  -- the header had no sectors, and the index sector that is written is one of the new ones
  refine Transfer.yields_pure.2 (h.set_extend hallocated.consistent htakes ?_ ?_)
  · rwa [FileHeader.allSectors_eq_nil hvacant, List.nil_append]
  · exact hallocated.sameOff.mono fun _ hs =>
      hperm.subset (FileHeader.indexSectors_subset _ disk' hs)

/-- A header gets more sectors, and the pool stays sound. -/
theorem yields_grow (h : pool.Sound map₀ disk) (hsize : map₀.size ≤ 2 ^ 32) {extra : Nat}
    (hsum : (pool.headers o).length + extra < sumLimit) :
    (pool.perform (.grow o extra)).Yields disk fun pool' disk' => pool'.Sound map₀ disk' := by
  rw [perform, FileHeader.grow_eq_growTo hsum, Transfer.liftM_ok, pure_bind]
  rcases hgrow : (pool.headers o).growTo pool.map ((pool.headers o).length + extra) with
    cause | ⟨header, map'⟩
  · exact Transfer.yields_pure.2 h
  · obtain ⟨fresh, hgrown⟩ :=
      (h.consistent o).grown_of_growTo (h.size_eq ▸ hsize) (Nat.le_add_right _ _) hgrow
    refine Transfer.yields_pure.2 (h.set_extend hgrown.consistent hgrown.takes ?_ (.refl _ _))
    rw [hgrown.allSectors_eq]

/-- A header gives back its sectors, and the pool stays sound. -/
theorem yields_release (h : pool.Sound map₀ disk) (o : ι) :
    (pool.perform (.release o)).Yields disk fun pool' disk' => pool'.Sound map₀ disk' := by
  rw [perform, Transfer.yields_bind]
  obtain ⟨answer, disk', hrun, rfl, hback⟩ := (h.placed o).yields_release (h.canRelease o).mem
  refine ⟨answer, _, hrun, Transfer.yields_pure.2 ?_⟩
  have hheader := (FileHeader.always_release _ _).of_run hrun
  rw [hheader]
  exact h.set_vacated hback

/-- A permitted request whose sums fit runs through and keeps the pool sound. -/
theorem yields_perform (h : pool.Sound map₀ disk) (hsize : map₀.size ≤ 2 ^ 32)
    {request : Request ι} (hpermits : pool.Permits request) (hfits : pool.SumsFit request) :
    (pool.perform request).Yields disk fun pool' disk' => pool'.Sound map₀ disk' := by
  cases request with
  | allocate o size => exact h.yields_allocate hsize hpermits size
  | grow o extra => exact h.yields_grow hsize hfits
  | write o offset data =>
    rw [perform, Transfer.yields_bind]
    refine ((h.placed o).yields_writeAt hfits).mono ?_
    rintro written disk' ⟨-, hoff, -⟩
    exact Transfer.yields_pure.2 (h.of_sameOff hoff)
  | release o => exact h.yields_release o

end Sound

/-! ## Runs -/

/-- The sums of a request that runs through fit. -/
theorem sumsFit_of_run [BlockDevice δ] {device device' : δ} {pool pool' : HeaderPool ι}
    {request : Request ι} (hrun : (pool.perform request).run device = (.ok pool', device')) :
    pool.SumsFit request := by
  have halways : (pool.perform request).Always fun _ => pool.SumsFit request := by
    cases request with
    | grow o extra =>
      rw [perform]
      exact (Transfer.always_liftM _).bind fun _ hgrow =>
        Transfer.always_of _ (FileHeader.growTo_of_grow hgrow).1
    | write o offset data =>
      simp only [perform, FileHeader.writeAt, bind_assoc]
      exact Transfer.always_bind_checkedAdd
    | _ => exact Transfer.always_of _ trivial
  exact halways.of_run hrun

section Device

variable [BlockDevice δ] [LawfulBlockDevice δ] {device : δ}

/-- Whatever was asked, the pool is sound on what the device shows. -/
theorem Reaches.sound (hsize : map₀.size ≤ 2 ^ 32) (h : Reaches map₀ device pool) :
    HasBlocks device map₀.size ∧ pool.Sound map₀ (Disk.image device map₀.size) := by
  induction h with
  | start hblocks hvacant => exact ⟨hblocks, sound_start hsize hvacant rfl⟩
  | perform h hpermits hrun ih =>
    exact (ih.2.yields_perform hsize hpermits (sumsFit_of_run hrun)).of_run ih.1 hrun

/-- The sectors of any headers can be given back, one header after another. Those headers are left
without sectors, and all others are as they were. -/
theorem Reaches.exists_releaseAll (hsize : map₀.size ≤ 2 ^ 32) (h : Reaches map₀ device pool)
    (owners : List ι) :
    ∃ pool', (pool.releaseAll owners).run device = (.ok pool', device) ∧
      Reaches map₀ device pool' ∧
      ∀ o, (pool'.headers o).map = .direct [] ∨ o ∉ owners ∧ pool'.headers o = pool.headers o := by
  -- each header that gives back its sectors leaves a pool of which the same can be said
  induction owners generalizing pool with
  | nil => exact ⟨pool, rfl, h, fun o => .inr ⟨List.not_mem_nil, rfl⟩⟩
  | cons o rest ih =>
    obtain ⟨hblocks, hsound⟩ := h.sound hsize
    obtain ⟨map', -, hrelease⟩ := (hsound.keepsApart hsize hblocks).run_release o
    have hpermits : pool.Permits (.release o) := trivial
    have hrun : (pool.perform (.release o)).run device =
        (.ok (pool.set o (pool.headers o).vacated map'), device) := by
      rw [HeaderPool.perform, Transfer.run_bind, hrelease]
      rfl
    obtain ⟨pool', hrest, hreaches, hleft⟩ := ih (.perform h hpermits hrun)
    refine ⟨pool', ?_, hreaches, fun o' => ?_⟩
    · rw [releaseAll, List.foldlM_cons, Transfer.run_bind, hrun]
      exact hrest
    · rcases hleft o' with hnone | ⟨hrest, hsame⟩
      · exact .inl hnone
      by_cases heq : o' = o
      · subst heq
        rw [hsame, headers_set_self]
        exact .inl rfl
      · rw [headers_set_of_ne heq] at hsame
        exact .inr ⟨List.not_mem_cons_of_ne_of_not_mem heq hrest, hsame⟩

/-- Headers that share a free map keep their sectors apart, and any permitted request to one of them
whose sums fit runs through. Whenever no header has a sector, the map is as it was at first, and so
it is after giving back the sectors of all headers that have some, in any order. -/
theorem Reaches.apart_and_restored (hsize : map₀.size ≤ 2 ^ 32) (h : Reaches map₀ device pool) :
    pool.KeepsApart map₀ device ∧
    (∀ request, pool.Permits request → pool.SumsFit request →
      ∃ pool' device', (pool.perform request).run device = (.ok pool', device')) ∧
    ((∀ o, (pool.headers o).map = .direct []) → pool.map = map₀) ∧
    ∀ owners : List ι, (∀ o, o ∉ owners → (pool.headers o).map = .direct []) →
      ∃ pool', (pool.releaseAll owners).run device = (.ok pool', device) ∧
        pool'.map = map₀ ∧ ∀ o, (pool'.headers o).map = .direct [] := by
  obtain ⟨hblocks, hsound⟩ := h.sound hsize
  refine ⟨hsound.keepsApart hsize hblocks, ?_, hsound.map_eq hsize, ?_⟩
  · intro request hpermits hfits
    obtain ⟨pool', device', hrun, -⟩ :=
      (hsound.yields_perform hsize hpermits hfits).exists_run hblocks
    exact ⟨pool', device', hrun⟩
  · intro owners howners
    obtain ⟨pool', hrun, hreaches, hleft⟩ := h.exists_releaseAll hsize owners
    have hnone : ∀ o, (pool'.headers o).map = .direct [] := by
      intro o
      rcases hleft o with hnone | ⟨hout, hsame⟩
      · exact hnone
      · rw [hsame, howners o hout]
    exact ⟨pool', hrun, (hreaches.sound hsize).2.map_eq hsize hnone, hnone⟩

/-- Two headers share a map of twenty sectors, of which three are taken. One gets nine data sectors
and an index sector, the other grows to three sectors, and at the end both give back what they
have. -/
theorem Reaches.apart_and_restored_of_two :
    (FreeMap.ofBytes 20 [0x0b]).size ≤ 2 ^ 32 ∧
    ∃ (pool : HeaderPool Bool) (device : RamDisk sectorSize),
      Reaches (FreeMap.ofBytes 20 [0x0b]) device pool ∧
      pool.owned device false = [2, 4, 5, 6, 7, 8, 9, 10, 12, 11] ∧
      pool.owned device true = [13, 14, 15] ∧
      pool.KeepsApart (FreeMap.ofBytes 20 [0x0b]) device ∧
      ∃ pool', (pool.releaseAll [true, false]).run device = (.ok pool', device) ∧
        pool'.map = FreeMap.ofBytes 20 [0x0b] := by
  have hsize : (FreeMap.ofBytes 20 [0x0b]).size ≤ 2 ^ 32 := by decide
  let start : HeaderPool Bool := ⟨fun _ => .empty, FreeMap.ofBytes 20 [0x0b]⟩
  have hstart : Reaches (FreeMap.ofBytes 20 [0x0b]) (RamDisk.zeroed 20 sectorSize) start :=
    .start (RamDisk.hasBlocks _) fun _ => ⟨rfl, rfl⟩
  have hallocate : start.Permits (.allocate false 1100) := rfl
  obtain ⟨pool₁, device₁, hrun₁⟩ := (hstart.apart_and_restored hsize).2.1 _ hallocate trivial
  have hreach₁ := hstart.perform hallocate hrun₁
  have hgrow : pool₁.Permits (.grow true 300) := trivial
  have hfits : pool₁.SumsFit (.grow true 300) := by
    have hlength : (pool₁.headers true).length < 2 ^ 32 := (pool₁.headers true).numBytes.toNat_lt
    exact Nat.lt_trans (Nat.add_lt_add_right hlength 300) (by decide)
  obtain ⟨pool₂, device₂, hrun₂⟩ := (hreach₁.apart_and_restored hsize).2.1 _ hgrow hfits
  have hreach₂ := hreach₁.perform hgrow hrun₂
  have hrun : (start.perform (.allocate false 1100) >>= (·.perform (.grow true 300))).run
      (RamDisk.zeroed 20 sectorSize) = (.ok pool₂, device₂) := by
    rw [Transfer.run_bind, hrun₁]
    exact hrun₂
  let ownedAfter : Except Fault (HeaderPool Bool) × RamDisk sectorSize → Bool → List SectorId
    | (.ok pool, device), o => pool.owned device o
    | (.error _, _), _ => []
  have howned : ∀ o, pool₂.owned device₂ o =
      ownedAfter ((start.perform (.allocate false 1100) >>= (·.perform (.grow true 300))).run
        (RamDisk.zeroed 20 sectorSize)) o := by
    intro o
    rw [hrun]
  obtain ⟨happart, -, -, hback⟩ := hreach₂.apart_and_restored hsize
  refine ⟨hsize, pool₂, device₂, hreach₂, ?_, ?_, happart, ?_⟩
  · rw [howned]
    decide +kernel
  · rw [howned]
    decide +kernel
  · obtain ⟨pool', hrun', hmap', -⟩ := hback [true, false] (by simp)
    exact ⟨pool', hrun', hmap'⟩

end Device

end HeaderPool

end SectorStore
