import SectorStore.Proofs.Transfer.Yields

/-!
# What a transfer costs

`x.Costs disk traffic post` is `x.Yields disk post` with the block transfers of the run counted:
exactly `traffic`. Nothing is moved but by `load` and `store`, one block each, and the counts of two
stretches add up (`Costs.bind`). What is counted on the image of a device is what is moved on the
device (`Costs.exists_run`).
-/

namespace SectorStore.Transfer

variable {α β : Type} {disk : Disk} {traffic traffic' : Traffic} {post : α → Disk → Prop}

/-- The transfer runs through on the disk with exactly these block transfers, and `post` holds of
the answer and the disk afterwards. -/
def Costs (x : Transfer α) (disk : Disk) (traffic : Traffic) (post : α → Disk → Prop) : Prop :=
  ∃ a disk', x.run disk = (.ok a, disk') ∧ x.traffic disk = traffic ∧ post a disk'

theorem costs_pure {a : α} (h : post a disk) : (pure a : Transfer α).Costs disk .none post :=
  ⟨a, disk, rfl, rfl, h⟩

/-- The cost of a sequence is the sum of the costs. -/
theorem Costs.bind {x : Transfer α} {f : α → Transfer β} {post' : β → Disk → Prop}
    (h : x.Costs disk traffic post)
    (hnext : ∀ a disk', post a disk' → (f a).Costs disk' traffic' post') :
    (x >>= f).Costs disk (traffic + traffic') post' := by
  obtain ⟨a, disk₁, hrun, htraffic, hpost⟩ := h
  obtain ⟨b, disk', hrun', htraffic', hpost'⟩ := hnext a disk₁ hpost
  refine ⟨b, disk', ?_, ?_, hpost'⟩
  · rw [run_bind, hrun]
    exact hrun'
  · rw [traffic_bind hrun, htraffic, htraffic']

theorem costs_load {s : SectorId} (hs : s.toNat < disk.count) :
    (load s).Costs disk ⟨1, 0⟩ fun data disk' => data = disk.get s ∧ disk' = disk := by
  refine ⟨disk.get s, disk, ?_, ?_, rfl, rfl⟩
  · rw [load, run, Disk.read_of_lt hs]
    rfl
  · rw [load, Transfer.traffic, Disk.read_of_lt hs]
    rfl

theorem costs_store {s : SectorId} (hs : s.toNat < disk.count) (data : Sector) :
    (store s data).Costs disk ⟨0, 1⟩ fun _ disk' => disk' = disk.put s data := by
  refine ⟨(), disk.put s data, ?_, ?_, rfl⟩
  · rw [store, run, Disk.write_of_lt hs]
    rfl
  · rw [store, Transfer.traffic, Disk.write_of_lt hs]
    rfl

section Device

variable {δ : Type} [BlockDevice δ] [LawfulBlockDevice δ] {device : δ} {count : Nat}
  {x : Transfer α}

/-- A transfer that runs through on the image of a device moves the same blocks on the device. -/
theorem traffic_eq_of_image {a : α} {disk' : Disk} (hblocks : HasBlocks device count)
    (h : x.run (Disk.image device count) = (.ok a, disk')) :
    x.traffic device = x.traffic (Disk.image device count) := by
  induction x generalizing device with
  | done b => rfl
  | fault cause => rfl
  | read block next ih =>
    -- a block that is read or written is one of the image, where the run does not fault
    by_cases hblock : block < count
    · rw [run, Disk.read_of_lt (by exact hblock)] at h
      rw [Transfer.traffic, Transfer.traffic, read_image hblocks hblock,
        Disk.read_of_lt (by exact hblock)]
      simp only [ih _ hblocks h]
    · simp [run, BlockDevice.read, hblock] at h
  | write block data next ih =>
    by_cases hblock : block < count
    · obtain ⟨device₁, hwrite, hblocks₁, himage₁, -⟩ := exists_write_image hblocks hblock data
      rw [run, Disk.write_of_lt (by exact hblock), ← himage₁] at h
      rw [Transfer.traffic, Transfer.traffic, hwrite, Disk.write_of_lt (by exact hblock),
        ← himage₁]
      simp only [ih hblocks₁ h]
    · simp [run, BlockDevice.write, hblock] at h

theorem Costs.exists_run (h : x.Costs (Disk.image device count) traffic post)
    (hblocks : HasBlocks device count) :
    ∃ a device', x.run device = (.ok a, device') ∧ x.traffic device = traffic ∧
      HasBlocks device' count ∧ post a (Disk.image device' count) := by
  obtain ⟨a, disk', hrun, htraffic, hpost⟩ := h
  obtain ⟨device', hrun', hblocks', rfl⟩ := exists_run_of_image hblocks hrun
  exact ⟨a, device', hrun', (traffic_eq_of_image hblocks hrun).trans htraffic, hblocks', hpost⟩

end Device

end SectorStore.Transfer
