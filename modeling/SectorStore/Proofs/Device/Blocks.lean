import Mathlib.Algebra.GroupWithZero.Nat
import SectorStore.Proofs.Transfer.OnlyReads
import SectorStore.Proofs.Transfer.Yields

/-!
# Blocks that a transfer leaves alone

`SameBlocksOff sectors device device'` says that two devices answer the reads of all blocks alike,
but for those of the listed sectors. A transfer that runs through on the image of a device leaves
alone all blocks behind the image (`Transfer.read_run_of_le`). So what is known of the sectors of
the image is known of all blocks of the device (`Transfer.Yields.sameBlocksOff`).
-/

namespace SectorStore

variable {α δ : Type} [BlockDevice δ] {device device' : δ} {sectors others : List SectorId}

/-- The devices answer alike wherever a block is read that is none of the listed sectors. -/
def SameBlocksOff (sectors : List SectorId) (device device' : δ) : Prop :=
  ∀ block, (∀ s ∈ sectors, s.toNat ≠ block) →
    BlockDevice.read device' block = BlockDevice.read device block

theorem SameBlocksOff.mono (h : SameBlocksOff sectors device device') (hsub : sectors ⊆ others) :
    SameBlocksOff others device device' :=
  fun block hblock => h block fun s hs => hblock s (hsub hs)

variable [LawfulBlockDevice δ] {count : Nat} {x : Transfer α} {a : α}

/-- What is read on the image of a device is read on the device. -/
theorem Transfer.OnlyReads.run_eq (h : x.OnlyReads) (hblocks : HasBlocks device count)
    (hyields : x.Yields (Disk.image device count) fun b _ => b = a) :
    x.run device = (.ok a, device) := by
  obtain ⟨b, device', hrun, -, rfl⟩ := hyields.exists_run hblocks
  have hsame := h.run_snd device
  rw [hrun] at hsame ⊢
  obtain rfl : device' = device := hsame
  rfl

/-- What runs through on the image of a device does not reach behind the image. -/
theorem Transfer.read_run_of_le {disk' : Disk} (hblocks : HasBlocks device count)
    (hrun : x.run (Disk.image device count) = (.ok a, disk')) {block : Nat}
    (hblock : count ≤ block) :
    BlockDevice.read (x.run device).2 block = BlockDevice.read device block := by
  induction x generalizing device with
  | done b => rfl
  | fault cause => rfl
  | read other next ih =>
    by_cases hother : other < count
    · rw [run, Disk.read_of_lt (by exact hother)] at hrun
      rw [run, read_image hblocks hother]
      exact ih _ hblocks hrun
    · simp [run, BlockDevice.read, hother] at hrun
  | write other data next ih =>
    by_cases hother : other < count
    · obtain ⟨device₁, hwrite, hblocks₁, himage₁, hsame⟩ := exists_write_image hblocks hother data
      rw [run, Disk.write_of_lt (by exact hother), ← himage₁] at hrun
      rw [run, hwrite]
      exact (ih hblocks₁ hrun).trans (hsame block (by omega))
    · simp [run, BlockDevice.write, hother] at hrun

omit [LawfulBlockDevice δ] in
/-- Two devices that show the same sectors but for the listed ones, and that have the same blocks
behind the image, have the same blocks but for the listed ones. -/
theorem SameBlocksOff.of_image (hblocks : HasBlocks device count)
    (hblocks' : HasBlocks device' count) (hcount : count ≤ 2 ^ 32)
    (hoff : (Disk.image device count).SameOff sectors (Disk.image device' count))
    (hbehind : ∀ block, count ≤ block →
      BlockDevice.read device' block = BlockDevice.read device block) :
    SameBlocksOff sectors device device' := by
  intro block hblock
  rcases Nat.lt_or_ge block count with hlt | hle
  · have hnumber : (UInt32.ofNat block).toNat = block :=
      UInt32.toNat_ofNat_of_lt (by rw [UInt32.size]; omega)
    have hget := hoff.2 (.ofNat block) fun hs => hblock _ hs hnumber
    rw [Disk.get, Disk.get, hnumber] at hget
    rw [read_image hblocks' hlt, read_image hblocks hlt, hget]
  · exact hbehind block hle

/-- What has run through on the image leaves the blocks behind the image alone. -/
theorem Transfer.Yields.read_eq_of_le {post : α → Disk → Prop}
    (h : x.Yields (Disk.image device count) post) (hblocks : HasBlocks device count)
    (hrun : x.run device = (.ok a, device')) {block : Nat} (hblock : count ≤ block) :
    BlockDevice.read device' block = BlockDevice.read device block := by
  have hsame := Transfer.read_run_of_le hblocks (h.run_image hblocks hrun) hblock
  rwa [hrun] at hsame

/-- Where only the listed sectors of the image change, only these blocks of the device change. -/
theorem Transfer.Yields.sameBlocksOff {post : α → Disk → Prop}
    (h : x.Yields (Disk.image device count) post) (hblocks : HasBlocks device count)
    (hcount : count ≤ 2 ^ 32) (hrun : x.run device = (.ok a, device'))
    (hoff : (Disk.image device count).SameOff sectors (Disk.image device' count)) :
    SameBlocksOff sectors device device' :=
  .of_image hblocks (h.of_run hblocks hrun).1 hcount hoff fun _ hle =>
    h.read_eq_of_le hblocks hrun hle

end SectorStore
