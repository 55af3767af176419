import Mathlib.Data.Set.Basic
import SectorStore.Proofs.Device.Blocks

/-!
# Bytes that a transfer leaves alone

A `Place` is where a byte is on a disk: a sector and a position in it. A frame can be told by places
(`Disk.SameBytesOff`) where one told by sectors (`Disk.SameOff`) is too coarse, and each gives the
other. As with sectors, what is known of the bytes of the image of a device is known of all bytes of
the device (`Transfer.Yields.sameBytesOff`).
-/

namespace SectorStore

/-- Where a byte is on a disk: in which sector, and where in it. -/
abbrev Place := SectorId × Fin sectorSize

/-- The disks have the same number of blocks, and the same bytes at all places but those in the
set. -/
def Disk.SameBytesOff (places : Set Place) (disk disk' : Disk) : Prop :=
  disk'.count = disk.count ∧ ∀ s k, (s, k) ∉ places → (disk'.get s).get k = (disk.get s).get k

namespace Disk

variable {places others : Set Place} {sectors : List SectorId} {disk disk' disk'' : Disk}

/-- Sectors with the same bytes are the same. -/
theorem get_eq_of_bytes {s : SectorId} (h : ∀ k, (disk'.get s).get k = (disk.get s).get k) :
    disk'.get s = disk.get s :=
  Vector.ext fun k hk => h ⟨k, hk⟩

namespace SameBytesOff

theorem refl (places : Set Place) (disk : Disk) : SameBytesOff places disk disk :=
  ⟨rfl, fun _ _ _ => rfl⟩

theorem mono (h : SameBytesOff places disk disk') (hsub : places ⊆ others) :
    SameBytesOff others disk disk' :=
  ⟨h.1, fun s k hplace => h.2 s k fun hmem => hplace (hsub hmem)⟩

theorem trans (h : SameBytesOff places disk disk') (h' : SameBytesOff others disk' disk'') :
    SameBytesOff (places ∪ others) disk disk'' := by
  refine ⟨h'.1.trans h.1, ?_⟩
  intro s k hplace
  rw [Set.mem_union, not_or] at hplace
  rw [h'.2 s k hplace.2, h.2 s k hplace.1]

/-- Sectors without a byte that may change stay as they are. -/
theorem sameOff (h : SameBytesOff places disk disk')
    (hsectors : ∀ s k, (s, k) ∈ places → s ∈ sectors) : SameOff sectors disk disk' :=
  ⟨h.1, fun s hs => get_eq_of_bytes fun k => h.2 s k fun hmem => hs (hsectors s k hmem)⟩

/-- Two disks that come of one by changes at the same places agree if they do so at these places. -/
theorem agree (h : SameBytesOff places disk disk') (h' : SameBytesOff places disk disk'')
    (hsame : ∀ s k, (s, k) ∈ places → (disk''.get s).get k = (disk'.get s).get k) :
    SameOff [] disk' disk'' := by
  refine ⟨h'.1.trans h.1.symm, fun s _ => get_eq_of_bytes fun k => ?_⟩
  by_cases hplace : (s, k) ∈ places
  · exact hsame s k hplace
  · rw [h'.2 s k hplace, h.2 s k hplace]

end SameBytesOff

/-- Where only some sectors change, only their bytes do. -/
theorem SameOff.sameBytesOff (h : SameOff sectors disk disk') :
    SameBytesOff {p | p.1 ∈ sectors} disk disk' :=
  ⟨h.1, fun s _ hs => by rw [h.2 s hs]⟩

end Disk

section Device

variable {α δ : Type} [BlockDevice δ] {device device' : δ} {places : Set Place}

/-- The devices answer alike wherever a byte is read that is at none of the places. -/
def SameBytesOff (places : Set Place) (device device' : δ) : Prop :=
  ∀ block k, (∀ s : SectorId, s.toNat = block → (s, k) ∉ places) →
    (BlockDevice.read device' block).map (·.get k) = (BlockDevice.read device block).map (·.get k)

/-- Where only some bytes of the image change, only these bytes of the device change. -/
theorem Transfer.Yields.sameBytesOff [LawfulBlockDevice δ] {count : Nat} {x : Transfer α} {a : α}
    {post : α → Disk → Prop} (h : x.Yields (Disk.image device count) post)
    (hblocks : HasBlocks device count) (hcount : count ≤ 2 ^ 32)
    (hrun : x.run device = (.ok a, device'))
    (hoff : (Disk.image device count).SameBytesOff places (Disk.image device' count)) :
    SameBytesOff places device device' := by
  intro block k hplace
  rcases Nat.lt_or_ge block count with hlt | hle
  · have hnumber : (UInt32.ofNat block).toNat = block :=
      UInt32.toNat_ofNat_of_lt (by rw [UInt32.size]; omega)
    have hget := hoff.2 (.ofNat block) k (hplace _ hnumber)
    rw [Disk.get, Disk.get, hnumber] at hget
    rw [read_image (h.of_run hblocks hrun).1 hlt, read_image hblocks hlt]
    exact congrArg Except.ok hget
  · rw [h.read_eq_of_le hblocks hrun hle]

end Device

end SectorStore
