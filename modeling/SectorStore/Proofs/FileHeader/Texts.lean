import SectorStore.Proofs.FileHeader.Kinds
import SectorStore.Proofs.FileHeader.RoundTrip
import SectorStore.Proofs.Text.Cutting

/-!
# Texts of a header

The type of a file and its three times are texts in fields of a fixed number of bytes. `TextField`
names these fields, so that what holds for all of them is said once.

`setTextField_holds` is about a text without the zero character that is put into a field:

* the field `Holds` the longest beginning of it, without the line ends at its end, that consists of
  whole characters and leaves a byte for the zero behind it;
* to cut the bytes where the field ends, and to step back from there to the end of a character,
  never leads below zero, and fills the field in the same way (`FixedText.ofString?`);
* the header shows the same text after it went to the disk and came back.

The last point is about headers of no more sectors than a file can have. A longer one is written,
but its sector is refused when it is read, so no text is shown at all.
-/

namespace SectorStore.FileHeader

/-- The fields of a header that hold a text. -/
inductive TextField where
  /-- The type. -/
  | kind
  /-- The time at which the file was made. -/
  | created
  /-- The time at which the file was last changed. -/
  | modified
  /-- The time at which the file was last looked at. -/
  | visited
deriving DecidableEq

variable {field : TextField} {text : String}

/-- The number of bytes of a field. -/
def TextField.width : TextField → Nat
  | kind => kindWidth
  | created | modified | visited => timeWidth

theorem TextField.width_pos (field : TextField) : 0 < field.width := by
  cases field <;> decide

/-- What a field of a header holds. -/
def textField (header : FileHeader) : (field : TextField) → FixedText field.width
  | .kind => header.kind
  | .created => header.created
  | .modified => header.modified
  | .visited => header.visited

/-- Sets a field of a header. -/
def setTextField (header : FileHeader) : (field : TextField) → (text : String) → FileHeader
  | .kind => header.setKind
  | .created => header.setCreated
  | .modified => header.setModified
  | .visited => header.setVisited

@[simp]
theorem sectorCount_setTextField (header : FileHeader) (field : TextField) (text : String) :
    (header.setTextField field text).sectorCount = header.sectorCount := by
  cases field <;>
    simp only [sectorCount, length, setTextField, setKind, setCreated, setModified, setVisited]

/-- Only the empty type is replaced by another text. -/
theorem textField_setTextField (header : FileHeader) (h : field = .kind → text ≠ "") :
    (header.setTextField field text).textField field = .ofString text := by
  cases field with
  | kind => exact kind_setKind header (h rfl)
  | created | modified | visited => rfl

/-- A header comes back from the disk with the same texts, also if its map does not have the shape
that its length asks for. Only one that is too long for a file is refused when it is read. -/
theorem exists_run_store_load {δ : Type} [BlockDevice δ] [LawfulBlockDevice δ] {device : δ}
    {s : SectorId} {old : Sector} (hread : BlockDevice.read device s.toNat = .ok old)
    (header : FileHeader) :
    ∃ device' back, (header.store s).run device = (.ok (), device') ∧
      (load s).run device' = (if header.sectorCount ≤ maxSectors then .ok back
        else .error (.corruptedHeader s.toNat), device') ∧
      ∀ field, back.textField field = header.textField field := by
  obtain ⟨device', hstore, hread', -⟩ := exists_run_store hread header
  let back : FileHeader := { header with
    map := mapOfSlots header.sectorCount
      (header.slots ++ List.replicate (numSlots - header.slots.length) 0)
    home := none }
  refine ⟨device', back, hstore, ?_, ?_⟩
  · rw [run_load hread', decode?_encode_eq]
    by_cases h : header.sectorCount ≤ maxSectors
    · simp only [if_pos h, back]
    · simp only [if_neg h]
  · intro field
    cases field <;> rfl

/-- Of a text without the zero character, a field shows the longest beginning, in whole characters
and without the line ends at the end of the text, that leaves one byte of it free. All its other
bytes are zero. Cutting the text by its bytes fills the field in the same way, and no step of it
leads below zero. The same is shown after the header went to a sector of a device and came back,
unless it is one that is refused, whatever its texts are. -/
theorem setTextField_holds (header : FileHeader) (field : TextField)
    (hzero : '\x00' ∉ text.toList) (hkind : field = .kind → text ≠ "") :
    ∃ line shown, FixedText.IsLineOf line text ∧
      ((header.setTextField field text).textField field).text = shown ∧
      ((header.setTextField field text).textField field).Holds line ∧
      FixedText.ofString? text = some ((header.setTextField field text).textField field) ∧
      ∀ {δ : Type} [BlockDevice δ] [LawfulBlockDevice δ] (device : δ) (s : SectorId) (old : Sector),
        BlockDevice.read device s.toNat = .ok old → ∃ device' back,
          ((header.setTextField field text).store s).run device = (.ok (), device') ∧
          (load s).run device' = (if header.sectorCount ≤ maxSectors then .ok back
            else .error (.corruptedHeader s.toNat), device') ∧
          (back.textField field).text = shown := by
  have hfield := textField_setTextField header hkind
  refine ⟨.ofList (FixedText.trimLineEnds text.toList), _,
    FixedText.isLineOf_trimLineEnds text, rfl, ?_, ?_, ?_⟩
  · rw [hfield]
    exact FixedText.holds_ofString field.width_pos hzero
  · rw [hfield]
    exact FixedText.ofString?_eq text
  · intro δ _ _ device s old hread
    obtain ⟨device', back, hstore, hload, hback⟩ :=
      exists_run_store_load hread (header.setTextField field text)
    rw [sectorCount_setTextField] at hload
    exact ⟨device', back, hstore, hload, congrArg FixedText.text (hback field)⟩

/-- Four bytes of a type have room for an `a` and an `é`, and end within the `€` behind them, of
which nothing is shown. The header goes to a memory disk and comes back. -/
theorem setTextField_holds_of_wide :
    ∃ (device : RamDisk sectorSize) (old : Sector), '\x00' ∉ "aé€x\n\n".toList ∧
      "aé€x\n\n" ≠ "" ∧ BlockDevice.read device 2 = .ok old ∧
      ∃ line, FixedText.IsLineOf line "aé€x\n\n" ∧
        ((empty.setTextField .kind "aé€x\n\n").textField .kind).Holds line ∧
        ((empty.setTextField .kind "aé€x\n\n").textField .kind).bytes.toList =
          [0x61, 0xc3, 0xa9, 0, 0] ∧
        FixedText.ofString? "aé€x\n\n" =
          some ((empty.setTextField .kind "aé€x\n\n").textField .kind) ∧
        ∃ device' back,
          ((empty.setTextField .kind "aé€x\n\n").store 2).run device = (.ok (), device') ∧
          (load 2).run device' = (.ok back, device') ∧ (back.textField .kind).text = "aé" := by
  obtain ⟨old, hread⟩ := RamDisk.hasBlocks (RamDisk.zeroed 4 sectorSize) 2 (by decide)
  have hzero : '\x00' ∉ "aé€x\n\n".toList := by decide
  have hne : "aé€x\n\n" ≠ "" := by decide
  have hcount : empty.sectorCount ≤ maxSectors := by decide
  have hshown : ((empty.setTextField .kind "aé€x\n\n").textField .kind).text = "aé" := by decide
  obtain ⟨line, shown, hline, rfl, hholds, hcut, hdisk⟩ :=
    setTextField_holds empty .kind hzero fun _ => hne
  obtain ⟨device', back, hstore, hload, htext⟩ := hdisk _ 2 old hread
  rw [if_pos hcount] at hload
  exact ⟨_, old, hzero, hne, hread, line, hline, hholds, by decide, hcut, device', back, hstore,
    hload, htext.trans hshown⟩

end SectorStore.FileHeader
