import SectorStore.Proofs.Archive.Basic

/-!
# Files stored as a whole

`Archive.store` puts a file with all its bytes into the first empty place, and `Archive.bytes?`
finds it under its name. What is stored under a name is found until it is removed, whatever else is
stored or removed meanwhile (`bytes?_store_self`, `bytes?_store`, `bytes?_removeFile`).
-/

namespace SectorStore.Archive

/-- The names of the files, in the order of their places. -/
def names (archive : Archive) : List String :=
  archive.files.toList.filterMap (Option.map Prod.fst)

/-- The bytes of the file of the given name. -/
def bytes? (archive : Archive) (name : String) : Option Bytes := do
  let i ← archive.indexOf? name
  let file ← archive.files.get i
  return file.2

/-- The archive with a new file in the first empty place, unless the file is refused. -/
def store (archive : Archive) (name : String) (data : Bytes) : Except Refusal Archive :=
  match archive.refusal? name data.length, archive.firstEmpty? with
  | some cause, _ => .error cause
  | none, some i => .ok (archive.setFile i (some (name, data)))
  | none, none => .error .directoryFull

variable {archive archive' : Archive} {name other : String} {data bytes : Bytes}
  {i : Fin numEntries} {file : Option (String × Bytes)}

/-- The file that is put in a place last is the one there. -/
theorem setFile_setFile (file' : Option (String × Bytes)) :
    (archive.setFile i file).setFile i file' = archive.setFile i file' := by
  simp only [setFile, Vector.set_set]

/-! ## Looking up -/

/-- A name is found in the first place that has it. -/
theorem indexOf?_eq_some_iff : archive.indexOf? name = some i ↔
    (archive.files.get i).map Prod.fst = some name ∧
      ∀ j < i, (archive.files.get j).map Prod.fst ≠ some name := by
  rw [indexOf?, Directory.findFinIdx?_eq_some_iff]
  simp only [beq_iff_eq, beq_eq_false_iff_ne]

/-- A name is not found if no place has it. -/
theorem indexOf?_eq_none_iff : archive.indexOf? name = none ↔
    ∀ i, (archive.files.get i).map Prod.fst ≠ some name := by
  rw [indexOf?, Vector.findFinIdx?_eq_none_iff]
  simp only [beq_iff_eq]
  constructor
  · exact fun h i => h _ (Vector.getElem_mem i.isLt)
  · intro h file hmem
    obtain ⟨k, hk, rfl⟩ := Vector.mem_iff_getElem.1 hmem
    exact h ⟨k, hk⟩

/-- The bytes under a name are those in the place where it is found. -/
theorem bytes?_of_indexOf? (h : archive.indexOf? name = some i) :
    archive.bytes? name = (archive.files.get i).map Prod.snd := by
  rw [bytes?, h, Option.bind_eq_bind, Option.bind_some]
  cases archive.files.get i <;> rfl

/-- There are no bytes under a name that is not found. -/
theorem bytes?_eq_none_iff : archive.bytes? name = none ↔ archive.indexOf? name = none := by
  rcases h : archive.indexOf? name with _ | i
  · simp [bytes?, h]
  · have hname := (indexOf?_eq_some_iff.1 h).1
    rw [bytes?_of_indexOf? h]
    rcases hfile : archive.files.get i with _ | file
    · rw [hfile] at hname
      cases hname
    · simp

/-- A change in a place that has another name before and afterwards does not matter for a name. -/
theorem bytes?_setFile_of_ne (hold : (archive.files.get i).map Prod.fst ≠ some name)
    (hnew : file.map Prod.fst ≠ some name) :
    (archive.setFile i file).bytes? name = archive.bytes? name := by
  have hindex : (archive.setFile i file).indexOf? name = archive.indexOf? name := by
    refine Directory.findFinIdx?_eq_of_forall fun j => ?_
    rw [get_files_setFile]
    by_cases hj : j = i
    · rw [if_pos hj, hj, beq_eq_false_iff_ne.2 hold, beq_eq_false_iff_ne.2 hnew]
    · rw [if_neg hj]
  rcases h : archive.indexOf? name with _ | j
  · rw [bytes?_eq_none_iff.2 h, bytes?_eq_none_iff.2 (hindex.trans h)]
  · rw [bytes?_of_indexOf? h, bytes?_of_indexOf? (hindex.trans h), get_files_setFile, if_neg]
    rintro rfl
    exact hold (indexOf?_eq_some_iff.1 h).1

/-! ## Storing -/

/-- A file is stored in the first empty place, unless it is refused. -/
theorem store_eq_ok_iff : archive.store name data = .ok archive' ↔
    archive.refusal? name data.length = none ∧ ∃ i, archive.firstEmpty? = some i ∧
      archive' = archive.setFile i (some (name, data)) := by
  rw [store]
  rcases archive.refusal? name data.length with _ | cause
  · rcases archive.firstEmpty? with _ | i
    · simp
    · simp [eq_comm]
  · simp

/-- A name that is accepted was not there. -/
theorem indexOf?_of_refusal? {size : Nat} (h : archive.refusal? name size = none) :
    archive.indexOf? name = none := by
  rw [refusal?] at h
  split at h
  · cases h
  · next hnew => simpa using hnew

/-- The first empty place is empty. -/
theorem isNone_of_firstEmpty? (h : archive.firstEmpty? = some i) : archive.files.get i = none := by
  rw [firstEmpty?, Directory.findFinIdx?_eq_some_iff] at h
  simpa using h.1

/-- What was stored is found. -/
theorem bytes?_store_self (h : archive.store name data = .ok archive') :
    archive'.bytes? name = some data := by
  obtain ⟨hrefusal, i, -, rfl⟩ := store_eq_ok_iff.1 h
  have hnew := indexOf?_eq_none_iff.1 (indexOf?_of_refusal? hrefusal)
  have hindex : (archive.setFile i (some (name, data))).indexOf? name = some i := by
    refine indexOf?_eq_some_iff.2 ⟨?_, fun j hj => ?_⟩
    · rw [get_files_setFile, if_pos rfl]
      rfl
    · rw [get_files_setFile, if_neg (Fin.ne_of_lt hj)]
      exact hnew j
  rw [bytes?_of_indexOf? hindex, get_files_setFile, if_pos rfl]
  rfl

/-- What was there before is found as before. -/
theorem bytes?_store (h : archive.store other data = .ok archive')
    (hbytes : archive.bytes? name = some bytes) : archive'.bytes? name = some bytes := by
  obtain ⟨hrefusal, i, hempty, rfl⟩ := store_eq_ok_iff.1 h
  have hne : other ≠ name := by
    rintro rfl
    rw [bytes?_eq_none_iff.2 (indexOf?_of_refusal? hrefusal)] at hbytes
    cases hbytes
  rw [bytes?_setFile_of_ne ?_ ?_, hbytes]
  · rw [isNone_of_firstEmpty? hempty]
    exact nofun
  · intro hname
    exact hne (Option.some.inj hname)

/-- The removal of another file does not matter. -/
theorem bytes?_removeFile (h : archive.indexOf? other = some i) (hne : other ≠ name) :
    (archive.removeFile i).bytes? name = archive.bytes? name := by
  have hold := (indexOf?_eq_some_iff.1 h).1
  show (archive.setFile i none).bytes? name = archive.bytes? name
  refine bytes?_setFile_of_ne ?_ nofun
  rw [hold]
  intro hname
  exact hne (Option.some.inj hname)

end SectorStore.Archive
