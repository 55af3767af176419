import SectorStore.Directory
import SectorStore.Proofs.Bytes.Fields
import SectorStore.Proofs.Text.Utf8

/-!
# Directory entries

* `Directory.ofBytes_toBytes`: a directory is read back as written;
* `DirEntry.name_eq_of_make`: an entry tells the name it was made for, up to the first zero
  character;
* `Directory.indexOf?`, `Directory.firstUnused?`: the places that look-ups, insertion and removal
  are about, and what these do in terms of them.
-/

namespace SectorStore

/-! ## Names -/

namespace DirEntry

variable {name : String} {sector : SectorId} {entry : DirEntry}

/-- An entry is made for any name of one byte or more that fits. -/
theorem make_eq_ok_iff : make name sector = .ok entry ↔
    Utf8.encode name ≠ [] ∧ (Utf8.encode name).length ≤ maxNameBytes ∧
      entry = ⟨(Utf8.encode name).fit (maxNameBytes + 1), sector⟩ := by
  rw [make]
  split
  · next h => simp [List.isEmpty_iff.1 h]
  · next h =>
    rw [List.isEmpty_iff] at h
    split
    · next hlong => simp [h, Nat.not_le.2 hlong]
    · next hshort => simp [h, Nat.le_of_not_lt hshort, eq_comm]

/-- No entry is made for a name without bytes. -/
theorem make_eq_emptyName (h : Utf8.encode name = []) : make name sector = .error .emptyName := by
  rw [make, h]
  rfl

/-- No entry is made for a name that leaves no room for a zero byte. -/
theorem make_eq_nameTooLong (h : maxNameBytes < (Utf8.encode name).length) :
    make name sector = .error .nameTooLong := by
  have hne : ¬ (Utf8.encode name).isEmpty = true := by
    rw [List.isEmpty_iff]
    rintro hempty
    simp [hempty] at h
  rw [make, if_neg hne, if_pos h]

/-- A new entry names the sector of the header. -/
theorem header_make (h : make name sector = .ok entry) : entry.header = sector := by
  rw [(make_eq_ok_iff.1 h).2.2]

/-- An entry tells the name that it was made for, up to the first zero character. -/
theorem name_eq_of_make (h : make name sector = .ok entry) : entry.name = Utf8.upToZero name := by
  obtain ⟨-, hfits, rfl⟩ := make_eq_ok_iff.1 h
  have hshort : (Bytes.untilZero (Utf8.encode name)).length ≤ maxNameBytes :=
    Nat.le_trans (List.takeWhile_prefix _).length_le hfits
  rw [DirEntry.name, Bytes.untilZero_fit (Nat.le_succ_of_le hfits), List.take_of_length_le hshort,
    Utf8.decode_untilZero_encode]

/-- An entry tells the name that it was made for. -/
theorem name_make (hzero : '\x00' ∉ name.toList) (h : make name sector = .ok entry) :
    entry.name = name := by
  rw [name_eq_of_make h, Utf8.upToZero_eq hzero]

/-- The entry for a name that does not begin with a zero byte is in use. -/
theorem isUnused_make (hzero : '\x00' ∉ name.toList) (h : make name sector = .ok entry) :
    entry.isUnused = false := by
  obtain ⟨hne, hfits, rfl⟩ := make_eq_ok_iff.1 h
  rw [← Utf8.zero_mem_encode_iff] at hzero
  obtain ⟨b, rest, hbytes⟩ := List.exists_cons_of_ne_nil hne
  have hb : b ≠ 0 := by
    rintro rfl
    simp [hbytes] at hzero
  simp [isUnused, hbytes, hb]

@[simp]
theorem length_toBytes (entry : DirEntry) : entry.toBytes.length = entrySize := by
  simp [toBytes]

/-- An entry is read back as written. -/
@[simp]
theorem ofBytes_toBytes (entry : DirEntry) : ofBytes entry.toBytes = entry := by
  have hname : entry.toBytes.take (maxNameBytes + 1) = entry.nameBytes.toList := by
    rw [toBytes, List.take_left' (Vector.length_toList)]
  have hheader : entry.toBytes.drop (maxNameBytes + 1) = Bytes.ofWord entry.header := by
    rw [toBytes, List.drop_left' (Vector.length_toList)]
  rw [ofBytes, hname, hheader, Bytes.fit_toList, Bytes.toWord_ofWord]

/-- An entry is for a name if it is in use under that name. -/
theorem isFor_iff : entry.isFor name = true ↔ entry.isUnused = false ∧ entry.name = name := by
  rw [isFor, Bool.and_eq_true, Bool.not_eq_true', beq_iff_eq]

end DirEntry

namespace Directory

variable {directory directory' : Directory} {name : String}

@[simp]
theorem length_toBytes (directory : Directory) : directory.toBytes.length = byteSize := by
  simp [toBytes, List.length_flatMap, List.map_const', byteSize]

/-- A directory is read back as written. -/
@[simp]
theorem ofBytes_toBytes (directory : Directory) : ofBytes directory.toBytes = directory := by
  have hpiece : ∀ i (hi : i < numEntries),
      directory.toBytes.slice (i * entrySize) entrySize = directory.entries[i].toBytes := by
    intro i hi
    have hlength : i < directory.entries.toList.length := by simpa using hi
    rw [toBytes, Bytes.slice_flatMap DirEntry.length_toBytes hlength, Vector.getElem_toList]
  have hentries : (ofBytes directory.toBytes).entries = directory.entries := by
    apply Vector.ext
    intro i hi
    rw [ofBytes, Vector.getElem_ofFn, hpiece i hi, if_pos (DirEntry.length_toBytes _),
      DirEntry.ofBytes_toBytes]
  exact congrArg Directory.mk hentries

/-! ## Places -/

/-- The place of the entry for the file of the given name. -/
def indexOf? (directory : Directory) (name : String) : Option (Fin numEntries) :=
  directory.entries.findFinIdx? (·.isFor name)

/-- The place of the first unused entry. -/
def firstUnused? (directory : Directory) : Option (Fin numEntries) :=
  directory.entries.findFinIdx? DirEntry.isUnused

/-- The entry in a place. -/
def entry (directory : Directory) (i : Fin numEntries) : DirEntry :=
  directory.entries.get i

/-- The directory with another entry in one place. -/
def setEntry (directory : Directory) (i : Fin numEntries) (entry : DirEntry) : Directory :=
  ⟨directory.entries.set i entry i.isLt⟩

variable {i j : Fin numEntries} {entry : DirEntry}

/-- Setting an entry changes this entry only. -/
theorem entry_setEntry : (directory.setEntry i entry).entry j =
    if j = i then entry else directory.entry j := by
  show (directory.entries.set i entry i.isLt)[j.val] =
    if j = i then entry else directory.entries[j.val]
  by_cases h : j = i
  · simp [h]
  · rw [if_neg h]
    exact Vector.getElem_set_ne i.isLt j.isLt fun heq => h (Fin.ext heq.symm)

theorem setEntry_setEntry (entry' : DirEntry) :
    (directory.setEntry i entry).setEntry i entry' = directory.setEntry i entry' := by
  simp only [setEntry, Vector.set_set]

theorem entry_empty : empty.entry i = .unused := by
  show (Vector.replicate numEntries DirEntry.unused)[i.val] = .unused
  exact Vector.getElem_replicate _

/-- A name is looked up in the entry of the lowest number that is for it. -/
theorem find?_eq (directory : Directory) (name : String) :
    directory.find? name = (directory.indexOf? name).map fun i => (directory.entry i).header := by
  rw [find?, Vector.find?_eq_map_findFinIdx?_getElem, Option.map_map, indexOf?]
  rfl

/-- An entry is put in the place of the first unused one. -/
theorem insert?_eq (directory : Directory) (entry : DirEntry) :
    directory.insert? entry = directory.firstUnused?.map (directory.setEntry · entry) := by
  rw [insert?, firstUnused?]
  cases directory.entries.findFinIdx? DirEntry.isUnused <;> rfl

/-- A name is erased from the entry of the lowest number that is for it. -/
theorem erase?_eq (directory : Directory) (name : String) :
    directory.erase? name = (directory.indexOf? name).map fun i =>
      ((directory.entry i).header, directory.setEntry i .unused) := by
  rw [erase?, indexOf?]
  cases directory.entries.findFinIdx? (·.isFor name) <;> rfl

/-- A place is found if it has the property and no place before it does. -/
theorem findFinIdx?_eq_some_iff {α : Type} {n : Nat} {xs : Vector α n} {p : α → Bool}
    {i : Fin n} : xs.findFinIdx? p = some i ↔
      p (xs.get i) = true ∧ ∀ j < i, p (xs.get j) = false := by
  rcases xs with ⟨xs, rfl⟩
  rw [Vector.findFinIdx?_mk]
  simp only [Fin.cast_refl, Option.map_id, id_eq]
  rw [Array.findFinIdx?_eq_some_iff]
  simp [Vector.get]

/-- Two look-ups with the same properties find the same place. -/
theorem findFinIdx?_eq_of_forall {α β : Type} {n : Nat} {xs : Vector α n} {ys : Vector β n}
    {p : α → Bool} {q : β → Bool} (h : ∀ i : Fin n, p (xs.get i) = q (ys.get i)) :
    xs.findFinIdx? p = ys.findFinIdx? q := by
  apply Option.ext
  intro i
  simp only [findFinIdx?_eq_some_iff, h]

/-- The place of a file is the first one whose entry is for its name. -/
theorem indexOf?_eq_some_iff : directory.indexOf? name = some i ↔
    (directory.entry i).isFor name = true ∧ ∀ j < i, (directory.entry j).isFor name = false :=
  findFinIdx?_eq_some_iff

/-- If a name is not found, no entry is for it. -/
theorem isFor_eq_false_of_indexOf? (h : directory.indexOf? name = none) (i : Fin numEntries) :
    (directory.entry i).isFor name = false := by
  rw [indexOf?, Vector.findFinIdx?_eq_none_iff] at h
  exact Bool.eq_false_iff.2 (h _ (Vector.getElem_mem i.isLt))

theorem isFor_of_indexOf? (h : directory.indexOf? name = some i) :
    (directory.entry i).isFor name = true :=
  (indexOf?_eq_some_iff.1 h).1

/-- The entry in which a name is found is in use. -/
theorem isUnused_of_indexOf? (h : directory.indexOf? name = some i) :
    (directory.entry i).isUnused = false :=
  (DirEntry.isFor_iff.1 (isFor_of_indexOf? h)).1

/-- The entry in which a name is found has this name. -/
theorem name_of_indexOf? (h : directory.indexOf? name = some i) :
    (directory.entry i).name = name :=
  (DirEntry.isFor_iff.1 (isFor_of_indexOf? h)).2

/-- The entry that is made for a new name is found under it. -/
theorem indexOf?_setEntry_make {sector : SectorId} (hnew : directory.indexOf? name = none)
    (hzero : '\x00' ∉ name.toList) (hmake : DirEntry.make name sector = .ok entry) :
    (directory.setEntry i entry).indexOf? name = some i := by
  refine indexOf?_eq_some_iff.2 ⟨?_, ?_⟩
  · rw [entry_setEntry, if_pos rfl, DirEntry.isFor_iff]
    exact ⟨DirEntry.isUnused_make hzero hmake, DirEntry.name_make hzero hmake⟩
  · intro j hj
    rw [entry_setEntry, if_neg (Fin.ne_of_lt hj)]
    exact isFor_eq_false_of_indexOf? hnew j

/-- Without a name there is no entry in use. -/
theorem isUnused_of_names_eq_nil (h : directory.names = []) (i : Fin numEntries) :
    (directory.entry i).isUnused = true := by
  rw [names, List.map_eq_nil_iff, List.filter_eq_nil_iff] at h
  have hmem : directory.entry i ∈ directory.entries.toList :=
    Vector.mem_toList_iff.2 (Vector.getElem_mem i.isLt)
  simpa using h _ hmem

/-- The first unused entry is unused. -/
theorem isUnused_of_firstUnused? (h : directory.firstUnused? = some i) :
    (directory.entry i).isUnused = true :=
  (findFinIdx?_eq_some_iff.1 h).1

end Directory

end SectorStore
