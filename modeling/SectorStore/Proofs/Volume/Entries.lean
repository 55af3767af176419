import Mathlib.Data.List.FinRange
import Mathlib.Data.List.Nodup
import SectorStore.Proofs.Directory
import SectorStore.Proofs.FileHeader.Codec
import SectorStore.Proofs.Transfer.Always
import SectorStore.OpenFile

/-!
# What becomes of the directory

Whatever the disk holds, making a file changes the first unused entry and no other, removing a file
empties its entry, and writing to a file leaves the directory as it is. So no two entries in use
ever have the same name, as long as no zero byte is in the names of new files
(`Directory.Distinct`).
-/

namespace SectorStore

open Transfer (always_pure always_bind Grants grants_pure grants_throw grants_liftM grants_bind)

namespace Directory

variable {directory : Directory} {name : String} {i : Fin numEntries} {entry : DirEntry}

/-- No two entries in use have the same name. -/
def Distinct (directory : Directory) : Prop :=
  ∀ i j : Fin numEntries, (directory.entry i).isUnused = false →
    (directory.entry j).isUnused = false →
    (directory.entry i).name = (directory.entry j).name → i = j

theorem distinct_empty : empty.Distinct := by
  intro i j hused
  rw [entry_empty] at hused
  cases hused

/-- A new entry may have any name that no entry in use has. -/
theorem Distinct.setEntry (h : directory.Distinct)
    (hnew : ∀ j, j ≠ i → (directory.entry j).isUnused = false →
      entry.isUnused = false → (directory.entry j).name ≠ entry.name) :
    (directory.setEntry i entry).Distinct := by
  intro j k
  simp only [entry_setEntry]
  by_cases hj : j = i
  · by_cases hk : k = i
    · intro _ _ _
      rw [hj, hk]
    · rw [if_pos hj, if_neg hk]
      intro hentry hused hname
      exact absurd hname.symm (hnew k hk hused hentry)
  · by_cases hk : k = i
    · rw [if_neg hj, if_pos hk]
      intro hused hentry hname
      exact absurd hname (hnew j hj hused hentry)
    · rw [if_neg hj, if_neg hk]
      exact h j k

/-- An unused entry may be anywhere. -/
theorem Distinct.erase (h : directory.Distinct) (i : Fin numEntries) :
    (directory.setEntry i .unused).Distinct :=
  h.setEntry fun _ _ _ hused => nomatch hused

/-- A name that is not found is the name of no entry in use. -/
theorem name_ne_of_indexOf? (h : directory.indexOf? name = none) {j : Fin numEntries}
    (hused : (directory.entry j).isUnused = false) : (directory.entry j).name ≠ name := by
  have hfor := isFor_eq_false_of_indexOf? h j
  rw [DirEntry.isFor, hused] at hfor
  simpa using hfor

/-- The names are those of the entries in use, in order. -/
theorem names_eq (directory : Directory) : directory.names =
    ((List.finRange numEntries).filter fun i => !(directory.entry i).isUnused).map fun i =>
      (directory.entry i).name := by
  have hentries : directory.entries.toList = (List.finRange numEntries).map directory.entry := by
    apply List.ext_getElem
    · simp
    · intro k hk hk'
      simp [entry, Vector.get]
  rw [names, hentries, List.filter_map, List.map_map]
  rfl

/-- A name is listed if there is an entry for it. -/
theorem mem_names_iff : name ∈ directory.names ↔ (directory.indexOf? name).isSome = true := by
  rw [names_eq, List.mem_map]
  constructor
  · rintro ⟨i, hi, rfl⟩
    have hused := (List.mem_filter.1 hi).2
    rcases hindex : directory.indexOf? (directory.entry i).name with _ | j
    · exact absurd rfl (name_ne_of_indexOf? hindex (by simpa using hused))
    · rfl
  · intro hsome
    obtain ⟨i, hindex⟩ := Option.isSome_iff_exists.1 hsome
    have hused : (!(directory.entry i).isUnused) = true := by
      rw [isUnused_of_indexOf? hindex]
      rfl
    exact ⟨i, List.mem_filter.2 ⟨List.mem_finRange i, hused⟩, name_of_indexOf? hindex⟩

/-- A name is listed as often as there are entries for it. -/
theorem count_names (directory : Directory) (name : String) : directory.names.count name =
    (List.finRange numEntries).countP fun i => (directory.entry i).isFor name := by
  rw [names_eq, List.count, List.countP_map, List.countP_filter]
  refine List.countP_congr fun i _ => ?_
  simp only [Function.comp_apply, DirEntry.isFor, Bool.and_comm]

/-- If one entry only is for a name, the name is listed once. -/
theorem count_names_eq_one (hfor : (directory.entry i).isFor name = true)
    (hother : ∀ j, j ≠ i → (directory.entry j).isFor name = false) :
    directory.names.count name = 1 := by
  have hself : ∀ j ∈ List.finRange numEntries, (directory.entry j).isFor name = true ↔
      (j == i) = true := by
    intro j _
    rw [beq_iff_eq]
    constructor
    · intro hj
      by_contra hne
      rw [hother j hne] at hj
      cases hj
    · rintro rfl
      exact hfor
  rw [count_names, List.countP_congr hself]
  exact List.count_eq_one_of_mem (List.nodup_finRange _) (List.mem_finRange i)

/-- What stands in an unused entry is not listed. -/
theorem names_setEntry (hunused : (directory.entry i).isUnused = true)
    (hentry : entry.isUnused = true) : (directory.setEntry i entry).names = directory.names := by
  simp only [names_eq]
  have hsame : ∀ j, ((directory.setEntry i entry).entry j).isUnused = (directory.entry j).isUnused
      ∧ (j ≠ i → (directory.setEntry i entry).entry j = directory.entry j) := by
    intro j
    rw [entry_setEntry]
    by_cases hj : j = i
    · rw [if_pos hj, hj, hunused, hentry]
      exact ⟨rfl, fun hne => absurd rfl hne⟩
    · rw [if_neg hj]
      exact ⟨rfl, fun _ => rfl⟩
  simp only [fun j => (hsame j).1]
  refine List.map_congr_left fun j hj => ?_
  have hused := (List.mem_filter.1 hj).2
  rw [(hsame j).2]
  rintro rfl
  rw [hunused] at hused
  cases hused

end Directory

namespace Volume

variable {volume : Volume} {name : String}

/-- Sectors are taken only for as many bytes as a file may have. -/
theorem grants_allocate_size (header : FileHeader) (map : FreeMap) (size : Nat) :
    Grants (fun _ => size ≤ maxFileSize) (header.allocate map size) := by
  rw [FileHeader.allocate]
  rcases Nat.lt_or_ge maxSectors (sectorsFor size) with hlarge | hmax
  · simp only [if_pos hlarge]
    exact grants_throw _
  · have hsize : size ≤ maxFileSize :=
      Nat.le_of_not_lt fun hlt => Nat.not_lt.2 hmax (maxSectors_lt_sectorsFor_iff.2 hlt)
    exact (Transfer.always_of _ hsize).mono fun _ hsize _ _ => hsize

/-- Where a file is made, its size is one that files may have, its name was not there, and the first
unused entry is made for it. -/
theorem grants_create (volume : Volume) (name : String) (size : Nat) :
    Grants (fun volume' => size ≤ maxFileSize ∧
      volume.directory.indexOf? name = none ∧ ∃ i sector entry,
      volume.directory.firstUnused? = some i ∧ DirEntry.make name sector = .ok entry ∧
      volume'.directory = volume.directory.setEntry i entry) (volume.create name size) := by
  rw [create]
  simp only [Directory.find?_eq, Directory.insert?_eq, Option.isSome_map]
  rcases hindex : volume.directory.indexOf? name with _ | i
  · rcases volume.freeMap.take? with _ | ⟨sector, map₁⟩
    · exact grants_throw _
    refine (grants_liftM (DirEntry.make name sector)).bind fun entry hmake => ?_
    rcases hfirst : volume.directory.firstUnused? with _ | i
    · exact grants_throw _
    -- what is written from here on does not matter for the directory
    refine (grants_allocate_size _ _ size).bind fun ⟨header, map₂⟩ hsize => ?_
    refine grants_bind fun sectors => grants_bind fun _ => grants_bind fun _ => ?_
    exact grants_bind fun _ => grants_pure ⟨hsize, rfl, i, sector, entry, rfl, hmake, rfl⟩
  · exact (grants_throw (p := fun _ => False) _).bind fun _ => False.elim

/-- A file that was made under a name without zero byte is found under it. -/
theorem grants_create_found (volume : Volume) (size : Nat) (hzero : '\x00' ∉ name.toList) :
    Grants (fun volume' => ∃ file, volume'.open name = .ok file) (volume.create name size) := by
  refine (grants_create volume name size).mono ?_
  rintro volume' ⟨-, hnew, i, sector, entry, -, hmake, hdirectory⟩
  rw [Volume.open, Directory.find?_eq, hdirectory,
    Directory.indexOf?_setEntry_make hnew hzero hmake]
  exact ⟨_, rfl⟩

/-- Where a file is removed, its entry is unused afterwards. -/
theorem grants_remove (volume : Volume) (name : String) :
    Grants (fun volume' => ∃ i, volume.directory.indexOf? name = some i ∧
      volume'.directory = volume.directory.setEntry i .unused) (volume.remove name) := by
  rw [remove, Directory.erase?_eq]
  rcases hindex : volume.directory.indexOf? name with _ | i
  · exact grants_throw _
  refine grants_bind fun header => grants_bind fun released => ?_
  refine grants_bind fun map => grants_bind fun _ => ?_
  exact grants_pure ⟨i, rfl, rfl⟩

theorem always_extend (header : FileHeader) (volume : Volume) (offset stop : Nat) :
    (OpenFile.extend header volume offset stop).Always fun answer =>
      answer.2.directory = volume.directory := by
  rw [OpenFile.extend]
  dsimp only
  split
  · exact always_pure rfl
  refine always_bind fun answer => ?_
  split
  · exact always_pure rfl
  · exact always_bind fun _ => always_bind fun _ => always_pure rfl

/-- Writing to a file leaves the directory as it is. -/
theorem always_writeAt (file : OpenFile) (volume : Volume) (offset : Nat) (data : Bytes) :
    (file.writeAt volume offset data).Always fun answer =>
      answer.2.directory = volume.directory := by
  rw [OpenFile.writeAt]
  refine always_bind fun old => always_bind fun stop =>
    (always_extend old volume offset stop).bind ?_
  rintro ⟨header, volume'⟩ hdirectory
  refine always_bind fun written => ?_
  dsimp only
  split
  · exact always_bind fun _ => always_pure hdirectory
  · exact always_pure hdirectory

theorem grants_format (numSectors : Nat) :
    Grants (fun volume => volume.directory = .empty) (format numSectors) := by
  rw [format]
  refine grants_bind fun map => grants_bind fun map => ?_
  refine grants_bind fun ⟨freeMapFile, map⟩ => grants_bind fun ⟨directoryFile, map⟩ => ?_
  refine grants_bind fun _ => grants_bind fun _ => grants_bind fun _ => ?_
  exact grants_pure rfl

end Volume

end SectorStore
