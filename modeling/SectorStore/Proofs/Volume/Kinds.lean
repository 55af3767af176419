import SectorStore.Proofs.FileHeader.Kinds
import SectorStore.Proofs.Journal.Stamps
import SectorStore.Proofs.Pipe.Making
import SectorStore.Proofs.Pipe.Straying

/-!
# Types of the files of a volume

A journal tells under which name each file was made: a file is known by the sector of its header,
and it is the last event about the sector that counts (`Journal.MadeLast`). A volume is `Typed` by a
journal if each of its files was made under an allowed name, of which its entry tells what stands in
front of the first zero character, and if the header has the type that this name tells. Making files
under allowed names, removing and writing files keep a volume typed, and so does whatever is done
with a pipe (`Pipe.invariant_typed`).
-/

namespace SectorStore

/-! ## Names of creation -/

/-- The file that was made last with its header in the sector was made under the name. -/
def Journal.MadeLast (journal : Journal) (sector : SectorId) (name : String) : Prop :=
  ∃ index, journal.LastAt (Event.Makes sector) index (.made sector name)

namespace Journal.MadeLast

variable {journal : Journal} {events : List Event} {sector : SectorId} {name name' : String}

/-- Files that are made elsewhere are of no matter. -/
theorem append (h : journal.MadeLast sector name)
    (hnone : ∀ event ∈ events, ¬ event.Makes sector) :
    Journal.MadeLast (journal ++ events) sector name := by
  obtain ⟨index, hlast⟩ := h
  exact ⟨index, hlast.append hnone⟩

/-- A file that was made just now was made last. -/
theorem of_append : Journal.MadeLast (journal ++ [.made sector name]) sector name :=
  ⟨journal.length, .of_append rfl⟩

/-- A journal tells no more than one name of a sector. -/
theorem unique (h : journal.MadeLast sector name) (h' : journal.MadeLast sector name') :
    name = name' := by
  obtain ⟨index, hlast⟩ := h
  obtain ⟨index', hlast'⟩ := h'
  have hsame := (hlast.unique hlast').2
  exact (Event.made.inj hsame).2

end Journal.MadeLast

/-! ## Types -/

variable {journal : Journal} {allowed : String → Prop} {volume volume' : Volume} {disk disk' : Disk}
  {lost : List SectorId} {i : Fin numEntries} {header header' : FileHeader} {name : String}
  {size offset written : Nat} {data : Bytes} {file : OpenFile}

/-- The header has the type that the name tells, and the entry the name, up to the first zero. -/
structure FileHeader.TypedBy (header : FileHeader) (entry : DirEntry) (name : String) : Prop where
  /-- The entry tells the name. -/
  name_eq : entry.name = Utf8.upToZero name
  /-- The type is that of the name. -/
  kind_eq : header.kind = (header.setKind (Extension.ofName name)).kind

theorem FileHeader.TypedBy.sensible {entry : DirEntry} (h : header.TypedBy entry name)
    (hplain : Extension.IsPlain name) : Sensible name header.kind.text := by
  rw [h.kind_eq]
  exact header.sensible_setKind hplain

namespace Volume

/-- Each file was made under an allowed name, which the journal tells and which tells its type. -/
def Typed (allowed : String → Prop) (journal : Journal) (volume : Volume) (disk : Disk) : Prop :=
  ∀ i header, volume.header? disk i = some header → ∃ name,
    journal.MadeLast (volume.directory.entry i).header name ∧ allowed name ∧
      header.TypedBy (volume.directory.entry i) name

/-- A new file has the type of its name. -/
theorem Intact.yields_create_typed (h : volume.Intact disk lost) (name : String) (size : Nat) :
    (volume.create name size).run.Yields disk fun answer disk' =>
      match answer with
      | .error _ => disk' = disk
      | .ok volume' => volume.directory.indexOf? name = none ∧ ∃ i map header,
          volume.Created disk lost name size i volume' disk' ∧
          volume.freeMap.take? = some ((volume'.directory.entry i).header, map) ∧
          disk'.header? (volume'.directory.entry i).header = some header ∧
          header.TypedBy (volume'.directory.entry i) name := by
  refine ((h.yields_create name size).and (h.yields_create_stamped name size)).mono ?_
  rintro answer disk' ⟨houtcome, hstamped⟩
  rcases hrefusal : volume.refusal? name size with _ | cause
  · rw [hrefusal] at houtcome
    obtain ⟨volume', i, rfl, hcreated⟩ := houtcome
    obtain ⟨i', map, header, hfirst, htake, hheader, hmadeAt, -⟩ := hstamped volume' rfl
    obtain rfl := Option.some.inj (hcreated.firstUnused?_eq.symm.trans hfirst)
    obtain ⟨sector, entry, hmake, hdirectory⟩ := hcreated.exists_entry
    refine ⟨indexOf?_of_refusal? hrefusal, i, map, header, hcreated, htake, hheader, ?_,
      hmadeAt.kind_eq⟩
    rw [hdirectory, Directory.entry_setEntry, if_pos rfl, DirEntry.name_eq_of_make hmake]
  · rw [hrefusal] at houtcome
    obtain ⟨rfl, rfl⟩ := houtcome
    rfl

namespace Typed

/-- Files that stay where they were keep their types. -/
theorem of_kept (h : volume.Typed allowed journal disk)
    (hkept : ∀ j header', volume'.header? disk' j = some header' →
      volume'.directory.entry j = volume.directory.entry j ∧
        ∃ header, volume.header? disk j = some header ∧ header'.kind = header.kind) :
    volume'.Typed allowed journal disk' := by
  intro j header' hheader'
  obtain ⟨hentry, header, hheader, hkind⟩ := hkept j header' hheader'
  obtain ⟨name, hmade, hallowed, htyped⟩ := h j header hheader
  rw [hentry]
  exact ⟨name, hmade, hallowed, htyped.name_eq, hkind.trans htyped.kind_eq⟩

/-- A new file has a type, and the others keep theirs. -/
theorem created (h : volume.Typed allowed journal disk) (hintact : volume.Intact disk lost)
    (hallowed : allowed name)
    (hcreated : volume.Created disk lost name size i volume' disk')
    (hfree : (volume'.directory.entry i).header.toNat ∉ volume.freeMap)
    (hheader : disk'.header? (volume'.directory.entry i).header = some header)
    (htyped : header.TypedBy (volume'.directory.entry i) name) :
    volume'.Typed allowed (journal ++ [.made (volume'.directory.entry i).header name]) disk' := by
  intro j header' hheader'
  by_cases hj : j = i
  · subst hj
    obtain rfl := Option.some.inj (hheader.symm.trans (header?_eq_some_iff.1 hheader').2)
    exact ⟨name, .of_append, hallowed, htyped⟩
  · rw [hcreated.header?_of_ne hintact hj] at hheader'
    rw [hcreated.entry_eq hj]
    obtain ⟨name', hmade, hallowed', htyped'⟩ := h j header' hheader'
    refine ⟨name', hmade.append fun event hevent hmakes => hfree ?_, hallowed', htyped'⟩
    -- the sector of an old header was taken, so the new file has its header elsewhere
    obtain rfl := List.mem_singleton.1 hevent
    rw [show (volume'.directory.entry i).header = (volume.directory.entry j).header from hmakes]
    exact hintact.partition.mem (metaSectors_subset _ (Intact.header_mem hheader'))

/-- Making a file under an allowed name leaves the volume typed by the journal that tells so. -/
theorem yields_create (h : volume.Typed allowed journal disk) (hintact : volume.Intact disk lost)
    (hallowed : allowed name) (size : Nat) :
    (volume.create name size).run.Yields disk fun answer disk' =>
      match answer with
      | .error _ => disk' = disk
      | .ok volume' => ∃ sector map, volume.freeMap.take? = some (sector, map) ∧
          volume'.Typed allowed (journal ++ [.made sector name]) disk' := by
  refine (hintact.yields_create_typed name size).mono ?_
  rintro (cause | volume') disk' houtcome
  · exact houtcome
  · obtain ⟨-, i, map, header, hcreated, htake, hheader, htyped⟩ := houtcome
    have hfree := (FreeMap.takes_of_take? hintact.size_le_pow htake).free _
      (List.mem_singleton_self _)
    exact ⟨_, map, htake, h.created hintact hallowed hcreated hfree hheader htyped⟩

/-- Removing a file leaves the types of the others. -/
theorem yields_remove (h : volume.Typed allowed journal disk) (hintact : volume.Intact disk lost)
    (name : String) :
    (volume.remove name).run.Yields disk fun answer disk' =>
      match answer with
      | .error _ => disk' = disk
      | .ok volume' => volume'.Typed allowed journal disk' := by
  refine (hintact.yields_remove name).mono fun answer disk' houtcome => ?_
  rcases hindex : volume.directory.indexOf? name with _ | i
  · rw [hindex] at houtcome
    obtain ⟨rfl, rfl⟩ := houtcome
    rfl
  · rw [hindex] at houtcome
    obtain ⟨volume', rfl, hremoved⟩ := houtcome
    refine h.of_kept fun j header' hheader' => ?_
    have hj := hremoved.ne_of_isUnused_eq (header?_eq_some_iff.1 hheader').1
    exact ⟨hremoved.entry_eq hj, header', by rw [← hheader', hremoved.header?_of_ne hintact hj],
      rfl⟩

/-- A write leaves the type in the header of the file. -/
theorem yields_writeAt (h : volume.Typed allowed journal disk) (hintact : volume.Intact disk lost)
    (hlists : volume.Lists file.headerSector i) (hsum : offset + data.length < sumLimit) :
    (file.writeAt volume offset data).Yields disk fun answer disk' =>
      answer.2.Intact disk' lost ∧ answer.2.Lists file.headerSector i ∧
        answer.2.Typed allowed journal disk' := by
  obtain ⟨header, hheader, -⟩ := hintact.exists_header i hlists.1
  refine (hintact.yields_rewrite hlists hheader hsum).mono ?_
  rintro ⟨written, volume'⟩ disk' ⟨hwritten, header', hrewritten⟩
  have hwrote : volume.Wrote disk lost i header offset data written header' volume' disk' :=
    ⟨hwritten, hrewritten⟩
  refine ⟨hwritten.intact, hwritten.changesOnly.lists hlists, h.of_kept ?_⟩
  intro j header₁ hheader₁
  refine ⟨by rw [hwritten.directory_eq], ?_⟩
  by_cases hj : j = i
  · subst hj
    obtain rfl := Option.some.inj (hrewritten.header?_eq.symm.trans hheader₁)
    exact ⟨header, hheader, by rw [hrewritten.header_eq]⟩
  · exact ⟨header₁, by rw [← hheader₁, hwrote.header?_of_ne hintact hheader hj], rfl⟩

end Typed

/-- There are no files on a volume that was laid out just now. -/
theorem Formatted.typed {numSectors : Nat} (h : Formatted numSectors volume disk) :
    volume.Typed allowed journal disk := by
  intro i header hheader
  have hused := (header?_eq_some_iff.1 hheader).1
  rw [h.directory_eq, Directory.entry_empty] at hused
  cases hused

end Volume

namespace Pipe

/-- A pipe that is made has made its file. -/
theorem yields_make_typed (h : volume.Typed allowed journal disk)
    (hintact : volume.Intact disk lost) {number size : Nat} (hsum : size + 1 < sumLimit)
    (hallowed : allowed (fileName (size + 1) number)) :
    (make volume number size).Yields disk fun answer disk' =>
      ∀ pipe volume', answer.1 = .ok (pipe, volume') → ∃ sector map,
        volume.freeMap.take? = some (sector, map) ∧
          volume'.Typed allowed (journal ++ [.made sector pipe.name]) disk' := by
  have hcreate := (h.yields_create hintact hallowed (size + 1)).mono
    fun answer disk' houtcome volume' (heq : answer = .ok volume') => by
      rw [heq] at houtcome
      exact houtcome
  refine (yields_make_of_create hsum hcreate).mono fun answer disk' hmade pipe volume' heq => ?_
  obtain ⟨hname, sector, map, htake, htyped⟩ := hmade pipe volume' heq
  exact ⟨sector, map, htake, hname ▸ htyped⟩

/-- A pipe that is dropped leaves the types of the other files. -/
theorem yields_drop_typed (h : volume.Typed allowed journal disk)
    (hintact : volume.Intact disk lost) (pipe : Pipe) :
    (pipe.drop volume).Yields disk fun volume' disk' => volume'.Typed allowed journal disk' := by
  refine (h.yields_remove hintact pipe.name).bind ?_
  rintro (cause | volume') disk' houtcome
  · obtain rfl : disk' = disk := houtcome
    exact Transfer.yields_pure.2 h
  · exact Transfer.yields_pure.2 houtcome

/-- A pipe on a file in the directory stays one, and the volume stays typed. -/
theorem invariant_typed (allowed : String → Prop) (journal : Journal) (lost : List SectorId) :
    Invariant fun pipe volume disk =>
      (∃ i, pipe.OnFile volume disk lost i) ∧ volume.Typed allowed journal disk := by
  refine .of_file (fun h => h.1.choose_spec.inRing) ?_ ?_ ?_
  · rintro pipe pipe' volume disk ⟨⟨i, honFile⟩, htyped⟩ hcontinues hin
    exact ⟨⟨i, honFile.move hcontinues hin⟩, htyped⟩
  · rintro pipe volume disk offset count ⟨⟨i, honFile⟩, -⟩ hsum
    exact honFile.yields_readBytes hsum
  · rintro pipe volume disk offset data ⟨⟨i, honFile⟩, htyped⟩ hsum -
    refine (htyped.yields_writeAt honFile.intact honFile.lists hsum).mono ?_
    rintro answer disk' ⟨hintact, hlists, htyped'⟩
    exact ⟨⟨i, hintact, hlists, honFile.inRing⟩, htyped'⟩

end Pipe

end SectorStore
