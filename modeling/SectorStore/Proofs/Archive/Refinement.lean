import SectorStore.Proofs.Archive.Basic
import SectorStore.Proofs.Session.Reachable

/-!
# Volumes behave as archives

`session.Represents archive volume disk slot` says that the volume in a slot holds the files of an
archive and has as many free sectors, and that the open files of the session are on the same places.
Each permitted command is then answered as by the archive, and the session afterwards represents the
archive afterwards (`Represents.yields_perform`), and the same is true of every list of commands
(`Represents.yields_performAll`). A disk that was laid out represents the archive without files.
-/

namespace SectorStore

open Archive (Command)

/-- The bytes of a text are as many as its size says. -/
theorem Utf8.length_encode (text : String) : (encode text).length = text.utf8ByteSize := by
  have hsize := congrArg ByteArray.size (toByteArray_encode text)
  simpa using hsize

/-- Only the empty text has no bytes. -/
theorem Utf8.encode_eq_nil_iff {text : String} : encode text = [] ↔ text = "" := by
  constructor
  · intro h
    exact encode_injective h
  · rintro rfl
    rfl

namespace Session

/-- The file open in a slot is what an archive has in it. -/
def HandleAgrees (session : Session) (volume : Volume) (slot : Slot) : Archive.Handle → Prop
  | .closed => session.files[slot]? = none
  | .on i => ∃ file, session.files[slot]? = some ⟨0, file⟩ ∧ volume.Lists file.headerSector i
  | .stale => True

/-- A file stays what the archive has in its slot while its entry of the directory is kept. -/
theorem HandleAgrees.congr {session session' : Session} {volume volume' : Volume} {slot : Slot}
    {handle : Archive.Handle} (h : session.HandleAgrees volume slot handle)
    (hfile : session'.files[slot]? = session.files[slot]?)
    (hkept : ∀ i, handle = .on i → (volume.directory.entry i).isUnused = false →
      volume'.directory.entry i = volume.directory.entry i) :
    session'.HandleAgrees volume' slot handle := by
  cases handle with
  | closed => exact hfile.trans h
  | on i =>
    obtain ⟨file, hopen, hlists⟩ := h
    refine ⟨file, hfile.trans hopen, ?_⟩
    rw [Volume.Lists, hkept i rfl hlists.1]
    exact hlists
  | stale => trivial

/-- The volume in a slot of the session holds what an archive holds. -/
structure Represents (session : Session) (archive : Archive) (volume : Volume) (disk : Disk)
    (slot : Slot) : Prop where
  /-- The session works on the volume. -/
  sound : session.Sound volume disk []
  /-- The volume is in the slot. -/
  mounted_eq : session.mounted[slot]? = some 0
  /-- The files are the same. -/
  files_eq : ∀ i : Fin numEntries, archive.files.get i =
    (volume.contents? disk i).map fun bytes => ((volume.directory.entry i).name, bytes)
  /-- What is not free is taken. -/
  numFree_add : volume.numFree + archive.numTaken = archive.size
  /-- The open files are the same. -/
  handles : ∀ other, session.HandleAgrees volume other (archive.handles other)

variable {session : Session} {archive : Archive} {volume volume' : Volume} {disk disk' : Disk}
  {slot : Slot} {i : Fin numEntries} {name : String} {size : Nat}

namespace Represents

/-- Archive and volume have as many free sectors. -/
theorem numFree_eq (h : session.Represents archive volume disk slot) :
    volume.numFree = archive.numFree := by
  have hadd := h.numFree_add
  rw [Archive.numFree]
  omega

/-- A place of the archive is empty where the entry is unused. -/
theorem files_eq_none_iff (h : session.Represents archive volume disk slot) :
    archive.files.get i = none ↔ (volume.directory.entry i).isUnused = true := by
  rw [h.files_eq, Option.map_eq_none_iff, Volume.contents?, Option.map_eq_none_iff]
  constructor
  · intro hnone
    by_contra hused
    obtain ⟨header, hheader, -⟩ := h.sound.intact.exists_header i (by simpa using hused)
    rw [hnone] at hheader
    cases hheader
  · exact fun hunused => if_pos hunused

/-- A place in use holds the name of the entry and the bytes of the file. -/
theorem files_eq_some (h : session.Represents archive volume disk slot) {bytes : Bytes}
    (hbytes : volume.contents? disk i = some bytes) :
    archive.files.get i = some ((volume.directory.entry i).name, bytes) := by
  rw [h.files_eq, hbytes, Option.map_some]

/-- A name is found in the same place. -/
theorem indexOf?_eq (h : session.Represents archive volume disk slot) (name : String) :
    archive.indexOf? name = volume.directory.indexOf? name := by
  refine Directory.findFinIdx?_eq_of_forall fun i => ?_
  show ((archive.files.get i).map Prod.fst == some name) = (volume.directory.entry i).isFor name
  cases hused : (volume.directory.entry i).isUnused with
  | true =>
    rw [h.files_eq_none_iff.2 hused, DirEntry.isFor, hused]
    rfl
  | false =>
    obtain ⟨bytes, hbytes⟩ := h.sound.intact.exists_contents? hused
    rw [h.files_eq_some hbytes, DirEntry.isFor, hused]
    rfl

/-- The first empty place is the same. -/
theorem firstEmpty?_eq (h : session.Represents archive volume disk slot) :
    archive.firstEmpty? = volume.directory.firstUnused? := by
  refine Directory.findFinIdx?_eq_of_forall fun i => ?_
  rw [Bool.eq_iff_iff, Option.isNone_iff_eq_none, h.files_eq_none_iff]
  rfl

/-- A new file is refused for the same cause. -/
theorem refusal?_eq (h : session.Represents archive volume disk slot) (name : String)
    (size : Nat) : archive.refusal? name size = volume.refusal? name size := by
  rw [Archive.refusal?, Volume.refusal?, h.indexOf?_eq, h.firstEmpty?_eq, h.numFree_eq,
    Utf8.length_encode]
  simp only [Utf8.encode_eq_nil_iff]

/-- A file can become as long in the archive as on the volume. -/
theorem reach_eq (h : session.Represents archive volume disk slot) (length stop : Nat) :
    archive.reach length stop = FileHeader.reach length volume.numFree stop := by
  rw [Archive.reach, FileHeader.reach, ← h.numFree_eq]
  rfl

/-- The names of the files, in order. -/
theorem names_eq (h : session.Represents archive volume disk slot) :
    archive.files.toList.filterMap (Option.map Prod.fst) = volume.names := by
  -- place by place: there is a file where the entry of the directory is used
  have hplaces : archive.files.toList.map (Option.map Prod.fst) =
      volume.directory.entries.toList.map fun entry =>
        if !entry.isUnused then some entry.name else none := by
    apply List.ext_getElem
    · simp
    intro k hk hk'
    rw [List.length_map, Vector.length_toList] at hk
    let i : Fin numEntries := ⟨k, hk⟩
    rw [List.getElem_map, List.getElem_map, Vector.getElem_toList, Vector.getElem_toList]
    show (archive.files.get i).map Prod.fst =
      if !(volume.directory.entry i).isUnused then some (volume.directory.entry i).name else none
    cases hused : (volume.directory.entry i).isUnused with
    | true =>
      rw [h.files_eq_none_iff.2 hused]
      rfl
    | false =>
      obtain ⟨bytes, hbytes⟩ := h.sound.intact.exists_contents? hused
      rw [h.files_eq_some hbytes]
      rfl
  calc archive.files.toList.filterMap (Option.map Prod.fst)
      = (archive.files.toList.map (Option.map Prod.fst)).filterMap id := by
        rw [List.filterMap_map]
        rfl
    _ = volume.names := by
        rw [hplaces, List.filterMap_map, Volume.names, Directory.names, ← List.filterMap_eq_map,
          List.filterMap_filter]
        rfl

/-! ## Commands that change nothing -/

/-- The session in a state with other open files. -/
theorem setFiles (h : session.Represents archive volume disk slot) {session' : Session}
    {handles : Slot → Archive.Handle} (hvolumes : session'.volumes = session.volumes)
    (hmounted : session'.mounted = session.mounted)
    (hhandles : ∀ other, session'.HandleAgrees volume other (handles other)) :
    session'.Represents { archive with handles } volume disk slot where
  sound := ⟨hvolumes.trans h.sound.volumes_eq, h.sound.intact, h.sound.flushed⟩
  mounted_eq := by rw [hmounted, h.mounted_eq]
  files_eq := h.files_eq
  numFree_add := h.numFree_add
  handles := hhandles

/-- A file that is open in a slot, as the archive has it. -/
theorem exists_file (h : session.Represents archive volume disk slot) {other : Slot}
    (hstale : archive.handles other ≠ .stale) :
    (archive.fileIn? other = none ∧ session.fileIn? other = none) ∨
      ∃ i file bytes, session.fileIn? other = some (⟨0, file⟩, volume) ∧
        volume.Lists file.headerSector i ∧ volume.contents? disk i = some bytes ∧
        archive.fileIn? other = some (i, (volume.directory.entry i).name, bytes) := by
  have hagrees := h.handles other
  rcases hhandle : archive.handles other with _ | i | _
  · rw [hhandle] at hagrees
    have hnone : session.files[other]? = none := hagrees
    refine .inl ⟨by rw [Archive.fileIn?, hhandle], ?_⟩
    rw [fileIn?, hnone]
    rfl
  · rw [hhandle] at hagrees
    obtain ⟨file, hfile, hlists⟩ := hagrees
    obtain ⟨bytes, hbytes⟩ := h.sound.intact.exists_contents? hlists.1
    refine .inr ⟨i, file, bytes, ?_, hlists, hbytes, ?_⟩
    · rw [h.sound.fileIn?_eq hfile]
      rfl
    · rw [Archive.fileIn?, hhandle]
      simp only [h.files_eq_some hbytes, Option.map_some]
  · exact absurd hhandle hstale

/-! ## Commands that change a file -/

/-- What is left to show where one entry of the directory has changed. -/
theorem setFile (h : session.Represents archive volume disk slot)
    {file : Option (String × Bytes)} (hintact : volume'.Intact disk' [])
    (hflushed : volume'.Flushed disk')
    (hself : file =
      (volume'.contents? disk' i).map fun bytes => ((volume'.directory.entry i).name, bytes))
    (hothers : ∀ j, j ≠ i → volume'.directory.entry j = volume.directory.entry j ∧
      volume'.contents? disk' j = volume.contents? disk j)
    (hnumFree : volume'.numFree + Archive.sectorsFor file =
      volume.numFree + Archive.sectorsFor (archive.files.get i))
    {handles : Slot → Archive.Handle}
    (hhandles : ∀ other, session.HandleAgrees volume' other (handles other)) :
    (session.setVolume 0 volume').Represents { archive.setFile i file with handles } volume' disk'
      slot where
  sound := by
    refine ⟨?_, hintact, hflushed⟩
    rw [setVolume, h.sound.volumes_eq]
    rfl
  mounted_eq := h.mounted_eq
  files_eq j := by
    show (archive.setFile i file).files.get j = _
    rw [Archive.get_files_setFile]
    by_cases hj : j = i
    · rw [if_pos hj, hj]
      exact hself
    · rw [if_neg hj, h.files_eq, (hothers j hj).1, (hothers j hj).2]
  numFree_add := by
    have hadd := h.numFree_add
    have htaken := archive.numTaken_setFile i file
    show volume'.numFree + (archive.setFile i file).numTaken = archive.size
    omega
  handles := hhandles

/-- A new file takes the first empty place. -/
theorem created (h : session.Represents archive volume disk slot) (hzero : '\x00' ∉ name.toList)
    (hcreated : volume.Created disk [] name size i volume' disk') :
    (session.setVolume 0 volume').Represents
      (archive.setFile i (some (name, List.replicate size 0))) volume' disk' slot := by
  have hunused := Directory.isUnused_of_firstUnused? hcreated.firstUnused?_eq
  have hused := hcreated.isUnused_eq hzero
  obtain ⟨lost', hintact, hlost, -⟩ := hcreated.intact
  obtain rfl := hlost hused
  refine h.setFile hintact hcreated.flushed ?_ ?_ ?_ ?_
  · rw [hcreated.contents?_eq hused, Option.map_some, hcreated.name_eq hzero]
  · exact fun j hj => ⟨hcreated.entry_eq hj, hcreated.contents?_of_ne j hj⟩
  · have hcount := hcreated.numFree_eq
    rw [h.files_eq_none_iff.2 hunused, Archive.sectorsFor, Archive.sectorsFor,
      List.length_replicate]
    exact hcount
  · -- the open files are on other entries, which are in use
    refine fun other => (h.handles other).congr rfl fun j _ hkept => hcreated.entry_eq ?_
    rintro rfl
    rw [hkept] at hunused
    cases hunused

/-- The place of a removed file is empty, and the files that were open on it are stale. -/
theorem removed (h : session.Represents archive volume disk slot)
    (hused : (volume.directory.entry i).isUnused = false)
    (hremoved : volume.Removed disk [] i volume' disk') :
    (session.setVolume 0 volume').Represents (archive.removeFile i) volume' disk' slot := by
  have hother : ∀ j, j ≠ i → volume'.directory.entry j = volume.directory.entry j := by
    intro j hj
    rw [hremoved.directory_eq, Directory.entry_setEntry, if_neg hj]
  have hself : (volume'.directory.entry i).isUnused = true := by
    rw [hremoved.directory_eq, Directory.entry_setEntry, if_pos rfl]
    rfl
  obtain ⟨bytes, hbytes⟩ := h.sound.intact.exists_contents? hused
  refine h.setFile hremoved.intact hremoved.flushed ?_ ?_ ?_ ?_
  · rw [Volume.contents?, Volume.header?, if_pos hself]
    rfl
  · exact fun j hj => ⟨hother j hj, hremoved.contents?_of_ne j hj⟩
  · rw [h.files_eq_some hbytes, Archive.sectorsFor, Archive.sectorsFor,
      hremoved.numFree_eq bytes hbytes]
    rfl
  · -- handles of the removed file become stale, all others still name their entries
    intro other
    show session.HandleAgrees volume' other
      (if archive.handles other = .on i then .stale else archive.handles other)
    split
    · trivial
    · next hopen =>
      refine (h.handles other).congr rfl fun j hj _ => hother j ?_
      rintro rfl
      exact hopen hj

/-- A file that was written to has the new bytes in its place. -/
theorem written (h : session.Represents archive volume disk slot) {bytes data : Bytes}
    {offset written : Nat} (hbytes : volume.contents? disk i = some bytes)
    (hwritten : volume.Written disk [] i bytes offset data written volume' disk') :
    (session.setVolume 0 volume').Represents
      (archive.setFile i (some ((volume.directory.entry i).name,
        bytes.overlay (archive.reach bytes.length (offset + data.length)) offset data)))
      volume' disk' slot := by
  have hle : bytes.length ≤ archive.reach bytes.length (offset + data.length) := by
    rw [h.reach_eq]
    exact FileHeader.le_reach _ _ _
  have hcontents := hwritten.contents?_eq
  have hnumFree := hwritten.numFree_eq
  rw [← h.reach_eq] at hcontents hnumFree
  refine h.setFile hwritten.intact (hwritten.flushed h.sound.flushed) ?_ ?_ ?_ ?_
  · rw [hcontents, Option.map_some, hwritten.directory_eq]
  · exact fun j hj => ⟨by rw [hwritten.directory_eq], hwritten.contents?_of_ne j hj⟩
  · rw [h.files_eq_some hbytes, Archive.sectorsFor, Archive.sectorsFor,
      Bytes.length_overlay hle]
    omega
  · exact fun other => (h.handles other).congr rfl fun j _ _ => by rw [hwritten.directory_eq]

/-! ## Commands one by one -/

/-- A command is answered as by the archive, and the session afterwards represents the archive
afterwards. -/
def Follows (archive : Archive) (slot : Slot) (command : Command) (answer : Answer × Session)
    (disk' : Disk) : Prop :=
  answer.1 = (archive.step command).1 ∧
    ∃ volume', answer.2.Represents (archive.step command).2 volume' disk' slot

/-- A session follows the archive if it gives its answer and represents what comes of it. -/
theorem follows_of_step {command : Command} {answer : Answer} {archive' : Archive}
    (hstep : archive.step command = (answer, archive'))
    (h : ∃ volume, session.Represents archive' volume disk slot) :
    Follows archive slot command (answer, session) disk :=
  ⟨by rw [hstep], by rwa [hstep]⟩

/-- A request about the volume finds it. -/
theorem onVolume_eq (h : session.Represents archive volume disk slot)
    (act : Nat → Volume → Transfer (Answer × Session)) :
    session.onVolume slot act = act 0 volume := by
  rw [onVolume, volumeIn?, h.mounted_eq]
  simp only [Option.bind_eq_bind, Option.bind_some, h.sound.getElem?_volumes, if_pos]
  rfl

/-- Making a file follows the archive. -/
theorem yields_create (h : session.Represents archive volume disk slot)
    (hzero : '\x00' ∉ name.toList) (size : Nat) :
    (session.perform (.create slot name size)).Yields disk
      (Follows archive slot (.create name size)) := by
  rw [perform, changeVolume, h.onVolume_eq]
  refine (h.sound.intact.yields_create name size).bind ?_
  intro answer disk' houtcome
  rw [← h.refusal?_eq] at houtcome
  rcases hrefusal : archive.refusal? name size with _ | cause
  · rw [hrefusal] at houtcome
    obtain ⟨volume', i, rfl, hcreated⟩ := houtcome
    have hempty : archive.firstEmpty? = some i := h.firstEmpty?_eq.trans hcreated.firstUnused?_eq
    have hstep : archive.step (.create name size) =
        (.done, archive.setFile i (some (name, List.replicate size 0))) := by
      rw [Archive.step, hrefusal, hempty]
    exact Transfer.yields_pure.2 (follows_of_step hstep ⟨volume', h.created hzero hcreated⟩)
  · rw [hrefusal] at houtcome
    obtain ⟨rfl, rfl⟩ := houtcome
    have hstep : archive.step (.create name size) = (.refused cause, archive) := by
      rw [Archive.step, hrefusal]
    exact Transfer.yields_pure.2 (follows_of_step hstep ⟨volume, h⟩)

/-- Removing a file follows the archive. -/
theorem yields_remove (h : session.Represents archive volume disk slot) (name : String) :
    (session.perform (.remove slot name)).Yields disk (Follows archive slot (.remove name)) := by
  rw [perform, changeVolume, h.onVolume_eq]
  refine (h.sound.intact.yields_remove name).bind ?_
  intro answer disk' houtcome
  rw [← h.indexOf?_eq] at houtcome
  rcases hindex : archive.indexOf? name with _ | i
  · rw [hindex] at houtcome
    obtain ⟨rfl, rfl⟩ := houtcome
    have hstep : archive.step (.remove name) = (.refused .notFound, archive) := by
      rw [Archive.step, hindex]
    exact Transfer.yields_pure.2 (follows_of_step hstep ⟨volume, h⟩)
  · rw [hindex] at houtcome
    obtain ⟨volume', rfl, hremoved⟩ := houtcome
    have hstep : archive.step (.remove name) = (.done, archive.removeFile i) := by
      rw [Archive.step, hindex]
    rw [h.indexOf?_eq] at hindex
    exact Transfer.yields_pure.2 (follows_of_step hstep
      ⟨volume', h.removed (Directory.isUnused_of_indexOf? hindex) hremoved⟩)

/-- Opening a file follows the archive. -/
theorem yields_openFile (h : session.Represents archive volume disk slot) (other : Slot)
    (name : String) :
    (session.perform (.openFile slot other name)).Yields disk
      (Follows archive slot (.openFile other name)) := by
  rw [perform, h.onVolume_eq]
  rcases hindex : archive.indexOf? name with _ | i
  · have hstep : archive.step (.openFile other name) = (.refused .notFound, archive) := by
      rw [Archive.step, hindex]
    have hopen : volume.open name = .error .notFound := by
      rw [Volume.open, Directory.find?_eq, ← h.indexOf?_eq, hindex, Option.map_none]
    simp only [hopen]
    exact Transfer.yields_pure.2 (follows_of_step hstep ⟨volume, h⟩)
  · have hstep : archive.step (.openFile other name) =
        (.done, { archive with handles := Function.update archive.handles other (.on i) }) := by
      rw [Archive.step, hindex]
    have hopen : volume.open name = .ok ⟨(volume.directory.entry i).header, 0⟩ := by
      rw [Volume.open, Directory.find?_eq, ← h.indexOf?_eq, hindex, Option.map_some]
    rw [h.indexOf?_eq] at hindex
    have hused := Directory.isUnused_of_indexOf? hindex
    simp only [hopen]
    refine Transfer.yields_pure.2 (follows_of_step hstep ⟨volume, ?_⟩)
    refine h.setFiles rfl rfl fun other' => ?_
    have hget := getElem?_insert_slot session.files other other'
      ⟨0, ⟨(volume.directory.entry i).header, 0⟩⟩
    -- the slot holds the file that was found; the other slots are as they were
    by_cases hother : other' = other
    · rw [if_pos hother.symm] at hget
      rw [hother, Function.update_self]
      exact ⟨_, hother ▸ hget, hused, rfl⟩
    · rw [Function.update_of_ne hother]
      rw [if_neg (Ne.symm hother)] at hget
      exact (h.handles other').congr hget fun _ _ _ => rfl

/-- A write through a handle of a file that is there follows the archive. -/
theorem yields_writeAt (h : session.Represents archive volume disk slot) {other : Slot}
    (hstale : archive.handles other ≠ .stale) {offset : Nat} {data : Bytes}
    (hsum : offset + data.length < sumLimit) :
    (session.perform (.writeAt other offset data)).Yields disk
      (Follows archive slot (.writeAt other offset data)) := by
  rw [perform, onFile]
  rcases h.exists_file hstale with ⟨hnone, hnone'⟩ | ⟨i, file, bytes, hin, hlists, hbytes, hat⟩
  · rw [hnone']
    exact Transfer.yields_pure.2 (follows_of_step (by rw [Archive.step, hnone]) ⟨volume, h⟩)
  rw [hin]
  refine (h.sound.intact.yields_writeAt hlists hbytes hsum).bind ?_
  rintro ⟨written, volume'⟩ disk' hwritten
  have hcount := hwritten.written_eq
  rw [← h.reach_eq] at hcount
  dsimp only at hcount ⊢
  rw [hcount]
  exact Transfer.yields_pure.2
    (follows_of_step (by rw [Archive.step, hat]) ⟨volume', h.written hbytes hwritten⟩)

/-- Each permitted command is answered as by the archive. -/
theorem yields_perform (h : session.Represents archive volume disk slot) {command : Command}
    (hpermits : archive.Permits command) :
    (session.perform (command.request slot)).Yields disk (Follows archive slot command) := by
  cases command with
  | create name size => exact h.yields_create hpermits size
  | remove name => exact h.yields_remove name
  | names =>
    rw [Command.request, perform, h.onVolume_eq]
    exact Transfer.yields_pure.2 (follows_of_step (by rw [Archive.step, h.names_eq]) ⟨volume, h⟩)
  | openFile other name => exact h.yields_openFile other name
  | length other =>
    rw [Command.request, perform, onFile]
    rcases h.exists_file hpermits with ⟨hnone, hnone'⟩ | ⟨i, file, bytes, hin, hlists, hbytes, hat⟩
    · rw [hnone']
      exact Transfer.yields_pure.2 (follows_of_step (by rw [Archive.step, hnone]) ⟨volume, h⟩)
    · rw [hin]
      simp only [Transfer.yields_bind, h.sound.intact.yields_length hlists hbytes]
      exact Transfer.yields_pure.2 (follows_of_step (by rw [Archive.step, hat]) ⟨volume, h⟩)
  | readAt other offset buffer =>
    rw [Command.request, perform, onFile]
    rcases h.exists_file hpermits.1 with
      ⟨hnone, hnone'⟩ | ⟨i, file, bytes, hin, hlists, hbytes, hat⟩
    · rw [hnone']
      exact Transfer.yields_pure.2 (follows_of_step (by rw [Archive.step, hnone]) ⟨volume, h⟩)
    · rw [hin]
      simp only [Transfer.yields_bind, h.sound.intact.yields_readAt hlists hbytes hpermits.2]
      exact Transfer.yields_pure.2 (follows_of_step (by rw [Archive.step, hat]) ⟨volume, h⟩)
  | writeAt other offset data => exact h.yields_writeAt hpermits.1 hpermits.2

/-- Lists of permitted commands are answered as by the archive. -/
theorem yields_performAll (h : session.Represents archive volume disk slot)
    {commands : List Command} (hpermits : archive.PermitsAll commands) :
    (session.performAll (commands.map (Command.request slot))).Yields disk fun answer disk' =>
      answer.1 = (archive.run commands).1 ∧
        ∃ volume', answer.2.Represents (archive.run commands).2 volume' disk' slot := by
  induction commands generalizing session archive volume disk with
  | nil => exact Transfer.yields_pure.2 ⟨rfl, volume, h⟩
  | cons command others ih =>
    rw [List.map_cons, performAll, Archive.run]
    refine (h.yields_perform hpermits.1).bind ?_
    rintro ⟨answer, session₁⟩ disk₁ ⟨hanswer, volume₁, h₁⟩
    refine (ih h₁ hpermits.2).bind ?_
    rintro ⟨answers, session₂⟩ disk₂ ⟨hanswers, volume₂, h₂⟩
    dsimp only at hanswer hanswers
    refine Transfer.yields_pure.2 ⟨?_, volume₂, h₂⟩
    rw [hanswer, hanswers]

end Represents

/-! ## Whole runs -/

/-- A disk that was laid out holds the archive without files. -/
theorem represents_empty {numSectors : Nat} {disk : Disk}
    (h : Volume.Formatted numSectors volume disk) :
    (start.addVolume slot volume).Represents (.empty numSectors) volume disk slot where
  sound := ⟨rfl, h.intact, h.flushed⟩
  mounted_eq := (getElem?_insert_slot _ slot slot 0).trans (if_pos rfl)
  files_eq i := by
    have hunused : (volume.directory.entry i).isUnused = true := by
      rw [h.directory_eq, Directory.entry_empty]
      rfl
    rw [Volume.contents?, Volume.header?, if_pos hunused, Archive.get_files_empty]
    rfl
  numFree_add := by
    have hcount := h.numFree_eq
    have hnone : ∑ i : Fin numEntries,
        Archive.sectorsFor ((Archive.empty numSectors).files.get i) = 0 := by
      apply Finset.sum_eq_zero
      intro i _
      rw [Archive.get_files_empty]
      rfl
    rw [Archive.numTaken, hnone]
    exact hcount
  handles other := Std.TreeMap.getElem?_emptyc

/-- On a disk that was laid out, every list of permitted commands runs through, is answered as by
an archive that was empty at first, and leaves as many free sectors. -/
theorem performAll_eq_run {δ : Type} [BlockDevice δ] [LawfulBlockDevice δ] {device device₁ : δ}
    {numSectors : Nat} (hblocks : HasBlocks device numSectors)
    (hformat : (start.perform (.format slot numSectors)).run device =
      (.ok (.done, session), device₁))
    {commands : List Command} (hpermits : (Archive.empty numSectors).PermitsAll commands) :
    ∃ session' device' volume,
      (session.performAll (commands.map (Command.request slot))).run device₁ =
        (.ok (((Archive.empty numSectors).run commands).1, session'), device') ∧
      session'.volumes = #[volume] ∧
      volume.numFree = ((Archive.empty numSectors).run commands).2.numFree := by
  obtain ⟨hblocks₁, volume, rfl, hformatted⟩ := formatted_of_run hblocks hformat
  obtain ⟨⟨answers, session'⟩, device', hrun, -, hanswers, volume', h⟩ :=
    ((represents_empty hformatted).yields_performAll hpermits).exists_run hblocks₁
  dsimp only at hanswers
  exact ⟨session', device', volume', hanswers ▸ hrun, h.sound.volumes_eq, h.numFree_eq⟩

/-- On a memory disk of 20 blocks, a write behind the end of a file fills the gap with zeros. -/
theorem performAll_eq_run_of_write :
    ∃ (session session' : Session) (device device' : RamDisk sectorSize) (volume : Volume),
      (start.perform (.format 0 20)).run (RamDisk.zeroed 20 sectorSize) =
        (.ok (.done, session), device) ∧
      (session.performAll (List.map (Command.request 0) [.create "a" 2, .openFile 0 "a",
        .writeAt 0 4 [7], .readAt 0 0 [1, 1, 1, 1, 1, 1], .remove "a", .names])).run device =
        (.ok ([.done, .done, .count 1, .filled ⟨5, [0, 0, 0, 0, 7, 1]⟩, .done, .names []],
          session'), device') ∧
      session'.volumes = #[volume] ∧ volume.numFree = 13 := by
  let commands : List Command := [.create "a" 2, .openFile 0 "a", .writeAt 0 4 [7],
    .readAt 0 0 [1, 1, 1, 1, 1, 1], .remove "a", .names]
  have hpermits : (Archive.empty 20).PermitsAll commands := by decide +kernel
  have hanswers : ((Archive.empty 20).run commands).1 = [.done, .done, .count 1,
    .filled ⟨5, [0, 0, 0, 0, 7, 1]⟩, .done, .names []] := by decide +kernel
  have hfree : ((Archive.empty 20).run commands).2.numFree = 13 := by decide +kernel
  have hdone : answers? ((start.performAll [.format 0 20]).run (RamDisk.zeroed 20 sectorSize)) =
    some [.done] := by decide +kernel
  obtain ⟨session, device, hrun⟩ := exists_of_answers? hdone
  obtain ⟨session₁, device₁, hformat, hrest⟩ := run_performAll_cons hrun
  have hblocks : HasBlocks (RamDisk.zeroed 20 sectorSize) 20 := RamDisk.hasBlocks _
  obtain ⟨session', device', volume, hrun', hvolumes, hnumFree⟩ :=
    performAll_eq_run hblocks hformat hpermits
  rw [hanswers] at hrun'
  exact ⟨session₁, session', device₁, device', volume, hformat, hrun', hvolumes,
    hnumFree.trans hfree⟩

end Session

end SectorStore
