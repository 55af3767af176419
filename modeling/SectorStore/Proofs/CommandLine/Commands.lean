import SectorStore.CommandLine.Run
import SectorStore.Proofs.Archive.Refinement
import SectorStore.Proofs.Archive.Storing
import SectorStore.Proofs.Transfer.Always

/-!
# What commands make of an image

`Command.act` tells of archives what a command does: what it prints and what is stored afterwards,
or why it fails. `Archive.OnDisk.yields_transfer` says that on a disk with the files of an archive
the command does just that, and changes nothing on the disk if it fails or only looks at it.
-/

namespace SectorStore

open CommandLine (Failure Command copyReport storeFile contents)

/-- The outcome of a transfer that may be refused, with the refusal told in other words. -/
theorem Transfer.yields_run_adapt {α ε ε' : Type} {x : ExceptT ε Transfer α} {f : ε → ε'}
    {disk : Disk} {post : Except ε' α → Disk → Prop} :
    (x.adapt f).run.Yields disk post ↔
      x.run.Yields disk fun answer disk' => post (answer.mapError f) disk' :=
  yields_map

/-! ## Files on a volume -/

theorem Session.setVolume_setVolume (session : Session) (number : Nat) (volume volume' : Volume) :
    (session.setVolume number volume).setVolume number volume' =
      session.setVolume number volume' := by
  simp only [setVolume, Array.setIfInBounds_setIfInBounds]

namespace Session.Represents

variable {session : Session} {archive : Archive} {volume : Volume} {disk : Disk} {slot : Slot}
  {name : String}

/-- A file with all its bytes is stored as in the archive, or refused as there. -/
theorem yields_storeFile (h : session.Represents archive volume disk slot)
    (hzero : '\x00' ∉ name.toList) (data : Bytes) :
    (storeFile volume name data).run.Yields disk fun answer disk' =>
      match archive.store name data with
      | .error cause => answer = .error cause ∧ disk' = disk
      | .ok archive' => answer = .ok data.length ∧ ∃ volume',
          (session.setVolume 0 volume').Represents archive' volume' disk' slot ∧
          volume'.freeMap.size = volume.freeMap.size ∧
          volume'.freeMapFile = volume.freeMapFile := by
  rw [storeFile, Transfer.yields_run_bind]
  refine (h.sound.intact.yields_create name data.length).mono ?_
  intro answer disk₁ houtcome
  rw [← h.refusal?_eq] at houtcome
  rcases hrefusal : archive.refusal? name data.length with _ | cause
  · rw [hrefusal] at houtcome
    obtain ⟨volume₁, i, rfl, hcreated⟩ := houtcome
    have hempty : archive.firstEmpty? = some i := h.firstEmpty?_eq.trans hcreated.firstUnused?_eq
    have hstore : archive.store name data = .ok (archive.setFile i (some (name, data))) :=
      Archive.store_eq_ok_iff.2 ⟨hrefusal, i, hempty, rfl⟩
    rw [hstore]
    have h₁ := h.created hzero hcreated
    have hnew := Archive.indexOf?_of_refusal? hrefusal
    rw [h.indexOf?_eq] at hnew
    have hopen : volume₁.open name = .ok ⟨(volume₁.directory.entry i).header, 0⟩ := by
      rw [Volume.open, Directory.find?_eq, hcreated.indexOf?_eq hzero hnew, Option.map_some]
    have hused := hcreated.isUnused_eq hzero
    have hbytes := hcreated.contents?_eq hused
    simp only [hopen, Transfer.liftM_accepted, pure_bind, Transfer.yields_run_bind,
      Transfer.yields_run_lift, Transfer.yields_run_pure]
    have hsum : 0 + data.length < sumLimit := by
      have hcounted := Volume.Intact.length_lt_of_contents? hbytes
      rwa [List.length_replicate, ← Nat.zero_add data.length] at hcounted
    refine (h₁.sound.intact.yields_writeAt ⟨hused, rfl⟩ hbytes hsum).mono ?_
    rintro ⟨written, volume₂⟩ disk₂ hwritten
    have h₂ := h₁.written hbytes hwritten
    -- the file is as long as the data already, so all of the data is written and nothing else stays
    have hreach : Archive.reach (archive.setFile i (some (name, List.replicate data.length 0)))
        (List.replicate data.length (0 : UInt8)).length (0 + data.length) = data.length := by
      rw [Archive.reach, if_neg, List.length_replicate]
      rw [List.length_replicate]
      omega
    have hcount := hwritten.written_eq
    rw [← h₁.reach_eq, hreach] at hcount
    have hoverlay : Bytes.overlay (List.replicate data.length 0) data.length 0 data = data := by
      rw [Bytes.overlay, Bytes.splice]
      simp
    rw [hreach, hoverlay, hcreated.name_eq hzero, Archive.setFile_setFile,
      setVolume_setVolume] at h₂
    rw [Nat.sub_zero, Nat.min_self] at hcount
    refine ⟨congrArg Except.ok hcount, volume₂, h₂, hwritten.size_eq.trans hcreated.size_eq, ?_⟩
    rw [hwritten.freeMapFile_eq, hcreated.fields_eq]
    rfl
  · rw [hrefusal] at houtcome
    obtain ⟨rfl, rfl⟩ := houtcome
    rw [Archive.store, hrefusal]
    exact ⟨rfl, rfl⟩

/-- The bytes of a file are read as the archive has them. -/
theorem yields_contents (h : session.Represents archive volume disk slot) (name : String)
    {post : Except Refusal Bytes → Disk → Prop} :
    (contents volume name).run.Yields disk post ↔
      post (match archive.bytes? name with
        | some bytes => .ok bytes
        | none => .error .notFound) disk := by
  rw [contents]
  rcases hindex : archive.indexOf? name with _ | i
  · have hopen : volume.open name = .error .notFound := by
      rw [Volume.open, Directory.find?_eq, ← h.indexOf?_eq, hindex, Option.map_none]
    simp only [hopen, Transfer.liftM_refused, Transfer.yields_run_bind, Transfer.yields_run_throw,
      Archive.bytes?_eq_none_iff.2 hindex]
  · let file : OpenFile := ⟨(volume.directory.entry i).header, 0⟩
    have hopen : volume.open name = .ok file := by
      rw [Volume.open, Directory.find?_eq, ← h.indexOf?_eq, hindex, Option.map_some]
    have hbytes? := Archive.bytes?_of_indexOf? hindex
    rw [h.indexOf?_eq] at hindex
    have hused := Directory.isUnused_of_indexOf? hindex
    obtain ⟨bytes, hbytes⟩ := h.sound.intact.exists_contents? hused
    rw [h.files_eq_some hbytes, Option.map_some] at hbytes?
    -- the file is read from its beginning over its whole length
    have hslice : bytes.slice 0 bytes.length = bytes := by simp [Bytes.slice]
    have hlists : volume.Lists file.headerSector i := ⟨hused, rfl⟩
    have hsum : 0 + bytes.length < sumLimit :=
      (Nat.zero_add _).symm ▸ Volume.Intact.length_lt_of_contents? hbytes
    simp only [hopen, Transfer.liftM_accepted, pure_bind, Transfer.yields_run_bind,
      Transfer.yields_run_lift, h.sound.intact.yields_length hlists hbytes,
      h.sound.intact.yields_readBytes hlists hbytes hsum, hslice, hbytes?]

end Session.Represents

/-! ## Commands -/

namespace CommandLine.Command

/-- If the command makes a file, no zero byte is in its name. -/
def IsPlain : Command → Prop
  | copyIn _ name => '\x00' ∉ name.toList
  | _ => True

/-- The command shows something and changes nothing. -/
def OnlyLooks : Command → Prop
  | .show _ | names | listing => True
  | _ => False

/-- What a command does with an archive: what it prints, as far as the archive tells, and what is
stored afterwards, or why it fails. Files of the host are looked up by `read`. -/
def act (archive : Archive) (read : String → Except PathFault Bytes) :
    Command → Except Failure (Option Bytes × Archive)
  | .format => .ok (some [], .empty archive.size)
  | .copyIn source name =>
    match read source with
    | .error cause => .error (.unreached cause)
    | .ok data =>
      match archive.store name data with
      | .error cause => .error (.refused cause)
      | .ok archive' => .ok (some (Utf8.encode (copyReport data.length source name)), archive')
  | .show name =>
    match archive.bytes? name with
    | some bytes => .ok (some bytes, archive)
    | none => .error (.refused .notFound)
  | .names =>
    .ok (some (archive.names.flatMap fun name => Utf8.encode name ++ Utf8.encode "\n"), archive)
  | .remove name =>
    match archive.indexOf? name with
    | some i => .ok (some [], archive.removeFile i)
    | none => .error (.refused .notFound)
  | .listing => .ok (none, archive)

end CommandLine.Command

namespace Archive

variable {archive : Archive} {disk : Disk} {numSectors : Nat} {clock : Clock}

/-- The disk holds a volume with the files of the archive. -/
def OnDisk (archive : Archive) (disk : Disk) : Prop :=
  ∃ volume, (Session.start.addVolume 0 volume).Represents archive volume disk 0 ∧
    volume.freeMap.size = archive.size ∧
    volume.freeMapFile.length = FreeMap.bytesFor archive.size

theorem onDisk_empty {volume : Volume} (h : Volume.Formatted numSectors volume disk) :
    (empty numSectors).OnDisk disk :=
  ⟨volume, Session.represents_empty h, h.size_eq, h.freeMapFile_length⟩

namespace OnDisk

/-- What follows taking up the disk is about the volume that is on it. -/
theorem yields_mount_bind {α : Type} {f : Volume → ExceptT Failure Transfer α}
    {post : Except Failure α → Disk → Prop} (h : archive.OnDisk disk)
    (hnext : ∀ volume, (Session.start.addVolume 0 volume).Represents archive volume disk 0 →
      volume.freeMap.size = archive.size →
      volume.freeMapFile.length = FreeMap.bytesFor archive.size → (f volume).run.Yields disk post) :
    (CommandLine.Command.transfer.mount archive.size clock >>= f).run.Yields disk post := by
  obtain ⟨volume, hvolume, hsize, hlength⟩ := h
  rw [CommandLine.Command.transfer.mount]
  simp only [Transfer.yields_run_bind, Transfer.yields_run_lift, Transfer.yields_run_pure, ← hsize,
    hvolume.sound.intact.yields_mount hvolume.sound.flushed (hsize ▸ hlength)]
  refine hnext _ ⟨⟨rfl, (hvolume.sound.intact.withClock _).withClock _, ?_⟩, hvolume.mounted_eq,
    hvolume.files_eq, hvolume.numFree_add, hvolume.handles⟩ hsize hlength
  exact ⟨hvolume.sound.flushed.1, hvolume.sound.flushed.2⟩

/-- A command does on the disk what it does with the archive. Where it fails or only looks, the disk
stays as it is. -/
theorem yields_transfer (h : archive.OnDisk disk) {command : CommandLine.Command}
    (hformat : command ≠ .format) (hplain : command.IsPlain) (clock : Clock)
    (read : String → Except PathFault Bytes) :
    (command.transfer archive.size clock read).run.Yields disk fun answer disk' =>
      match command.act archive read with
      | .error cause => answer = .error cause ∧ disk' = disk
      | .ok (printed, archive') =>
        (∃ output, answer = .ok output ∧ ∀ expected ∈ printed, output = expected) ∧
          archive'.OnDisk disk' ∧ archive'.size = archive.size ∧
          (command.OnlyLooks → disk' = disk) := by
  cases command with
  | format => exact absurd rfl hformat
  -- a file of the host that cannot be read leaves the disk as it is
  | copyIn source name =>
    rw [CommandLine.Command.transfer, CommandLine.Command.act]
    refine h.yields_mount_bind fun volume hvolume hsize hlength => ?_
    rcases read source with cause | data
    · exact Transfer.yields_run_throw.2 ⟨rfl, rfl⟩
    simp only [Transfer.yields_run_bind, Transfer.yields_run_adapt]
    refine (hvolume.yields_storeFile hplain data).mono ?_
    intro answer disk' houtcome
    rcases hstore : archive.store name data with cause | archive'
    · rw [hstore] at houtcome
      obtain ⟨rfl, rfl⟩ := houtcome
      exact ⟨rfl, rfl⟩
    · rw [hstore] at houtcome
      obtain ⟨rfl, volume', hvolume', hsize', hfile⟩ := houtcome
      obtain ⟨-, i, -, rfl⟩ := store_eq_ok_iff.1 hstore
      refine Transfer.yields_run_pure.2 ⟨⟨_, rfl, ?_⟩,
        ⟨volume', hvolume', hsize'.trans hsize, hfile ▸ hlength⟩, rfl, False.elim⟩
      exact fun expected hexpected => Option.some.inj hexpected
  | «show» name =>
    rw [CommandLine.Command.transfer, CommandLine.Command.act]
    refine h.yields_mount_bind fun volume hvolume hsize hlength => ?_
    rw [Transfer.yields_run_adapt, hvolume.yields_contents]
    rcases archive.bytes? name with _ | bytes
    · exact ⟨rfl, rfl⟩
    · exact ⟨⟨bytes, rfl, fun _ hexpected => Option.some.inj hexpected⟩, h, rfl, fun _ => rfl⟩
  | names =>
    rw [CommandLine.Command.transfer, CommandLine.Command.act]
    refine h.yields_mount_bind fun volume hvolume hsize hlength => ?_
    rw [Transfer.yields_run_pure, names, hvolume.names_eq]
    exact ⟨⟨_, rfl, fun _ hexpected => Option.some.inj hexpected⟩, h, rfl, fun _ => rfl⟩
  | remove name =>
    rw [CommandLine.Command.transfer, CommandLine.Command.act]
    refine h.yields_mount_bind fun volume hvolume hsize hlength => ?_
    simp only [Transfer.yields_run_bind, Transfer.yields_run_adapt]
    refine (hvolume.sound.intact.yields_remove name).mono ?_
    intro answer disk' houtcome
    -- the volume and the archive look the name up in the same way
    rw [← hvolume.indexOf?_eq] at houtcome
    rcases hindex : archive.indexOf? name with _ | i
    · rw [hindex] at houtcome
      obtain ⟨rfl, rfl⟩ := houtcome
      exact ⟨rfl, rfl⟩
    · rw [hindex] at houtcome
      obtain ⟨volume', rfl, hremoved⟩ := houtcome
      rw [hvolume.indexOf?_eq] at hindex
      have hvolume' := hvolume.removed (Directory.isUnused_of_indexOf? hindex) hremoved
      refine Transfer.yields_run_pure.2 ⟨⟨_, rfl, ?_⟩,
        ⟨volume', hvolume', hremoved.size_eq.trans hsize, ?_⟩, rfl, False.elim⟩
      swap
      · rw [hremoved.fields_eq]
        exact hlength
      exact fun expected hexpected => Option.some.inj hexpected
  -- a listing has no counterpart in the archive; it only looks
  | listing =>
    rw [CommandLine.Command.transfer, CommandLine.Command.act]
    refine h.yields_mount_bind fun volume hvolume hsize hlength => ?_
    rw [Transfer.yields_run_bind, Transfer.yields_run_lift]
    refine hvolume.sound.intact.yields_listing.mono ?_
    rintro text disk' rfl
    exact Transfer.yields_run_pure.2 ⟨⟨_, rfl, fun _ hexpected => absurd hexpected
      (Option.not_mem_none _)⟩, h, rfl, fun _ => rfl⟩

end OnDisk

end Archive

end SectorStore
