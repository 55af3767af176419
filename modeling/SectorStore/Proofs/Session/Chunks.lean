import SectorStore.Proofs.Session.Writing
import SectorStore.Proofs.Volume.Joining

/-!
# Transfers in chunks

A file can be read and written in one go, or in chunks from a position on. `Reachable.chunks_agree`
says that it makes no difference: if the data would be written in full, then so is each chunk of it,
and device and volume end up the same, however the data was split; and the chunks that are read are,
one behind the other, the bytes of the file.

Both are inductions on the list of chunks. For writes the step is that a write can be made in two
(`HasOpen.exists_append`).
-/

namespace SectorStore

/-- Two slices one behind the other are one slice, also where the first is cut short by the end. -/
theorem Bytes.slice_append_slice (bytes : Bytes) (start m n : Nat) :
    bytes.slice start m ++ bytes.slice (start + (bytes.slice start m).length) n =
      bytes.slice start (m + n) := by
  simp only [slice, List.take_add, List.drop_drop, List.length_take, List.length_drop]
  congr 2
  rcases Nat.le_total m (bytes.length - start) with hle | hle
  · rw [Nat.min_eq_left hle]
  · rw [List.drop_eq_nil_of_le (by omega), List.drop_eq_nil_of_le (by omega)]

namespace Session

variable {δ : Type} [BlockDevice δ] {numSectors : Nat} {device device' : δ}
  {session session' : Session} {slot : Slot} {file : Attached OpenFile} {volume volume' : Volume}
  {lost : List SectorId} {offset written : Nat} {data first second : Bytes} {i : Fin numEntries}
  {header : FileHeader}

/-- The session with a file at another position. -/
def moveFile (session : Session) (slot : Slot) (file : Attached OpenFile) (position : Nat) :
    Session :=
  session.setFile slot ⟨file.volume, file.item.seek position⟩

/-- A session that differs from a sound one neither in its pipes nor in the size of the volume is
sound if the volume belongs with the device. -/
theorem SoundOn.of_sound (h : session.SoundOn device numSectors volume lost)
    (hsound : session'.Sound volume' (Disk.image device numSectors) lost)
    (hsize : volume'.freeMap.size = volume.freeMap.size)
    (hfile : volume'.freeMapFile = volume.freeMapFile) (hpipes : session'.pipes = session.pipes)
    (hnext : session'.nextPipe = session.nextPipe) :
    session'.SoundOn device numSectors volume' lost where
  hasBlocks := h.hasBlocks
  sound := hsound
  size_eq := hsize.trans h.size_eq
  numbered := h.numbered.congr hpipes (Nat.le_of_eq hnext.symm)
  rings := ⟨fun _ _ _ => trivial, fun slot pipe hpipe => h.rings.pipe slot pipe (hpipes ▸ hpipe)⟩
  freeMapFile_length := hfile ▸ h.freeMapFile_length

/-- A file of the directory is open in a slot of a sound session. -/
structure HasOpen (session : Session) (device : δ) (numSectors : Nat) (slot : Slot)
    (file : Attached OpenFile) (volume : Volume) (lost : List SectorId) : Prop where
  /-- The session is sound. -/
  soundOn : session.SoundOn device numSectors volume lost
  /-- The file is in the slot. -/
  fileIn?_eq : session.fileIn? slot = some (file, volume)
  /-- The file is in the directory. -/
  holdsFile : volume.HoldsFile file.item

namespace HasOpen

theorem fileIsListed (h : session.HasOpen device numSectors slot file volume lost) :
    session.FileIsListed slot := by
  intro file' volume' hin
  rw [h.fileIn?_eq, Option.some.injEq, Prod.mk.injEq] at hin
  obtain ⟨rfl, rfl⟩ := hin
  exact h.holdsFile

theorem volume_eq_zero (h : session.HasOpen device numSectors slot file volume lost) :
    file.volume = 0 :=
  (h.soundOn.sound.of_fileIn? h.fileIn?_eq).2.1

/-- In a sound session the position of an open file does not matter. -/
theorem of_moveFile {position : Nat}
    (hsound : (session.moveFile slot file position).SoundOn device numSectors volume lost)
    (hzero : file.volume = 0) (hholds : volume.HoldsFile file.item) :
    (session.moveFile slot file position).HasOpen device numSectors slot
      ⟨file.volume, file.item.seek position⟩ volume lost := by
  have hslot : (session.moveFile slot file position).files[slot]? =
      some ⟨file.volume, file.item.seek position⟩ := by
    rw [moveFile, setFile, getElem?_insert_slot, if_pos rfl]
  exact ⟨hsound, (hsound.sound.fileIn?_eq hslot).trans (if_pos hzero), hholds⟩

theorem moveFile (h : session.HasOpen device numSectors slot file volume lost) (position : Nat) :
    (session.moveFile slot file position).HasOpen device numSectors slot
      ⟨file.volume, file.item.seek position⟩ volume lost :=
  have hsound := h.soundOn.sound
  have hmoved : (session.moveFile slot file position).SoundOn device numSectors volume lost :=
    h.soundOn.of_sound ⟨hsound.volumes_eq, hsound.intact, hsound.flushed⟩ rfl rfl rfl rfl
  of_moveFile hmoved h.volume_eq_zero h.holdsFile

/-- Giving the volume another clock leaves the file open. -/
theorem setClock {volumeSlot : Slot} {clock : Clock}
    (h : session.HasOpen device numSectors slot file volume lost)
    (hrun : (session.perform (.setClock volumeSlot clock)).run device =
      (.ok (.done, session'), device')) :
    session'.HasOpen device' numSectors slot file (volume.withClock clock) lost := by
  have hsound := h.soundOn.sound
  obtain ⟨hslot, hzero, -⟩ := hsound.of_fileIn? h.fileIn?_eq
  rw [perform, changeVolume] at hrun
  rcases hsound.onVolume_cases volumeSlot _ with heq | ⟨-, heq⟩ <;> rw [heq] at hrun <;> cases hrun
  have hset : (session.setVolume 0 (volume.withClock clock)).Sound (volume.withClock clock)
      (Disk.image device numSectors) lost := by
    exact ⟨volumes_setVolume hsound.volumes_eq _, hsound.intact.withClock clock,
      hsound.flushed.freeMap_eq, hsound.flushed.directory_eq⟩
  exact ⟨h.soundOn.of_sound hset rfl rfl rfl rfl, (hset.fileIn?_eq hslot).trans (if_pos hzero),
    h.holdsFile⟩

/-! ## Requests on the file -/

theorem run_seek (h : session.HasOpen device numSectors slot file volume lost) (position : Nat) :
    (session.perform (.seek slot position)).run device =
      (.ok (.done, session.moveFile slot file position), device) := by
  rw [perform, onFile, h.fileIn?_eq]
  rfl

/-- A write at an offset is one of the file. -/
theorem run_of_writeAt (h : session.HasOpen device numSectors slot file volume lost)
    (hrun : (session.perform (.writeAt slot offset data)).run device =
      (.ok (.count written, session'), device')) :
    ∃ volume', (file.item.writeAt volume offset data).run device =
        (.ok (written, volume'), device') ∧ session'.volumes = #[volume'] := by
  rw [perform, onFile, h.fileIn?_eq, Transfer.run_bind] at hrun
  rcases hwrite : (file.item.writeAt volume offset data).run device with
    ⟨cause | ⟨count, volume'⟩, device₁⟩
  · simp [hwrite] at hrun
  · simp only [hwrite, Transfer.run_pure, Prod.mk.injEq, Except.ok.injEq,
      Answer.count.injEq] at hrun
    obtain ⟨⟨rfl, rfl⟩, rfl⟩ := hrun
    refine ⟨volume', rfl, ?_⟩
    rw [setVolume, h.soundOn.sound.volumes_eq, h.volume_eq_zero]
    rfl

/-- A write at the position of the file is one at that offset, and moves the position. -/
theorem run_write (h : session.HasOpen device numSectors slot file volume lost)
    (hrun : (file.item.writeAt volume file.item.position data).run device =
      (.ok (written, volume'), device')) :
    (session.perform (.write slot data)).run device =
      (.ok (.count written, (session.setVolume file.volume volume').moveFile slot file
        (file.item.position + written)), device') := by
  rw [perform, onFile, h.fileIn?_eq]
  simp only [OpenFile.write, Transfer.run_bind, hrun, Transfer.run_pure]
  rfl

variable [LawfulBlockDevice δ]

/-- A write leaves the session sound, and the file open. -/
theorem of_write (h : session.HasOpen device numSectors slot file volume lost)
    (hrun : (file.item.writeAt volume file.item.position data).run device =
      (.ok (written, volume'), device')) :
    ∃ lost', ((session.setVolume file.volume volume').moveFile slot file
      (file.item.position + written)).HasOpen device' numSectors slot
        ⟨file.volume, file.item.seek (file.item.position + written)⟩ volume' lost' := by
  have hpermits : session.Permits (fun _ => True) (.write slot data) := h.fileIsListed
  obtain ⟨volume₁, lost', hadvanced, hsound⟩ :=
    h.soundOn.exists_advanced hpermits (h.run_write hrun)
  have hvolumes : ((session.setVolume file.volume volume').moveFile slot file
      (file.item.position + written)).volumes = #[volume'] := by
    rw [Session.moveFile, setFile, setVolume, h.soundOn.sound.volumes_eq, h.volume_eq_zero]
    rfl
  obtain rfl := eq_of_volumes_eq hvolumes hadvanced.volumes_eq
  obtain ⟨i, hlists⟩ := h.holdsFile
  exact ⟨lost', of_moveFile hsound h.volume_eq_zero ⟨i, hadvanced.evolves.lists hlists id⟩⟩

/-- A write that is completed can be made in two. -/
theorem exists_append (h : session.HasOpen device numSectors slot file volume lost)
    (hsteady : volume.clock.IsSteady)
    (hrun : (file.item.writeAt volume offset (first ++ second)).run device =
      (.ok ((first ++ second).length, volume'), device')) :
    ∃ volume₁ device₁ volume₂ device₂,
      (file.item.writeAt volume offset first).run device =
        (.ok (first.length, volume₁), device₁) ∧
      (file.item.writeAt volume₁ (offset + first.length) second).run device₁ =
        (.ok (second.length, volume₂), device₂) ∧
      volume₁.clock.IsSteady ∧ volume₂ = volume'.withClock volume₂.clock ∧
      SameBlocksOff [] device' device₂ := by
  have hintact := h.soundOn.sound.intact
  have hblocks := h.soundOn.hasBlocks
  obtain ⟨i, hlists⟩ := h.holdsFile
  obtain ⟨header, hheader, -⟩ := hintact.exists_header i hlists.1
  have hsum := (file.item.always_writeAt_fits volume offset _).of_run hrun
  have hyields := hintact.yields_rewrite hlists hheader hsum
  obtain ⟨volume₁, disk₁, volume₂, disk₂, hrun₁, hrun₂, hsteady₁, hvolume, hsame⟩ :=
    hintact.exists_writeAt_append h.soundOn.sound.flushed hlists hsteady
      (hyields.run_image hblocks hrun)
  obtain ⟨device₁, hdevice₁, hblocks₁, rfl⟩ := Transfer.exists_run_of_image hblocks hrun₁
  obtain ⟨device₂, hdevice₂, hblocks₂, rfl⟩ := Transfer.exists_run_of_image hblocks₁ hrun₂
  refine ⟨volume₁, device₁, volume₂, device₂, hdevice₁, hdevice₂, hsteady₁, hvolume, ?_⟩
  refine .of_image (hyields.of_run hblocks hrun).1 hblocks₂
    (h.soundOn.size_eq ▸ hintact.size_le_pow) hsame fun block hle => ?_
  -- no write reaches behind the volume
  have hbehind := hyields.read_eq_of_le hblocks hrun hle
  have hbehind₁ := Transfer.read_run_of_le hblocks hrun₁ hle
  have hbehind₂ := Transfer.read_run_of_le hblocks₁ hrun₂ hle
  rw [hdevice₁] at hbehind₁
  rw [hdevice₂] at hbehind₂
  rw [hbehind₂, hbehind₁, hbehind]

/-- Data that would be written in full is written in full chunk by chunk, and device and volume end
up the same. -/
theorem exists_run_writes {chunks : List Bytes} (hchunks : chunks ≠ [])
    (h : session.HasOpen device numSectors slot file volume lost) (hsteady : volume.clock.IsSteady)
    (hrun : (file.item.writeAt volume file.item.position chunks.flatten).run device =
      (.ok (chunks.flatten.length, volume'), device')) :
    ∃ session'' device'' volume'',
      (session.performAll (chunks.map (.write slot))).run device =
        (.ok (chunks.map (.count ·.length), session''), device'') ∧
      session''.volumes = #[volume''] ∧ volume'' = volume'.withClock volume''.clock ∧
      SameBlocksOff [] device' device'' := by
  induction chunks generalizing session device file volume lost volume' device' with
  | nil => exact absurd rfl hchunks
  | cons chunk chunks ih =>
    rcases eq_or_ne chunks [] with rfl | hmore
    · -- the last chunk is what is left of the data
      rw [List.flatten_cons, List.flatten_nil, List.append_nil] at hrun
      obtain ⟨lost', hopen⟩ := h.of_write hrun
      exact ⟨_, device', volume', run_performAll_of_run (h.run_write hrun) rfl,
        hopen.soundOn.sound.volumes_eq, rfl, fun _ _ => rfl⟩
    · rw [List.flatten_cons] at hrun
      obtain ⟨volume₁, device₁, volume₂, device₂, hrun₁, hrun₂, hsteady₁, hvolume₂, hsame₂⟩ :=
        h.exists_append hsteady hrun
      obtain ⟨lost₁, hopen₁⟩ := h.of_write hrun₁
      obtain ⟨session'', device'', volume'', hrest, hvolumes, hvolume, hsame⟩ :=
        ih hmore hopen₁ hsteady₁ hrun₂
      refine ⟨session'', device'', volume'', run_performAll_of_run (h.run_write hrun₁) hrest,
        hvolumes, ?_, fun block hblock => (hsame block hblock).trans (hsame₂ block hblock)⟩
      rw [hvolume, hvolume₂]
      rfl

/-! ## Reads one after another -/

/-- A read at the position of the file fills the front of the buffer, moves the position, and writes
nothing. -/
theorem run_read (h : session.HasOpen device numSectors slot file volume lost)
    (hlists : volume.Lists file.item.headerSector i)
    (hheader : volume.header? (Disk.image device numSectors) i = some header) {buffer piece : Bytes}
    (hsum : file.item.position + buffer.length < sumLimit)
    (hpiece : piece = (header.contents (Disk.image device numSectors)).slice file.item.position
      buffer.length) :
    (session.perform (.read slot buffer)).run device =
      (.ok (.filled (.front buffer piece),
        session.moveFile slot file (file.item.position + piece.length)), device) := by
  subst hpiece
  have hintact := h.soundOn.sound.intact
  have hread := (hintact.placed hheader).inside.run_readAt h.soundOn.hasBlocks hsum
  rw [perform, onFile, h.fileIn?_eq]
  simp only [OpenFile.read, OpenFile.readAt, Transfer.run_bind,
    run_header h.soundOn.hasBlocks hintact hlists hheader, hread, Transfer.run_pure]
  rfl

/-- Reads one after another give consecutive pieces of the file, up to its end, and no piece is
empty before that. The position ends behind the file only if it began there. -/
theorem exists_run_reads {buffers : List Bytes}
    (h : session.HasOpen device numSectors slot file volume lost)
    (hlists : volume.Lists file.item.headerSector i)
    (hheader : volume.header? (Disk.image device numSectors) i = some header)
    (hsums : ∀ buffer ∈ buffers,
      max file.item.position header.length + buffer.length < sumLimit) :
    ∃ pieces session', (session.performAll (buffers.map (.read slot))).run device =
        (.ok (List.zipWith (fun buffer piece => .filled (.front buffer piece)) buffers pieces,
          session'), device) ∧
      pieces.length = buffers.length ∧
      pieces.flatten = (header.contents (Disk.image device numSectors)).slice file.item.position
        (buffers.map List.length).sum ∧
      ((∀ buffer ∈ buffers, buffer ≠ []) → [] ∈ pieces →
        header.length ≤ file.item.position + (buffers.map List.length).sum) ∧
      file.item.position + pieces.flatten.length ≤ max file.item.position header.length ∧
      session'.HasOpen device numSectors slot
        ⟨file.volume, file.item.seek (file.item.position + pieces.flatten.length)⟩ volume lost := by
  -- the handle moves on with every read, so the rest is read from wherever it then stands
  induction buffers generalizing session file with
  | nil =>
    exact ⟨[], session, rfl, rfl, (List.take_zero).symm, nofun, Nat.le_max_left _ _, h⟩
  | cons buffer buffers ih =>
    obtain ⟨piece, hpiece⟩ : ∃ piece, piece =
      (header.contents (Disk.image device numSectors)).slice file.item.position buffer.length :=
        ⟨_, rfl⟩
    have hlength : piece.length = min buffer.length (header.length - file.item.position) := by
      rw [hpiece, Bytes.slice, List.length_take, List.length_drop, FileHeader.length_contents]
    have hsum := hsums buffer List.mem_cons_self
    have hread := h.run_read hlists hheader (by omega) hpiece
    have hend : max (file.item.position + piece.length) header.length =
        max file.item.position header.length := by omega
    obtain ⟨pieces, session', hrun, hcount, hflatten, hempty, hle, hopen⟩ :=
      ih (h.moveFile (file.item.position + piece.length)) hlists fun other hother => by
        have hother := hsums other (List.mem_cons_of_mem _ hother)
        rwa [← hend] at hother
    refine ⟨piece :: pieces, session', run_performAll_of_run hread hrun, ?_, ?_, ?_, ?_, ?_⟩
    · rw [List.length_cons, hcount, List.length_cons]
    · rw [List.flatten_cons, hflatten, List.map_cons, List.sum_cons, ← Bytes.slice_append_slice,
        ← hpiece]
      rfl
    · intro hbuffers hmem
      rw [List.map_cons, List.sum_cons]
      have hpos := List.length_pos_iff.2 (hbuffers buffer List.mem_cons_self)
      rcases List.mem_cons.1 hmem with rfl | hmem
      · rw [List.length_nil] at hlength
        omega
      · have hothers := fun other hother => hbuffers other (List.mem_cons_of_mem _ hother)
        have hend := hempty hothers hmem
        simp only [OpenFile.seek] at hend
        omega
    · rw [List.flatten_cons, List.length_append, ← Nat.add_assoc, ← hend]
      exact hle
    · rw [List.flatten_cons, List.length_append, ← Nat.add_assoc]
      exact hopen

end HasOpen

variable [LawfulBlockDevice δ]

/-- A file that was opened in a reachable session is open. -/
theorem Reachable.hasOpen_of_openFile {volumeSlot : Slot} {name : String}
    (h : Reachable (fun _ => True) numSectors device session)
    (hrun : (session.perform (.openFile volumeSlot slot name)).run device =
      (.ok (.done, session'), device')) :
    ∃ file volume lost, session'.HasOpen device' numSectors slot file volume lost := by
  obtain ⟨volume, lost, hsound, -⟩ := h.exists_soundOn
  obtain ⟨file, i, rfl, rfl, hlists⟩ := hsound.sound.exists_lists_of_openFile hrun
  have hset : (session.setFile slot ⟨0, file⟩).Sound volume (Disk.image device' numSectors) lost :=
    ⟨hsound.sound.volumes_eq, hsound.sound.intact, hsound.sound.flushed⟩
  have hslot : (session.setFile slot ⟨0, file⟩).files[slot]? = some ⟨0, file⟩ := by
    rw [setFile, getElem?_insert_slot, if_pos rfl]
  exact ⟨⟨0, file⟩, volume, lost, hsound.of_sound hset rfl rfl rfl rfl,
    (hset.fileIn?_eq hslot).trans (if_pos rfl), ⟨i, hlists⟩⟩

/-- Where the clock always gives the same text, data that one write at a position would accept in
full is accepted in full in chunks from that position on, and each block of the device, the free map
and the directory end up the same. Reads in chunks of which the ends can be told give the bytes of
the file one behind the other; they get to the end if the buffers are large enough together, and if
a read of a buffer that is not empty gives nothing; then every further read gives nothing. -/
theorem Reachable.chunks_agree (h : Reachable (fun _ => True) numSectors device session)
    (hlisted : session.FileIsListed slot) (hfile : session.fileIn? slot = some (file, volume))
    (position : Nat) :
    (volume.clock.IsSteady → ∀ chunks, chunks ≠ [] → ∀ session' device',
      (session.perform (.writeAt slot position chunks.flatten)).run device =
        (.ok (.count chunks.flatten.length, session'), device') →
      ∃ session'' device'' volume' volume'',
        (session.performAll (.seek slot position :: chunks.map (.write slot))).run device =
          (.ok (.done :: chunks.map (.count ·.length), session''), device'') ∧
        session'.volumes = #[volume'] ∧ session''.volumes = #[volume''] ∧
        volume'' = volume'.withClock volume''.clock ∧
        ∀ block, BlockDevice.read device'' block = BlockDevice.read device' block) ∧
    ∃ header, file.item.header.run device = (.ok header, device) ∧
      ∀ buffers : List Bytes,
        (∀ buffer ∈ buffers, max position header.length + buffer.length < sumLimit) →
        ∃ pieces session',
          (session.performAll (.seek slot position :: buffers.map (.read slot))).run device =
          (.ok (.done :: List.zipWith (fun buffer piece => .filled (.front buffer piece)) buffers
            pieces, session'), device) ∧
        pieces.length = buffers.length ∧
        pieces.flatten = (header.contents (Disk.image device numSectors)).slice position
          (buffers.map List.length).sum ∧
        ((∀ buffer ∈ buffers, buffer ≠ []) → [] ∈ pieces →
          header.length ≤ position + (buffers.map List.length).sum) ∧
        (header.length ≤ position + (buffers.map List.length).sum →
          pieces.flatten = (header.contents (Disk.image device numSectors)).drop position ∧
          ∀ buffer : Bytes, max position header.length + buffer.length < sumLimit →
            ∃ session'', (session'.perform (.read slot buffer)).run device =
              (.ok (.filled ⟨0, buffer⟩, session''), device)) := by
  obtain ⟨volume₀, lost, hsound, -⟩ := h.exists_soundOn
  obtain ⟨-, -, rfl⟩ := hsound.sound.of_fileIn? hfile
  have hopen : session.HasOpen device numSectors slot file volume lost :=
    ⟨hsound, hfile, hlisted file volume hfile⟩
  have hmoved := hopen.moveFile position
  constructor
  · intro hsteady chunks hchunks session' device' hrun
    obtain ⟨volume', hwrite, hvolumes⟩ := hopen.run_of_writeAt hrun
    obtain ⟨session'', device'', volume'', hwrites, hvolumes', hvolume, hsame⟩ :=
      hmoved.exists_run_writes hchunks hsteady hwrite
    exact ⟨session'', device'', volume', volume'',
      run_performAll_of_run (hopen.run_seek position) hwrites, hvolumes, hvolumes', hvolume,
      fun block => hsame block nofun⟩
  · obtain ⟨i, hlists⟩ := hopen.holdsFile
    obtain ⟨header, hheader, -⟩ := hsound.sound.intact.exists_header i hlists.1
    refine ⟨header, run_header hsound.hasBlocks hsound.sound.intact hlists hheader,
      fun buffers hsums => ?_⟩
    obtain ⟨pieces, session', hreads, hcount, hflatten, hempty, hle, hopen'⟩ :=
      hmoved.exists_run_reads hlists hheader hsums
    refine ⟨pieces, session', run_performAll_of_run (hopen.run_seek position) hreads, hcount,
      hflatten, hempty, fun hend => ?_⟩
    have hrest : pieces.flatten =
        (header.contents (Disk.image device numSectors)).drop position := by
      rw [hflatten, Bytes.slice, List.take_of_length_le]
      · rfl
      · rw [List.length_drop, FileHeader.length_contents]
        simp only [OpenFile.seek]
        omega
    refine ⟨hrest, fun buffer hsum => ?_⟩
    -- the position is now at the end of the file, or behind it
    have hnone : (header.contents (Disk.image device numSectors)).slice
        (position + pieces.flatten.length) buffer.length = [] := by
      rw [hrest, Bytes.slice, List.drop_eq_nil_of_le, List.take_nil]
      rw [List.length_drop]
      omega
    exact ⟨_, hopen'.run_read hlists hheader
      (Nat.lt_of_le_of_lt (Nat.add_le_add_right hle _) hsum) hnone.symm⟩

/-- On a memory disk of 20 blocks, data is written from position 150 of a file of 200 bytes on, to
its new end at 300, with an empty chunk in front; and the file is read in pieces of 70 bytes. -/
theorem Reachable.chunks_agree_of_open : ∃ (session session' : Session)
    (device device' : RamDisk sectorSize) (file : Attached OpenFile) (volume : Volume),
    (start.performAll [.format 0 20, .create 0 "a" 200, .openFile 0 0 "a",
        .setClock 0 ⟨fun _ => "noon", 0⟩]).run (RamDisk.zeroed 20 sectorSize) =
      (.ok ([.done, .done, .done, .done], session), device) ∧
    session.FileIsListed 0 ∧ session.fileIn? 0 = some (file, volume) ∧ volume.clock.IsSteady ∧
    (session.perform (.writeAt 0 150 (List.replicate 150 7))).run device =
      (.ok (.count 150, session'), device') ∧
    (∃ session'' device'' volume' volume'',
      (session.performAll [.seek 0 150, .write 0 [], .write 0 (List.replicate 100 7),
          .write 0 (List.replicate 50 7)]).run device =
        (.ok ([.done, .count 0, .count 100, .count 50], session''), device'') ∧
      session'.volumes = #[volume'] ∧ session''.volumes = #[volume''] ∧
      volume'' = volume'.withClock volume''.clock ∧
      ∀ block, BlockDevice.read device'' block = BlockDevice.read device' block) ∧
    ∃ header, file.item.header.run device = (.ok header, device) ∧
      ∃ first second session'',
        (session.performAll [.seek 0 150, .read 0 (List.replicate 70 0),
            .read 0 (List.replicate 70 0)]).run device =
          (.ok ([.done, .filled (.front (List.replicate 70 0) first),
            .filled (.front (List.replicate 70 0) second)], session''), device) ∧
        first ++ second = (header.contents (Disk.image device 20)).slice 150 140 := by
  have hanswers : answers? ((start.performAll [.format 0 20, .create 0 "a" 200, .openFile 0 0 "a",
      .setClock 0 ⟨fun _ => "noon", 0⟩, .writeAt 0 150 (List.replicate 150 7)]).run
        (RamDisk.zeroed 20 sectorSize)) =
          some [.done, .done, .done, .done, .count 150] := by decide +kernel
  obtain ⟨session', device', hrun⟩ := exists_of_answers? hanswers
  obtain ⟨session₁, device₁, hformat, hrest⟩ := run_performAll_cons hrun
  obtain ⟨session₂, device₂, hcreate, hrest⟩ := run_performAll_cons hrest
  obtain ⟨session₃, device₃, hopen, hrest⟩ := run_performAll_cons hrest
  obtain ⟨session₄, device₄, hclock, hrest⟩ := run_performAll_cons hrest
  obtain ⟨session₅, device₅, hwrite, hrest⟩ := run_performAll_cons hrest
  obtain ⟨-, rfl, rfl⟩ := run_performAll_nil hrest
  have hcreates : session₁.Permits (fun _ => True) (.create 0 "a" 200) := trivial
  have hopens : session₂.Permits (fun _ => True) (.openFile 0 0 "a") := trivial
  have hclocks : session₃.Permits (fun _ => True) (.setClock 0 ⟨fun _ => "noon", 0⟩) := trivial
  have hreachable : Reachable (fun _ => True) 20 device₂ session₂ :=
    .perform (.format (RamDisk.hasBlocks _) hformat) hcreates hcreate
  have hopened := (hreachable.perform hopens hopen).perform hclocks hclock
  obtain ⟨file, volume, lost, hfile⟩ := hreachable.hasOpen_of_openFile hopen
  have hset := hfile.setClock hclock
  have hsteady : (volume.withClock ⟨fun _ => "noon", 0⟩).clock.IsSteady := fun _ _ => rfl
  obtain ⟨hwrites, header, hheader, hreads⟩ :=
    hopened.chunks_agree hset.fileIsListed hset.fileIn?_eq 150
  obtain ⟨pieces, session'', hpieces, hcount, hflatten, -, -⟩ :=
    hreads [List.replicate 70 0, List.replicate 70 0] fun buffer hbuffer => by
      -- no header can tell of a length that is near the limit
      have hlength : header.length < 2 ^ 32 := header.numBytes.toNat_lt
      obtain rfl : buffer = List.replicate 70 0 := by simpa using hbuffer
      rw [List.length_replicate, sumLimit_eq]
      omega
  obtain ⟨first, second, rfl⟩ := List.length_eq_two.1 hcount
  refine ⟨session₄, session', device₄, device', file, _, ?_, hset.fileIsListed, hset.fileIn?_eq,
    hsteady, hwrite, ?_, header, hheader, first, second, session'', hpieces, ?_⟩
  · exact run_performAll_of_run hformat (run_performAll_of_run hcreate
      (run_performAll_of_run hopen (run_performAll_of_run hclock rfl)))
  · exact hwrites hsteady [[], List.replicate 100 7, List.replicate 50 7] (List.cons_ne_nil _ _)
      session' device' hwrite
  · rw [List.flatten_cons, List.flatten_cons, List.flatten_nil, List.append_nil] at hflatten
    exact hflatten

end Session

end SectorStore
