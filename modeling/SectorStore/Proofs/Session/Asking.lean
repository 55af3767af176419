import SectorStore.Proofs.Transfer.Asking
import SectorStore.Session.Basic

/-!
# Sessions ask for sectors only

The numbers of the blocks that a session moves come from its volumes and from what it reads on the
disk: from directories, headers and index sectors. Each of them is a sector number wherever it is
kept, so whatever is on the disk, a session asks for sectors only
(`Session.asksSectors_performAll`). There is one lemma for each operation, layer by layer.
-/

namespace SectorStore

open Transfer

/-! ## Headers -/

namespace FileHeader

/-- A header is read from the one sector that is named. -/
theorem asksSectors_load (sector : SectorId) : (load sector).AsksSectors := by
  refine (Transfer.asksSectors_load sector).bind fun data => ?_
  split
  · exact asksSectors_pure _
  · exact .fault _

theorem asksSectors_loadHome (sector : SectorId) : (loadHome sector).AsksSectors :=
  (asksSectors_load sector).bind fun _ => asksSectors_pure _

/-- A header is written to the one sector that is named. -/
theorem asksSectors_store (header : FileHeader) (sector : SectorId) :
    (header.store sector).AsksSectors :=
  Transfer.asksSectors_store sector _

variable (header : FileHeader)

/-- The numbers that are read from an index sector are numbers of sectors. -/
theorem asksSectors_sectorAt (offset : Nat) : (header.sectorAt offset).AsksSectors := by
  rw [sectorAt]
  split
  · exact .fault _
  dsimp only
  split
  · exact asksSectors_liftM _
  · split
    · exact asksSectors_pure _
    · exact (Transfer.asksSectors_load _).bind fun _ => asksSectors_liftM _

/-- The list of data sectors asks for the index sector, if the header has one. -/
theorem asksSectors_sectors : header.sectors.AsksSectors := by
  rw [sectors]
  split
  · exact asksSectors_pure _
  · refine (asksSectors_liftM _).bind fun _ => (Transfer.asksSectors_load _).bind fun _ => ?_
    exact (asksSectors_liftM _).bind fun _ => asksSectors_pure _

/-- Each block of the file is looked up, and what is found is a sector. -/
theorem asksSectors_readBlocks (span : Span) (count block : Nat) :
    (header.readBlocks span count block).AsksSectors := by
  induction count generalizing block with
  | zero => exact asksSectors_pure _
  | succ count ih =>
    rw [readBlocks]
    refine (header.asksSectors_sectorAt _).bind fun id => ?_
    refine (Transfer.asksSectors_load id).bind fun _ => ?_
    exact (ih (block + 1)).bind fun _ => asksSectors_pure _

theorem asksSectors_readBytes (offset count : Nat) : (header.readBytes offset count).AsksSectors :=
  (asksSectors_liftM _).bind fun _ => header.asksSectors_readBlocks _ _ _

/-- A block that is written in part is read first, from the same sector. -/
theorem asksSectors_writeBlocks (span : Span) (count block : Nat) (data : Bytes) :
    (header.writeBlocks span count block data).AsksSectors := by
  induction count generalizing block data with
  | zero => exact asksSectors_pure _
  | succ count ih =>
    rw [writeBlocks]
    refine (header.asksSectors_sectorAt _).bind fun id => ?_
    -- what follows the store does not depend on the old contents
    have hstore (old : Sector) := (Transfer.asksSectors_store id (old.patch
      ((span.within block).start % sectorSize) (data.take (span.within block).count))).bind
      fun _ => ih (block + 1) (data.drop (span.within block).count)
    dsimp only
    split
    · exact (asksSectors_pure _).bind fun old => hstore old
    · exact (Transfer.asksSectors_load id).bind fun old => hstore old

/-- Bytes are laid over blocks that were looked up. -/
theorem asksSectors_writeAt (offset : Nat) (data : Bytes) :
    (header.writeAt offset data).AsksSectors :=
  (asksSectors_liftM _).bind fun _ =>
    (header.asksSectors_writeBlocks _ _ _ data).bind fun _ => asksSectors_pure _

/-- Taking sectors writes one of them at most, the index sector. -/
theorem asksSectors_allocate (map : FreeMap) (size : Nat) :
    (header.allocate map size).run.AsksSectors := by
  rw [allocate]
  split
  · exact asksSectors_run_throw _
  split
  · rcases map.takeMany? (sectorsFor size) with _ | ⟨sectors, map₁⟩
    · exact asksSectors_run_throw _
    · exact asksSectors_run_pure _
  rcases map.takeMany? numDirect with _ | ⟨sectors, map₁⟩
  · exact asksSectors_run_throw _
  dsimp only
  rcases map₁.take? with _ | ⟨index, map₂⟩
  · exact asksSectors_run_throw _
  dsimp only
  rcases map₂.takeMany? (sectorsFor size - numDirect) with _ | ⟨others, map₃⟩
  · exact asksSectors_run_throw _
  · exact (Transfer.asksSectors_store index _).run_lift.run_bind fun _ => asksSectors_run_pure _

/-- Giving back the sectors of a file reads its index sector, if there is one. -/
theorem asksSectors_release (map : FreeMap) : (header.release map).AsksSectors := by
  refine (asksSectors_liftM _).bind fun map => ?_
  dsimp only
  -- only the index sector is read; giving back is done in the free map
  split
  · exact (asksSectors_pure _).bind fun _ => asksSectors_pure _
  · refine (Transfer.asksSectors_load _).bind fun _ => (asksSectors_liftM _).bind fun _ => ?_
    refine (asksSectors_liftM _).bind fun _ => (asksSectors_liftM _).bind fun _ => ?_
    exact (asksSectors_liftM _).bind fun _ => asksSectors_pure _

/-- A listing reads the sectors that the header lists. -/
theorem asksSectors_contentLines (sectors : List SectorId) (remaining : Nat) :
    (contentLines sectors remaining).AsksSectors := by
  induction sectors generalizing remaining with
  | nil => exact asksSectors_pure _
  | cons id others ih =>
    exact (Transfer.asksSectors_load id).bind fun _ => (ih _).bind fun _ => asksSectors_pure _

theorem asksSectors_listing : header.listing.AsksSectors :=
  header.asksSectors_sectors.bind fun _ =>
    (asksSectors_contentLines _ _).bind fun _ => asksSectors_pure _

end FileHeader

/-! ## Volumes -/

namespace Volume

variable (volume : Volume)

theorem asksSectors_flush : volume.flush.AsksSectors :=
  (FileHeader.asksSectors_writeAt _ _ _).bind fun _ =>
    (FileHeader.asksSectors_writeAt _ _ _).bind fun _ => asksSectors_pure _

/-- Laying out a volume writes headers to two fixed sectors, and marks and names to the sectors that
were taken for them. -/
theorem asksSectors_format (numSectors : Nat) : (format numSectors).run.AsksSectors := by
  refine (asksSectors_liftM _).run_lift.run_bind fun map => ?_
  refine (asksSectors_liftM _).run_lift.run_bind fun map => ?_
  refine (FileHeader.asksSectors_allocate _ _ _).run_bind fun _ => ?_
  refine (FileHeader.asksSectors_allocate _ _ _).run_bind fun _ => ?_
  refine (FileHeader.asksSectors_store _ _).run_lift.run_bind fun _ => ?_
  refine (FileHeader.asksSectors_store _ _).run_lift.run_bind fun _ => ?_
  exact (asksSectors_flush _).run_lift.run_bind fun _ => asksSectors_run_pure _

/-- Taking up a volume reads what the headers in two fixed sectors list. -/
theorem asksSectors_mount (numSectors : Nat) : (mount numSectors).AsksSectors := by
  refine (FileHeader.asksSectors_loadHome _).bind fun freeMapFile => ?_
  refine (FileHeader.asksSectors_loadHome _).bind fun directoryFile => ?_
  refine (freeMapFile.asksSectors_readBytes _ _).bind fun _ => ?_
  exact (directoryFile.asksSectors_readBytes _ _).bind fun _ => asksSectors_pure _

/-- Zeros are written to the sectors that are listed. -/
theorem asksSectors_zeroSectors (sectors : List SectorId) : (zeroSectors sectors).AsksSectors := by
  induction sectors with
  | nil => exact asksSectors_pure _
  | cons sector others ih => exact (Transfer.asksSectors_store sector _).bind fun _ => ih

/-- A new file asks for sectors that the free map has handed out. -/
theorem asksSectors_create (name : String) (size : Nat) :
    (volume.create name size).run.AsksSectors := by
  rw [create]
  -- each check that fails is a refusal, after which nothing is asked for
  rcases volume.directory.find? name with _ | sector
  · rcases volume.freeMap.take? with _ | ⟨sector, map⟩
    · exact asksSectors_run_throw _
    refine (asksSectors_run_liftM (DirEntry.make name sector)).run_bind fun entry => ?_
    rcases volume.directory.insert? entry with _ | directory
    · exact asksSectors_run_throw _
    refine (FileHeader.asksSectors_allocate _ _ _).run_bind fun ⟨header, map⟩ => ?_
    refine header.asksSectors_sectors.run_lift.run_bind fun _ => ?_
    refine (asksSectors_zeroSectors _).run_lift.run_bind fun _ => ?_
    refine (FileHeader.asksSectors_store _ _).run_lift.run_bind fun _ => ?_
    exact (asksSectors_flush _).run_lift.run_bind fun _ => asksSectors_run_pure _
  · exact asksSectors_run_throw _

/-- A file is removed by what its header lists, and the header is in the sector of its entry. -/
theorem asksSectors_remove (name : String) : (volume.remove name).run.AsksSectors := by
  rw [remove]
  rcases volume.directory.erase? name with _ | ⟨sector, directory⟩
  · exact asksSectors_run_throw _
  refine (FileHeader.asksSectors_load _).run_lift.run_bind fun header => ?_
  refine (header.asksSectors_release _).run_lift.run_bind fun _ => ?_
  refine (asksSectors_liftM _).run_lift.run_bind fun _ => ?_
  exact (asksSectors_flush _).run_lift.run_bind fun _ => asksSectors_run_pure _

/-- The listings of files ask for the sectors of their entries and what these list. -/
theorem asksSectors_fileListings (names : List String) :
    (volume.fileListings names).AsksSectors := by
  induction names with
  | nil => exact asksSectors_pure _
  | cons name others ih =>
    rw [fileListings]
    split
    · exact (asksSectors_pure _).bind fun _ => ih.bind fun _ => asksSectors_pure _
    · refine (FileHeader.asksSectors_load _).bind fun header => ?_
      refine header.asksSectors_listing.bind fun _ => (asksSectors_pure _).bind fun _ => ?_
      exact ih.bind fun _ => asksSectors_pure _

theorem asksSectors_listing : volume.listing.AsksSectors := by
  refine volume.freeMapFile.asksSectors_listing.bind fun _ => ?_
  refine volume.directoryFile.asksSectors_listing.bind fun _ => ?_
  exact (volume.asksSectors_fileListings _).bind fun _ => asksSectors_pure _

end Volume

/-! ## Open files -/

namespace OpenFile

variable (file : OpenFile) (volume : Volume)

theorem asksSectors_header : file.header.AsksSectors :=
  FileHeader.asksSectors_loadHome file.headerSector

theorem asksSectors_length : file.length.AsksSectors :=
  file.asksSectors_header.bind fun _ => asksSectors_pure _

theorem asksSectors_readBytes (offset count : Nat) : (file.readBytes offset count).AsksSectors :=
  file.asksSectors_header.bind fun header => header.asksSectors_readBytes offset count

theorem asksSectors_readAt (offset : Nat) (buffer : Bytes) :
    (file.readAt offset buffer).AsksSectors :=
  file.asksSectors_header.bind fun header =>
    (header.asksSectors_readBytes _ _).bind fun _ => asksSectors_pure _

/-- A file that becomes longer has new sectors of the free map, and zeros are laid over its own. -/
theorem asksSectors_extend (header : FileHeader) (offset stop : Nat) :
    (extend header volume offset stop).AsksSectors := by
  rw [extend]
  dsimp only
  split
  · exact asksSectors_pure _
  refine (asksSectors_liftM _).bind fun grown => ?_
  rcases grown with cause | ⟨header, freeMap⟩
  · exact asksSectors_pure _
  · refine (Volume.asksSectors_flush _).bind fun _ => ?_
    exact (header.asksSectors_writeAt _ _).bind fun _ => asksSectors_pure _

/-- A write asks for the sectors of its file, and for those of the free map and the directory if the
file becomes longer. -/
theorem asksSectors_writeAt (offset : Nat) (data : Bytes) :
    (file.writeAt volume offset data).AsksSectors := by
  refine file.asksSectors_header.bind fun old => (asksSectors_liftM _).bind fun stop => ?_
  refine (asksSectors_extend volume old _ _).bind fun ⟨header, _⟩ => ?_
  refine (header.asksSectors_writeAt _ _).bind fun _ => ?_
  split
  · exact (FileHeader.asksSectors_store _ _).bind fun _ => asksSectors_pure _
  · exact asksSectors_pure _

theorem asksSectors_read (buffer : Bytes) : (file.read buffer).AsksSectors :=
  (file.asksSectors_readAt _ _).bind fun _ => asksSectors_pure _

theorem asksSectors_write (data : Bytes) : (file.write volume data).AsksSectors :=
  (file.asksSectors_writeAt volume _ _).bind fun _ => asksSectors_pure _

end OpenFile

/-! ## Pipes -/

namespace Pipe

variable (pipe : Pipe) (volume : Volume)

/-- The file of a pipe is made and opened as any other. -/
theorem asksSectors_make (number size : Nat) : (make volume number size).AsksSectors := by
  rw [make]
  split
  · exact asksSectors_pure _
  · refine (asksSectors_liftM _).bind fun ringSize => ?_
    refine AsksSectors.bind ?_ fun _ => asksSectors_pure _
    refine (volume.asksSectors_create _ _).run_bind fun volume' => ?_
    exact (asksSectors_run_liftM _).run_bind fun _ => asksSectors_run_pure _

/-- The file of a pipe is removed as any other. -/
theorem asksSectors_drop : (pipe.drop volume).AsksSectors := by
  refine AsksSectors.bind (volume.asksSectors_remove pipe.name) fun answer => ?_
  split
  · exact asksSectors_pure _
  · exact asksSectors_pure _

theorem asksSectors_read (buffer : Bytes) : (pipe.read buffer).AsksSectors := by
  rw [read]
  dsimp only
  split
  · exact asksSectors_pure _
  refine (pipe.file.asksSectors_readBytes _ _).bind fun _ => ?_
  split
  · exact (pipe.file.asksSectors_readBytes _ _).bind fun _ => asksSectors_pure _
  · exact (asksSectors_pure _).bind fun _ => asksSectors_pure _

theorem asksSectors_write (data : Bytes) : (pipe.write volume data).AsksSectors := by
  rw [write]
  dsimp only
  split
  · exact asksSectors_pure _
  refine (pipe.file.asksSectors_writeAt volume _ _).bind fun _ => ?_
  split
  · exact (pipe.file.asksSectors_writeAt _ _ _).bind fun _ => asksSectors_pure _
  · exact (asksSectors_pure _).bind fun _ => asksSectors_pure _

/-- What another party does with the pipe is a read, a write or a look at it. -/
theorem asksSectors_step (step : PeerStep) : (pipe.step volume step).AsksSectors := by
  cases step with
  | read buffer => exact (pipe.asksSectors_read buffer).bind fun _ => asksSectors_pure _
  | write data => exact (pipe.asksSectors_write volume data).bind fun _ => asksSectors_pure _
  | inspect => exact asksSectors_pure _

theorem asksSectors_letPeer {α : Type} (step : PeerStep)
    {next : Pipe → Volume → Transfer (Waited α)}
    (h : ∀ pipe volume, (next pipe volume).AsksSectors) :
    (pipe.letPeer volume step next).AsksSectors :=
  (pipe.asksSectors_step volume step).bind fun _ => (h _ _).bind fun _ => asksSectors_pure _

/-- The steps of the peer move sectors as well. -/
theorem asksSectors_readWhenReady (buffer : Bytes) (peer : List PeerStep) :
    (readWhenReady buffer peer pipe volume).AsksSectors := by
  induction peer generalizing pipe volume with
  | nil =>
    rw [readWhenReady]
    refine (pipe.asksSectors_read buffer).bind fun ⟨filling, pipe'⟩ => ?_
    dsimp only
    split <;> exact asksSectors_pure _
  | cons step peer ih =>
    rw [readWhenReady]
    refine (pipe.asksSectors_read buffer).bind fun ⟨filling, pipe'⟩ => ?_
    dsimp only
    split
    · exact asksSectors_pure _
    · exact pipe'.asksSectors_letPeer volume step ih

/-- However often the reader waits, it asks for the sectors of the ring. -/
theorem asksSectors_readWaiting (buffer : Bytes) (peer : List PeerStep) :
    (pipe.readWaiting volume buffer peer).AsksSectors := by
  rw [readWaiting]
  split
  · exact asksSectors_pure _
  · exact pipe.asksSectors_readWhenReady volume buffer peer

/-- However many rounds it takes, a writer asks for the sectors of the ring. -/
theorem asksSectors_writeFully (rounds : Nat) (data : Bytes) :
    (writeFully rounds data pipe volume).AsksSectors := by
  induction rounds generalizing data pipe volume with
  | zero => exact asksSectors_pure _
  | succ rounds ih =>
    rw [writeFully]
    split
    · exact asksSectors_pure _
    refine (pipe.asksSectors_write volume data).bind fun ⟨count, pipe', volume'⟩ => ?_
    dsimp only
    split
    · exact asksSectors_pure _
    · exact ih pipe' volume' _

/-- However often the writer waits, it asks for the sectors of the ring. -/
theorem asksSectors_writeWhenReady (total : Nat) (peer : List PeerStep) (data : Bytes) :
    (writeWhenReady total peer data pipe volume).AsksSectors := by
  induction peer generalizing data pipe volume with
  | nil =>
    rw [writeWhenReady]
    refine (pipe.asksSectors_writeFully volume _ data).bind fun ⟨rest, pipe', volume'⟩ => ?_
    dsimp only
    split <;> exact asksSectors_pure _
  | cons step peer ih =>
    rw [writeWhenReady]
    refine (pipe.asksSectors_writeFully volume _ data).bind fun ⟨rest, pipe', volume'⟩ => ?_
    dsimp only
    split
    · exact asksSectors_pure _
    · exact pipe'.asksSectors_letPeer volume' step fun pipe volume => ih pipe volume rest

theorem asksSectors_writeWaiting (data : Bytes) (peer : List PeerStep) :
    (pipe.writeWaiting volume data peer).AsksSectors :=
  pipe.asksSectors_writeWhenReady volume _ peer data

end Pipe

/-! ## Sessions -/

namespace Session

variable (session : Session) (slot : Slot)

/-- The pipe that was in a slot is dropped with its file. -/
theorem asksSectors_discard (pipe : Attached Pipe) : (session.discard pipe).AsksSectors := by
  rw [discard]
  split
  · exact asksSectors_pure _
  · next volume _ =>
    exact (pipe.item.asksSectors_drop volume).bind fun _ => asksSectors_pure _

/-- What a session does with a volume asks for what the volume asks for. -/
theorem asksSectors_onVolume {act : Nat → Volume → Transfer (Answer × Session)}
    (h : ∀ number volume, (act number volume).AsksSectors) :
    (session.onVolume slot act).AsksSectors := by
  rw [onVolume]
  split
  · exact h _ _
  · exact asksSectors_pure _

/-- What a session does with an open file asks for what the file asks for. -/
theorem asksSectors_onFile {act : Attached OpenFile → Volume → Transfer (Answer × Session)}
    (h : ∀ file volume, (act file volume).AsksSectors) :
    (session.onFile slot act).AsksSectors := by
  rw [onFile]
  split
  · exact h _ _
  · exact asksSectors_pure _

/-- What a session does with a pipe asks for what the pipe asks for. -/
theorem asksSectors_onPipe {act : Attached Pipe → Volume → Transfer (Answer × Session)}
    (h : ∀ pipe volume, (act pipe volume).AsksSectors) :
    (session.onPipe slot act).AsksSectors := by
  rw [onPipe]
  split
  · exact h _ _
  · exact asksSectors_pure _

/-- A change of a volume asks for what the volume asks for, also where it is refused. -/
theorem asksSectors_changeVolume {change : Volume → ExceptT Refusal Transfer Volume}
    (h : ∀ volume, (change volume).run.AsksSectors) :
    (session.changeVolume slot change).AsksSectors := by
  refine session.asksSectors_onVolume slot fun number volume => ?_
  refine AsksSectors.bind (h volume) fun answer => ?_
  split
  · exact asksSectors_pure _
  · exact asksSectors_pure _

/-- A new pipe may ask for its own file and for that of the pipe in whose place it comes. -/
theorem asksSectors_makePipe (pipeSlot : Slot) (size : Nat) :
    (session.makePipe slot pipeSlot size).AsksSectors := by
  refine session.asksSectors_onVolume slot fun number volume => ?_
  refine (Pipe.asksSectors_make volume _ size).bind ?_
  rintro ⟨cause | ⟨pipe, volume'⟩, nextPipe⟩
  · exact asksSectors_pure _
  dsimp only
  -- a pipe that was in the slot before is dropped
  split
  · exact asksSectors_pure _
  · exact (asksSectors_discard _ _).bind fun _ => asksSectors_pure _

/-- A request moves only blocks that are sectors, whatever it finds on the disk. -/
theorem asksSectors_perform (request : Request) : (session.perform request).AsksSectors := by
  cases request with
  | format slot numSectors =>
    refine AsksSectors.bind (Volume.asksSectors_format numSectors) fun answer => ?_
    split
    · exact asksSectors_pure _
    · exact asksSectors_pure _
  | mount slot numSectors =>
    exact (Volume.asksSectors_mount numSectors).bind fun _ => asksSectors_pure _
  | unmount slot => exact asksSectors_pure _
  | setClock slot clock =>
    exact session.asksSectors_changeVolume slot fun _ => asksSectors_run_pure _
  | create slot name size =>
    exact session.asksSectors_changeVolume slot fun volume => volume.asksSectors_create name size
  | remove slot name =>
    exact session.asksSectors_changeVolume slot fun volume => volume.asksSectors_remove name
  | names slot => exact session.asksSectors_onVolume slot fun _ _ => asksSectors_pure _
  | listing slot =>
    exact session.asksSectors_onVolume slot fun _ volume =>
      volume.asksSectors_listing.bind fun _ => asksSectors_pure _
  | openFile slot fileSlot name =>
    refine session.asksSectors_onVolume slot fun number volume => ?_
    split
    · exact asksSectors_pure _
    · exact asksSectors_pure _
  | readAt slot offset buffer =>
    exact session.asksSectors_onFile slot fun file _ =>
      (file.item.asksSectors_readAt offset buffer).bind fun _ => asksSectors_pure _
  | read slot buffer =>
    exact session.asksSectors_onFile slot fun file _ =>
      (file.item.asksSectors_read buffer).bind fun _ => asksSectors_pure _
  | writeAt slot offset data =>
    exact session.asksSectors_onFile slot fun file volume =>
      (file.item.asksSectors_writeAt volume offset data).bind fun _ => asksSectors_pure _
  | write slot data =>
    exact session.asksSectors_onFile slot fun file volume =>
      (file.item.asksSectors_write volume data).bind fun _ => asksSectors_pure _
  | seek slot position => exact session.asksSectors_onFile slot fun _ _ => asksSectors_pure _
  | close slot => exact session.asksSectors_onFile slot fun _ _ => asksSectors_pure _
  | length slot =>
    exact session.asksSectors_onFile slot fun file _ =>
      file.item.asksSectors_length.bind fun _ => asksSectors_pure _
  | headerSector slot => exact session.asksSectors_onFile slot fun _ _ => asksSectors_pure _
  | header slot =>
    exact session.asksSectors_onFile slot fun file _ =>
      file.item.asksSectors_header.bind fun _ => asksSectors_pure _
  | makePipe slot pipeSlot size => exact session.asksSectors_makePipe slot pipeSlot size
  | stepPipe slot step =>
    exact session.asksSectors_onPipe slot fun pipe volume =>
      (pipe.item.asksSectors_step volume step).bind fun _ => asksSectors_pure _
  | readWaiting slot buffer peer =>
    exact session.asksSectors_onPipe slot fun pipe volume =>
      (pipe.item.asksSectors_readWaiting volume buffer peer).bind fun _ => asksSectors_pure _
  | writeWaiting slot data peer =>
    exact session.asksSectors_onPipe slot fun pipe volume =>
      (pipe.item.asksSectors_writeWaiting volume data peer).bind fun _ => asksSectors_pure _
  | dropPipe slot =>
    exact session.asksSectors_onPipe slot fun pipe _ =>
      (asksSectors_discard _ pipe).bind fun _ => asksSectors_pure _

/-- Whatever is requested, and whatever is on the disk, a session asks for sectors only. -/
theorem asksSectors_performAll (requests : List Request) :
    (session.performAll requests).AsksSectors := by
  induction requests generalizing session with
  | nil => exact asksSectors_pure _
  | cons request others ih =>
    exact (session.asksSectors_perform request).bind fun _ =>
      (ih _).bind fun _ => asksSectors_pure _

end Session

end SectorStore
