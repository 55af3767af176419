import SectorStore.Proofs.Session.Steps
import SectorStore.Proofs.Transfer.Related

/-!
# The volume taken up last

A session that takes up a disk again keeps the volumes that it had. As long as its requests are
about the last of them (`UsesLast`), the others have no part in what it does: it goes on as a
session that has this volume only (`Narrows.related_perform`).
-/

namespace SectorStore

/-- The slot of the volume that a request is about. -/
def Request.volumeSlot? : Request → Option Slot
  | .setClock slot _ | .create slot .. | .remove slot _ | .names slot | .listing slot
  | .openFile slot .. | .makePipe slot .. => some slot
  | _ => none

/-- The slot of the file that a request is about. -/
def Request.fileSlot? : Request → Option Slot
  | .readAt slot .. | .read slot _ | .writeAt slot .. | .write slot _ | .seek slot _ | .close slot
  | .length slot | .headerSector slot | .header slot => some slot
  | _ => none

namespace Session

/-- The volume, the file and the pipe that a request is about belong to the volume that was taken up
last, as far as there is anything in their slots. -/
structure UsesLast (session : Session) (request : Request) : Prop where
  /-- The request is about the last volume. -/
  volume_eq : ∀ slot number, request.volumeSlot? = some slot →
    session.mounted[slot]? = some number → number + 1 = session.volumes.size
  /-- The request is about a file of the last volume. -/
  file_eq : ∀ slot file, request.fileSlot? = some slot → session.files[slot]? = some file →
    file.volume + 1 = session.volumes.size
  /-- The request is about a pipe of the last volume. -/
  pipe_eq : ∀ slot pipe, request.pipeSlot? = some slot → session.pipes[slot]? = some pipe →
    pipe.volume + 1 = session.volumes.size

/-! ## Slots without the things of other volumes -/

/-- `slots'` holds what belongs to the volume of a number, as if it were the only volume. There are
no volumes of higher numbers. -/
structure Restricts {α : Type} (number : Nat) (slots slots' : Std.TreeMap Slot (Attached α)) :
    Prop where
  /-- What belongs to the volume is in the same slots. -/
  getElem?_eq : ∀ slot : Slot, slots'[slot]? = slots[slot]?.bind fun handle =>
    if handle.volume = number then some ⟨0, handle.item⟩ else none
  /-- Nothing belongs to a volume of a higher number. -/
  volume_le : ∀ (slot : Slot) (handle : Attached α), slots[slot]? = some handle →
    handle.volume ≤ number

namespace Restricts

variable {α : Type} {number : Nat} {slots slots' : Std.TreeMap Slot (Attached α)} {slot : Slot}

/-- What a slot holds of the last volume, the view holds as well. -/
theorem of_some (h : Restricts number slots slots') {item : α}
    (hslot : slots[slot]? = some ⟨number, item⟩) : slots'[slot]? = some ⟨0, item⟩ := by
  rw [h.getElem?_eq, hslot, Option.bind_some, if_pos rfl]

/-- An empty slot is empty in the view. -/
theorem of_none (h : Restricts number slots slots') (hslot : slots[slot]? = none) :
    slots'[slot]? = none := by
  rw [h.getElem?_eq, hslot, Option.bind_none]

/-- What belongs to the volume is there also among the things of all volumes. -/
theorem exists_of_some (h : Restricts number slots slots') {handle : Attached α}
    (hslot : slots'[slot]? = some handle) :
    handle.volume = 0 ∧ slots[slot]? = some ⟨number, handle.item⟩ := by
  rw [h.getElem?_eq, Option.bind_eq_some_iff] at hslot
  obtain ⟨⟨volume, item⟩, hslots, hhandle⟩ := hslot
  split_ifs at hhandle with hnumber
  obtain rfl := Option.some.inj hhandle
  obtain rfl : volume = number := hnumber
  exact ⟨rfl, hslots⟩

/-- What is put into a slot of the session is put into that of the view. -/
theorem insert (h : Restricts number slots slots') (slot : Slot) (item : α) :
    Restricts number (slots.insert slot ⟨number, item⟩) (slots'.insert slot ⟨0, item⟩) where
  getElem?_eq other := by
    rw [getElem?_insert_slot, getElem?_insert_slot]
    split
    · rw [Option.bind_some, if_pos rfl]
    · exact h.getElem?_eq other
  volume_le other handle hhandle := by
    rw [getElem?_insert_slot] at hhandle
    split at hhandle
    · obtain rfl := Option.some.inj hhandle
      exact Nat.le_refl number
    · exact h.volume_le other handle hhandle

/-- A slot that is emptied in the session is emptied in the view. -/
theorem erase (h : Restricts number slots slots') (slot : Slot) :
    Restricts number (slots.erase slot) (slots'.erase slot) where
  getElem?_eq other := by
    rw [getElem?_erase_slot, getElem?_erase_slot]
    split
    · rfl
    · exact h.getElem?_eq other
  volume_le other handle hhandle := by
    rw [getElem?_erase_slot] at hhandle
    split at hhandle
    · cases hhandle
    · exact h.volume_le other handle hhandle

/-- To a volume that was taken up just now nothing belongs. -/
theorem empty (h : Restricts number slots slots') : Restricts (number + 1) slots ∅ where
  getElem?_eq other := by
    rw [Std.TreeMap.getElem?_emptyc]
    rcases hslot : slots[other]? with _ | handle
    · rfl
    · have hle := h.volume_le other handle hslot
      rw [Option.bind_some, if_neg (by omega)]
  volume_le other handle hhandle := Nat.le_succ_of_le (h.volume_le other handle hhandle)

end Restricts

/-! ## Sessions without other volumes -/

/-- The session `view` has no volume but the last one of `session`, and what belongs to it. -/
structure Narrows (older : Array Volume) (session view : Session) (volume : Volume) : Prop where
  /-- The volume is the last of the session. -/
  volumes_eq : session.volumes = older.push volume
  /-- The volume is the only one of the view. -/
  view_volumes_eq : view.volumes = #[volume]
  /-- The volume is in the same slots. -/
  mounted_eq : ∀ slot : Slot, view.mounted[slot]? = if session.mounted[slot]? = some older.size then
    some 0 else none
  /-- No volume has a higher number. -/
  mounted_le : ∀ (slot : Slot) (number : Nat), session.mounted[slot]? = some number →
    number ≤ older.size
  /-- The files of the volume are in the same slots. -/
  files : Restricts older.size session.files view.files
  /-- The pipes of the volume are in the same slots. -/
  pipes : Restricts older.size session.pipes view.pipes
  /-- Pipes are numbered alike. -/
  nextPipe_eq : view.nextPipe = session.nextPipe

/-- The session with nothing but a volume in a slot. -/
def only (slot : Slot) (volume : Volume) (nextPipe : Nat) : Session :=
  { start.addVolume slot volume with nextPipe }

variable {older : Array Volume} {session view : Session} {volume : Volume} {slot : Slot}
  {request : Request}

namespace Narrows

/-- A changed volume takes the place of the last one in both. -/
theorem setVolume (h : session.Narrows older view volume) (volume' : Volume) :
    (session.setVolume older.size volume').Narrows older (view.setVolume 0 volume') volume' where
  volumes_eq := by
    rw [Session.setVolume, h.volumes_eq, ← Array.toList_inj]
    simp
  view_volumes_eq := by
    rw [Session.setVolume, h.view_volumes_eq]
    rfl
  mounted_eq := h.mounted_eq
  mounted_le := h.mounted_le
  files := h.files
  pipes := h.pipes
  nextPipe_eq := h.nextPipe_eq

theorem setFile (h : session.Narrows older view volume) (slot : Slot) (file : OpenFile) :
    (session.setFile slot ⟨older.size, file⟩).Narrows older (view.setFile slot ⟨0, file⟩) volume :=
  ⟨h.volumes_eq, h.view_volumes_eq, h.mounted_eq, h.mounted_le, h.files.insert slot file, h.pipes,
    h.nextPipe_eq⟩

/-- A pipe of the last volume is put into the slot of both. -/
theorem setPipe (h : session.Narrows older view volume) (slot : Slot) (pipe : Pipe) :
    (session.setPipe slot ⟨older.size, pipe⟩).Narrows older (view.setPipe slot ⟨0, pipe⟩) volume :=
  ⟨h.volumes_eq, h.view_volumes_eq, h.mounted_eq, h.mounted_le, h.files, h.pipes.insert slot pipe,
    h.nextPipe_eq⟩

/-- A file is closed in both. -/
theorem closeFile (h : session.Narrows older view volume) (slot : Slot) :
    { session with files := session.files.erase slot }.Narrows older
      { view with files := view.files.erase slot } volume :=
  ⟨h.volumes_eq, h.view_volumes_eq, h.mounted_eq, h.mounted_le, h.files.erase slot, h.pipes,
    h.nextPipe_eq⟩

theorem erasePipe (h : session.Narrows older view volume) (slot : Slot) :
    { session with pipes := session.pipes.erase slot }.Narrows older
      { view with pipes := view.pipes.erase slot } volume :=
  ⟨h.volumes_eq, h.view_volumes_eq, h.mounted_eq, h.mounted_le, h.files, h.pipes.erase slot,
    h.nextPipe_eq⟩

/-- A volume is let go of in both. -/
theorem unmount (h : session.Narrows older view volume) (slot : Slot) :
    { session with mounted := session.mounted.erase slot }.Narrows older
      { view with mounted := view.mounted.erase slot } volume where
  volumes_eq := h.volumes_eq
  view_volumes_eq := h.view_volumes_eq
  mounted_eq other := by
    rw [getElem?_erase_slot, getElem?_erase_slot]
    split
    · rfl
    · exact h.mounted_eq other
  mounted_le other number hnumber := by
    rw [getElem?_erase_slot] at hnumber
    split at hnumber
    · cases hnumber
    · exact h.mounted_le other number hnumber
  files := h.files
  pipes := h.pipes
  nextPipe_eq := h.nextPipe_eq

/-- A session with one volume is its own view. -/
theorem start (slot : Slot) (volume : Volume) :
    (start.addVolume slot volume).Narrows #[] (start.addVolume slot volume) volume where
  volumes_eq := rfl
  view_volumes_eq := rfl
  mounted_eq other := by
    show ((∅ : Std.TreeMap Slot Nat).insert slot 0)[other]? =
      if ((∅ : Std.TreeMap Slot Nat).insert slot 0)[other]? = some 0 then some 0 else none
    rw [getElem?_insert_slot, Std.TreeMap.getElem?_emptyc]
    split <;> simp
  mounted_le other number hnumber := by
    have hmounted : (Session.start.addVolume slot volume).mounted[other]? =
        if slot = other then some 0 else (∅ : Std.TreeMap Slot Nat)[other]? :=
      getElem?_insert_slot _ slot other 0
    rw [hmounted, Std.TreeMap.getElem?_emptyc] at hnumber
    split at hnumber
    · exact Nat.le_of_eq (Option.some.inj hnumber).symm
    · cases hnumber
  files := ⟨fun _ => Std.TreeMap.getElem?_emptyc,
    fun _ _ hhandle => absurd hhandle getElem?_empty_slot⟩
  pipes := ⟨fun _ => Std.TreeMap.getElem?_emptyc,
    fun _ _ hhandle => absurd hhandle getElem?_empty_slot⟩
  nextPipe_eq := rfl

/-- Taking up another volume leaves the older ones behind, with all that belongs to them. -/
theorem addVolume (h : session.Narrows older view volume) (slot : Slot) (volume' : Volume) :
    (session.addVolume slot volume').Narrows session.volumes
      (only slot volume' session.nextPipe) volume' where
  volumes_eq := rfl
  view_volumes_eq := rfl
  mounted_eq other := by
    show ((∅ : Std.TreeMap Slot Nat).insert slot 0)[other]? =
      if (session.mounted.insert slot session.volumes.size)[other]? = some session.volumes.size
        then some 0 else none
    rw [getElem?_insert_slot, getElem?_insert_slot, Std.TreeMap.getElem?_emptyc]
    split
    · rw [if_pos rfl]
    · rw [if_neg]
      -- a slot that holds the new number would have held it before there was such a volume
      intro hmounted
      have hle := h.mounted_le other _ hmounted
      rw [h.volumes_eq, Array.size_push] at hle
      omega
  mounted_le other number hnumber := by
    have hmounted : (session.addVolume slot volume').mounted[other]? =
        if slot = other then some session.volumes.size else session.mounted[other]? :=
      getElem?_insert_slot _ slot other _
    rw [hmounted] at hnumber
    split at hnumber
    · exact Nat.le_of_eq (Option.some.inj hnumber).symm
    · have hle := h.mounted_le other number hnumber
      rw [h.volumes_eq, Array.size_push]
      omega
  -- what belongs to an older volume is not in the view: it starts with no files
  files := by
    rw [h.volumes_eq, Array.size_push]
    exact h.files.empty
  pipes := by
    rw [h.volumes_eq, Array.size_push]
    exact h.pipes.empty
  nextPipe_eq := rfl

/-- The number of the next pipe is that of both. -/
theorem setNextPipe (h : session.Narrows older view volume) (nextPipe : Nat) :
    { session with nextPipe }.Narrows older { view with nextPipe } volume :=
  ⟨h.volumes_eq, h.view_volumes_eq, h.mounted_eq, h.mounted_le, h.files, h.pipes, rfl⟩

theorem getElem?_volumes (h : session.Narrows older view volume) :
    session.volumes[older.size]? = some volume := by
  rw [h.volumes_eq, Array.getElem?_push_size]

theorem getElem?_view_volumes (h : session.Narrows older view volume) :
    view.volumes[0]? = some volume := by
  rw [h.view_volumes_eq]
  rfl

/-- The last volume has the number that comes after the older ones. -/
theorem eq_size (h : session.Narrows older view volume) {number : Nat}
    (hlast : number + 1 = session.volumes.size) : number = older.size := by
  rw [h.volumes_eq, Array.size_push] at hlast
  omega

end Narrows

/-! ## Requests -/

/-- The same answer, and sessions of which one is a view of the other. -/
def Alongside (older : Array Volume) (answer answer' : Answer × Session) : Prop :=
  answer.1 = answer'.1 ∧ ∃ volume, answer.2.Narrows older answer'.2 volume

namespace Narrows

/-- The same answer is given without any transfer. -/
theorem related_pure {session' view' : Session} {volume' : Volume}
    (h : session'.Narrows older view' volume') (answer : Answer) :
    (pure (answer, session') : Transfer _).Related (Alongside older) (pure (answer, view')) :=
  .done ⟨rfl, volume', h⟩

/-- An open file of the last volume is found in both, with this volume. -/
theorem fileIn?_eq (h : session.Narrows older view volume) {file : OpenFile}
    (hfile : session.files[slot]? = some ⟨older.size, file⟩) :
    session.fileIn? slot = some (⟨older.size, file⟩, volume) ∧
      view.fileIn? slot = some (⟨0, file⟩, volume) := by
  simp only [fileIn?, hfile, h.files.of_some hfile, Option.bind_eq_bind, Option.bind_some,
    h.getElem?_volumes, h.getElem?_view_volumes]
  exact ⟨rfl, rfl⟩

/-- A pipe of the last volume is found in both, with this volume. -/
theorem pipeIn?_eq (h : session.Narrows older view volume) {pipe : Pipe}
    (hpipe : session.pipes[slot]? = some ⟨older.size, pipe⟩) :
    session.pipeIn? slot = some (⟨older.size, pipe⟩, volume) ∧
      view.pipeIn? slot = some (⟨0, pipe⟩, volume) := by
  simp only [pipeIn?, hpipe, h.pipes.of_some hpipe, Option.bind_eq_bind, Option.bind_some,
    h.getElem?_volumes, h.getElem?_view_volumes]
  exact ⟨rfl, rfl⟩

/-- A file that is open in the view is open in the session. -/
theorem fileIn?_of_view (h : session.Narrows older view volume) {file : Attached OpenFile}
    {volume' : Volume} (hin : view.fileIn? slot = some (file, volume')) :
    session.fileIn? slot = some (⟨older.size, file.item⟩, volume') := by
  rcases hfile : view.files[slot]? with _ | file'
  · simp [fileIn?, hfile] at hin
  obtain ⟨hzero, hsession⟩ := h.files.exists_of_some hfile
  simp only [fileIn?, hfile, hzero, h.getElem?_view_volumes, Option.bind_eq_bind,
    Option.bind_some, Option.pure_def, Option.some.injEq, Prod.mk.injEq] at hin
  obtain ⟨rfl, rfl⟩ := hin
  exact (h.fileIn?_eq hsession).1

/-- An open file that is in the directory is so for the view. -/
theorem fileIsListed (h : session.Narrows older view volume) (hlisted : session.FileIsListed slot) :
    view.FileIsListed slot := by
  intro file volume' hin
  have hholds := hlisted _ _ (h.fileIn?_of_view hin)
  exact hholds

/-- A pipe whose file is in the directory is so for the view. -/
theorem pipeIsListed (h : session.Narrows older view volume) (hlisted : session.PipeIsListed slot) :
    view.PipeIsListed slot := by
  intro pipe volume' hin
  rcases hpipe : view.pipes[slot]? with _ | pipe'
  · simp [pipeIn?, hpipe] at hin
  obtain ⟨hzero, hsession⟩ := h.pipes.exists_of_some hpipe
  simp only [pipeIn?, hpipe, hzero, h.getElem?_view_volumes, Option.bind_eq_bind,
    Option.bind_some, Option.pure_def, Option.some.injEq, Prod.mk.injEq] at hin
  obtain ⟨rfl, rfl⟩ := hin
  have hholds := hlisted _ _ (h.pipeIn?_eq hsession).1
  exact hholds

/-- What a session permits is permitted in its view. -/
theorem permits (h : session.Narrows older view volume) {allowed : String → Prop}
    (hpermits : session.Permits allowed request) : view.Permits allowed request := by
  cases request with
  | readAt slot offset buffer => exact h.fileIsListed hpermits
  | read slot buffer => exact h.fileIsListed hpermits
  | writeAt slot offset data => exact h.fileIsListed hpermits
  | write slot data => exact h.fileIsListed hpermits
  | length slot => exact h.fileIsListed hpermits
  | header slot => exact h.fileIsListed hpermits
  | stepPipe slot step => exact h.pipeIsListed hpermits
  | readWaiting slot buffer peer => exact h.pipeIsListed hpermits
  | writeWaiting slot data peer => exact h.pipeIsListed hpermits
  | _ => exact hpermits

/-- The sums of a request are the same in the view. -/
theorem sumsFit (h : session.Narrows older view volume) (hfits : session.SumsFit request) :
    view.SumsFit request := by
  cases request with
  | readAt slot offset buffer => exact fun _ _ hin => hfits _ _ (h.fileIn?_of_view hin)
  | read slot buffer =>
    exact fun file _ hin => hfits ⟨older.size, file.item⟩ _ (h.fileIn?_of_view hin)
  | writeAt slot offset data => exact fun _ _ hin => hfits _ _ (h.fileIn?_of_view hin)
  | write slot data =>
    exact fun file _ hin => hfits ⟨older.size, file.item⟩ _ (h.fileIn?_of_view hin)
  | makePipe slot pipeSlot size =>
    intro number volume' hin
    -- a volume of the view is in the same slot of the session
    rw [volumeIn?, h.mounted_eq] at hin
    split_ifs at hin with hmounted
    · refine hfits older.size volume ?_
      simp only [volumeIn?, hmounted, Option.bind_eq_bind, Option.bind_some, h.getElem?_volumes]
      rfl
    · cases hin
  | _ => trivial

/-- A request about the last volume is related to that of the view if what is done with the volume
is. -/
theorem related_onVolume (h : session.Narrows older view volume)
    (huses : session.UsesLast request) (hslot : request.volumeSlot? = some slot)
    {act act' : Nat → Volume → Transfer (Answer × Session)}
    (hact : (act older.size volume).Related (Alongside older) (act' 0 volume)) :
    (session.onVolume slot act).Related (Alongside older) (view.onVolume slot act') := by
  rw [onVolume, onVolume, volumeIn?, volumeIn?, h.mounted_eq]
  rcases hmounted : session.mounted[slot]? with _ | number
  · exact h.related_pure .noVolume
  obtain rfl := h.eq_size (huses.volume_eq slot number hslot hmounted)
  simp only [Option.bind_eq_bind, Option.bind_some, if_true, h.getElem?_volumes,
    h.getElem?_view_volumes]
  exact hact

/-- A request about an open file of the last volume is related to that of the view if what is done
with the file is. -/
theorem related_onFile (h : session.Narrows older view volume)
    (huses : session.UsesLast request) (hslot : request.fileSlot? = some slot)
    {act act' : Attached OpenFile → Volume → Transfer (Answer × Session)}
    (hact : ∀ file, (act ⟨older.size, file⟩ volume).Related (Alongside older)
      (act' ⟨0, file⟩ volume)) :
    (session.onFile slot act).Related (Alongside older) (view.onFile slot act') := by
  rw [onFile, onFile]
  rcases hfile : session.files[slot]? with _ | ⟨number, file⟩
  · simp only [fileIn?, hfile, h.files.of_none hfile, Option.bind_eq_bind, Option.bind_none]
    exact h.related_pure .noHandle
  obtain rfl := h.eq_size (huses.file_eq slot _ hslot hfile)
  obtain ⟨hin, hview⟩ := h.fileIn?_eq hfile
  rw [hin, hview]
  exact hact file

/-- A request about a pipe of the last volume is related to that of the view if what is done with
the pipe is. -/
theorem related_onPipe (h : session.Narrows older view volume)
    (huses : session.UsesLast request) (hslot : request.pipeSlot? = some slot)
    {act act' : Attached Pipe → Volume → Transfer (Answer × Session)}
    (hact : ∀ pipe, (act ⟨older.size, pipe⟩ volume).Related (Alongside older)
      (act' ⟨0, pipe⟩ volume)) :
    (session.onPipe slot act).Related (Alongside older) (view.onPipe slot act') := by
  rw [onPipe, onPipe]
  rcases hpipe : session.pipes[slot]? with _ | ⟨number, pipe⟩
  · simp only [pipeIn?, hpipe, h.pipes.of_none hpipe, Option.bind_eq_bind, Option.bind_none]
    exact h.related_pure .noHandle
  obtain rfl := h.eq_size (huses.pipe_eq slot _ hslot hpipe)
  obtain ⟨hin, hview⟩ := h.pipeIn?_eq hpipe
  rw [hin, hview]
  exact hact pipe

/-- A change of the last volume is the same one in the view. -/
theorem related_changeVolume (h : session.Narrows older view volume)
    (huses : session.UsesLast request) (hslot : request.volumeSlot? = some slot)
    (change : Volume → ExceptT Refusal Transfer Volume) :
    (session.changeVolume slot change).Related (Alongside older)
      (view.changeVolume slot change) := by
  refine h.related_onVolume huses hslot (.bind_same fun answer => ?_)
  cases answer with
  | ok volume' => exact (h.setVolume volume').related_pure .done
  | error cause => exact h.related_pure (.refused cause)

/-- A pipe of the volume is dropped in the same way. -/
theorem related_discard (h : session.Narrows older view volume) (pipe : Pipe) :
    (session.discard ⟨older.size, pipe⟩).Related
      (fun session' view' => ∃ volume', session'.Narrows older view' volume')
      (view.discard ⟨0, pipe⟩) := by
  simp only [discard, h.getElem?_volumes, h.getElem?_view_volumes]
  exact .bind_same fun volume' => .done ⟨volume', h.setVolume volume'⟩

/-- A pipe that has moved on has done so in both. -/
theorem updatePipe (h : session.Narrows older view volume) (slot : Slot) (old pipe : Pipe)
    (volume' : Volume) :
    (session.updatePipe slot ⟨older.size, old⟩ pipe volume').Narrows older
      (view.updatePipe slot ⟨0, old⟩ pipe volume') volume' :=
  (h.setVolume volume').setPipe slot pipe

/-- A new pipe on the last volume is one in the view, and so is the end of the pipe that was in its
slot. -/
theorem related_makePipe (h : session.Narrows older view volume) {volumeSlot : Slot} {size : Nat}
    (huses : session.UsesLast (.makePipe volumeSlot slot size)) :
    (session.makePipe volumeSlot slot size).Related (Alongside older)
      (view.makePipe volumeSlot slot size) := by
  refine h.related_onVolume huses rfl ?_
  rw [h.nextPipe_eq]
  refine .bind_same ?_
  rintro ⟨cause | ⟨pipe, volume'⟩, nextPipe⟩
  · exact (h.setNextPipe nextPipe).related_pure (.refused cause)
  have h' := ((h.setNextPipe nextPipe).setVolume volume').setPipe slot pipe
  rcases hold : session.pipes[slot]? with _ | ⟨number, old⟩
  · simp only [hold, h.pipes.of_none hold]
    exact h'.related_pure (.text pipe.name)
  · obtain rfl := h.eq_size (huses.pipe_eq slot _ rfl hold)
    simp only [hold, h.pipes.of_some hold]
    exact (h'.related_discard old).bind fun session' view' h'' => .done ⟨rfl, h''⟩

/-- A request that is about the last volume is carried out as if there were no other. -/
theorem related_perform (h : session.Narrows older view volume) {allowed : String → Prop}
    (hpermits : session.Permits allowed request) (huses : session.UsesLast request) :
    (session.perform request).Related (Alongside older) (view.perform request) := by
  cases request with
  | format slot numSectors => exact hpermits.elim
  | mount slot numSectors => exact hpermits.elim
  | unmount slot => exact (h.unmount slot).related_pure .done
  | setClock slot clock => exact h.related_changeVolume huses rfl _
  | create slot name size => exact h.related_changeVolume huses rfl _
  | remove slot name => exact h.related_changeVolume huses rfl _
  | names slot => exact h.related_onVolume huses rfl (h.related_pure _)
  | listing slot =>
    exact h.related_onVolume huses rfl (.bind_same fun text => h.related_pure (.text text))
  | openFile slot fileSlot name =>
    refine h.related_onVolume huses rfl ?_
    split
    · next file _ => exact (h.setFile fileSlot file).related_pure .done
    · next cause _ => exact h.related_pure (.refused cause)
  | readAt slot offset buffer =>
    exact h.related_onFile huses rfl fun _ => .bind_same fun _ => h.related_pure _
  | read slot buffer =>
    exact h.related_onFile huses rfl fun _ => .bind_same fun _ => (h.setFile slot _).related_pure _
  | writeAt slot offset data =>
    exact h.related_onFile huses rfl fun _ => .bind_same fun _ => (h.setVolume _).related_pure _
  | write slot data =>
    exact h.related_onFile huses rfl fun _ => .bind_same fun _ =>
      ((h.setVolume _).setFile slot _).related_pure _
  | seek slot position =>
    exact h.related_onFile huses rfl fun _ => (h.setFile slot _).related_pure .done
  | close slot => exact h.related_onFile huses rfl fun _ => (h.closeFile slot).related_pure .done
  | length slot => exact h.related_onFile huses rfl fun _ => .bind_same fun _ => h.related_pure _
  | headerSector slot => exact h.related_onFile huses rfl fun _ => h.related_pure _
  | header slot => exact h.related_onFile huses rfl fun _ => .bind_same fun _ => h.related_pure _
  | makePipe slot pipeSlot size => exact h.related_makePipe huses
  | stepPipe slot step =>
    exact h.related_onPipe huses rfl fun _ =>
      .bind_same fun _ => (h.updatePipe slot ..).related_pure _
  | readWaiting slot buffer peer =>
    exact h.related_onPipe huses rfl fun _ =>
      .bind_same fun _ => (h.updatePipe slot ..).related_pure _
  | writeWaiting slot data peer =>
    exact h.related_onPipe huses rfl fun _ =>
      .bind_same fun _ => (h.updatePipe slot ..).related_pure _
  | dropPipe slot =>
    refine h.related_onPipe huses rfl fun pipe => ?_
    exact ((h.erasePipe slot).related_discard pipe).bind fun _ _ h' => .done ⟨rfl, h'⟩

end Narrows

end Session

end SectorStore
