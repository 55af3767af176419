import SectorStore.Proofs.Pipe.Lasting
import SectorStore.Proofs.Session.Handles

/-!
# Properties that last through a session

Where a property of volumes and one of pipes are `Lasting`, all volumes and pipes of a session keep
them through any request (`Lasting.perform`).
-/

namespace SectorStore

open Transfer (always_pure always_bind Grants grants_pure)

/-- All volumes and all pipes of the session have the properties. -/
structure Session.AllHave (session : Session) (ofVolume : Volume → Prop) (ofPipe : Pipe → Prop) :
    Prop where
  /-- All volumes have the property of volumes. -/
  volume : ∀ (number : Nat) (volume : Volume), session.volumes[number]? = some volume →
    ofVolume volume
  /-- All pipes have the property of pipes. -/
  pipe : ∀ (slot : Slot) (pipe : Attached Pipe), session.pipes[slot]? = some pipe → ofPipe pipe.item

variable {allowed : String → Prop} {ofVolume : Volume → Prop} {ofPipe : Pipe → Prop}
  {session session' : Session} {slot : Slot}

namespace Session.AllHave

/-- A session without volumes and pipes has nothing to prove. -/
theorem start : Session.start.AllHave ofVolume ofPipe where
  volume number volume hvolume := by simp [Session.start] at hvolume
  pipe _ _ hpipe := absurd hpipe getElem?_empty_slot

/-- Only the volumes and the pipes matter. -/
theorem congr (h : session.AllHave ofVolume ofPipe) (hvolumes : session'.volumes = session.volumes)
    (hpipes : session'.pipes = session.pipes) : session'.AllHave ofVolume ofPipe := by
  refine ⟨?_, ?_⟩
  · rw [hvolumes]
    exact h.volume
  · rw [hpipes]
    exact h.pipe

/-- A volume that is taken up has to have the property. -/
theorem addVolume (h : session.AllHave ofVolume ofPipe) (slot : Slot) {volume : Volume}
    (hvolume : ofVolume volume) : (session.addVolume slot volume).AllHave ofVolume ofPipe where
  volume number volume' hvolume' := by
    rw [Session.addVolume, Array.getElem?_push] at hvolume'
    split at hvolume'
    · exact Option.some.inj hvolume' ▸ hvolume
    · exact h.volume number volume' hvolume'
  pipe := h.pipe

/-- A volume that is replaced has to be so by one with the property. -/
theorem setVolume (h : session.AllHave ofVolume ofPipe) (number : Nat) {volume : Volume}
    (hvolume : ofVolume volume) : (session.setVolume number volume).AllHave ofVolume ofPipe where
  volume other volume' hvolume' := by
    rw [Session.setVolume, Array.getElem?_setIfInBounds] at hvolume'
    split_ifs at hvolume'
    · exact Option.some.inj hvolume' ▸ hvolume
    · exact h.volume other volume' hvolume'
  pipe := h.pipe

/-- A pipe that is put into a slot has to have the property. -/
theorem setPipe (h : session.AllHave ofVolume ofPipe) (slot : Slot) {pipe : Attached Pipe}
    (hpipe : ofPipe pipe.item) : (session.setPipe slot pipe).AllHave ofVolume ofPipe where
  volume := h.volume
  pipe other pipe' hpipe' := by
    rw [Session.setPipe, getElem?_insert_slot] at hpipe'
    split at hpipe'
    · exact Option.some.inj hpipe' ▸ hpipe
    · exact h.pipe other pipe' hpipe'

theorem erasePipe (h : session.AllHave ofVolume ofPipe) (slot : Slot) :
    { session with pipes := session.pipes.erase slot }.AllHave ofVolume ofPipe where
  volume := h.volume
  pipe other pipe' hpipe' := by
    rw [getElem?_erase_slot] at hpipe'
    split at hpipe'
    · cases hpipe'
    · exact h.pipe other pipe' hpipe'

/-- A pipe that moves on has to keep the property, and so has its volume. -/
theorem updatePipe (h : session.AllHave ofVolume ofPipe) (slot : Slot) (old : Attached Pipe)
    {pipe : Pipe} {volume : Volume} (hboth : ofPipe pipe ∧ ofVolume volume) :
    (session.updatePipe slot old pipe volume).AllHave ofVolume ofPipe :=
  (h.setVolume old.volume hboth.2).setPipe slot hboth.1

/-! ## Where requests are carried out -/

/-- A request about a volume keeps the properties if what is done with the volume does. -/
theorem onVolume (h : session.AllHave ofVolume ofPipe)
    {act : Nat → Volume → Transfer (Answer × Session)}
    (hact : ∀ number volume, ofVolume volume →
      (act number volume).Always fun answer => answer.2.AllHave ofVolume ofPipe) :
    (session.onVolume slot act).Always fun answer => answer.2.AllHave ofVolume ofPipe := by
  rw [Session.onVolume, volumeIn?]
  rcases session.mounted[slot]? with _ | number
  · exact always_pure h
  rcases hvolume : session.volumes[number]? with _ | volume
  · simp only [hvolume, Option.bind_eq_bind, Option.bind_some, Option.bind_none]
    exact always_pure h
  · simp only [hvolume, Option.bind_eq_bind, Option.bind_some]
    exact hact number volume (h.volume number volume hvolume)

/-- A request about an open file keeps the properties if what is done with the file does. -/
theorem onFile (h : session.AllHave ofVolume ofPipe)
    {act : Attached OpenFile → Volume → Transfer (Answer × Session)}
    (hact : ∀ file volume, ofVolume volume →
      (act file volume).Always fun answer => answer.2.AllHave ofVolume ofPipe) :
    (session.onFile slot act).Always fun answer => answer.2.AllHave ofVolume ofPipe := by
  rw [Session.onFile, fileIn?]
  rcases session.files[slot]? with _ | file
  · exact always_pure h
  rcases hvolume : session.volumes[file.volume]? with _ | volume
  · simp only [hvolume, Option.bind_eq_bind, Option.bind_some, Option.bind_none]
    exact always_pure h
  · simp only [hvolume, Option.bind_eq_bind, Option.bind_some]
    exact hact file volume (h.volume _ volume hvolume)

/-- A request about a pipe keeps the properties if what is done with the pipe does. -/
theorem onPipe (h : session.AllHave ofVolume ofPipe)
    {act : Attached Pipe → Volume → Transfer (Answer × Session)}
    (hact : ∀ pipe volume, ofPipe pipe.item → ofVolume volume →
      (act pipe volume).Always fun answer => answer.2.AllHave ofVolume ofPipe) :
    (session.onPipe slot act).Always fun answer => answer.2.AllHave ofVolume ofPipe := by
  rw [Session.onPipe, pipeIn?]
  rcases hpipe : session.pipes[slot]? with _ | pipe
  · exact always_pure h
  rcases hvolume : session.volumes[pipe.volume]? with _ | volume
  · simp only [hvolume, Option.bind_eq_bind, Option.bind_some, Option.bind_none]
    exact always_pure h
  · simp only [hvolume, Option.bind_eq_bind, Option.bind_some]
    exact hact pipe volume (h.pipe slot pipe hpipe) (h.volume _ volume hvolume)

/-- A volume that is changed keeps its property, also where the change is refused. -/
theorem changeVolume (h : session.AllHave ofVolume ofPipe)
    {change : Volume → ExceptT Refusal Transfer Volume}
    (hchange : ∀ volume, ofVolume volume → Grants ofVolume (change volume)) :
    (session.changeVolume slot change).Always fun answer => answer.2.AllHave ofVolume ofPipe := by
  refine h.onVolume fun number volume hvolume => Transfer.Always.bind (hchange volume hvolume) ?_
  rintro (cause | volume') hvolume'
  · exact always_pure h
  · exact always_pure (h.setVolume number (hvolume' volume' rfl))

end Session.AllHave

namespace Lasting

open Session

/-- The pipe that was in a slot is dropped, and the properties are kept. -/
theorem discard (h : Lasting allowed ofVolume ofPipe) (hall : session.AllHave ofVolume ofPipe)
    (pipe : Attached Pipe) :
    (session.discard pipe).Always fun session' => session'.AllHave ofVolume ofPipe := by
  rw [Session.discard]
  split
  · exact always_pure hall
  · next volume hvolume =>
    exact (h.drop (hall.volume _ volume hvolume) pipe.item).bind fun _ hvolume' =>
      always_pure (hall.setVolume pipe.volume hvolume')

/-- A new pipe has its property, and the others keep theirs. -/
theorem makePipe (h : Lasting allowed ofVolume ofPipe) (hall : session.AllHave ofVolume ofPipe)
    (pipeSlot : Slot) (size : Nat) : (session.makePipe slot pipeSlot size).Always fun answer =>
      answer.2.AllHave ofVolume ofPipe := by
  refine hall.onVolume fun number volume hvolume => (h.make hvolume _ size).bind ?_
  rintro ⟨cause | ⟨pipe, volume'⟩, nextPipe⟩ hmade
  · exact always_pure (hall.congr rfl rfl)
  obtain ⟨hpipe, hvolume'⟩ := hmade pipe volume' rfl
  have hnext : { session with nextPipe }.AllHave ofVolume ofPipe := hall.congr rfl rfl
  have hitem : ofPipe (Attached.item ⟨number, pipe⟩) := hpipe
  have hall' := (hnext.setVolume number hvolume').setPipe pipeSlot hitem
  dsimp only
  split
  · exact always_pure hall'
  · exact (h.discard hall' _).bind fun _ hall'' => always_pure hall''

/-- Properties that last are kept by every request, where a new file gets an allowed name, and where
a volume that is taken up has the property. -/
theorem perform (h : Lasting allowed ofVolume ofPipe) (hall : session.AllHave ofVolume ofPipe)
    (request : Request)
    (hcreate : ∀ slot name size, request = .create slot name size → allowed name)
    (hmount : ∀ slot numSectors, request = .mount slot numSectors →
      (Volume.mount numSectors).Always ofVolume) :
    (session.perform request).Always fun answer => answer.2.AllHave ofVolume ofPipe := by
  cases request with
  | format slot numSectors =>
    refine Transfer.Always.bind (h.format numSectors) ?_
    rintro (cause | volume) hvolume
    · exact always_pure hall
    · exact always_pure (hall.addVolume slot (hvolume volume rfl))
  | mount slot numSectors =>
    exact (hmount slot numSectors rfl).bind fun _ hvolume =>
      always_pure (hall.addVolume slot hvolume)
  | unmount slot => exact always_pure (hall.congr rfl rfl)
  | setClock slot clock =>
    exact hall.changeVolume fun volume hvolume => grants_pure (h.withClock volume clock hvolume)
  | create slot name size =>
    exact hall.changeVolume fun volume => h.create volume name size (hcreate slot name size rfl)
  | remove slot name => exact hall.changeVolume fun volume => h.remove volume name
  -- requests that only look leave volumes and pipes as they are
  | names slot => exact hall.onVolume fun _ _ _ => always_pure hall
  | listing slot => exact hall.onVolume fun _ _ _ => always_bind fun _ => always_pure hall
  | openFile slot fileSlot name =>
    refine hall.onVolume fun _ volume _ => ?_
    split
    · exact always_pure (hall.congr rfl rfl)
    · exact always_pure hall
  | readAt slot offset buffer =>
    exact hall.onFile fun _ _ _ => always_bind fun _ => always_pure hall
  | read slot buffer =>
    exact hall.onFile fun _ _ _ => always_bind fun _ => always_pure (hall.congr rfl rfl)
  -- a write gives back the volume it has written, which goes into the place of the old one
  | writeAt slot offset data =>
    exact hall.onFile fun file volume hvolume => (h.writeAt _ _ offset data hvolume).bind
      fun _ hvolume' => always_pure (hall.setVolume _ hvolume')
  | write slot data =>
    refine hall.onFile fun file volume hvolume => ?_
    rw [OpenFile.write, bind_assoc]
    exact (h.writeAt _ _ _ data hvolume).bind fun _ hvolume' =>
      always_pure ((hall.setVolume _ hvolume').congr rfl rfl)
  | seek slot position => exact hall.onFile fun _ _ _ => always_pure (hall.congr rfl rfl)
  | close slot => exact hall.onFile fun _ _ _ => always_pure (hall.congr rfl rfl)
  | length slot => exact hall.onFile fun _ _ _ => always_bind fun _ => always_pure hall
  | headerSector slot => exact hall.onFile fun _ _ _ => always_pure hall
  | header slot => exact hall.onFile fun _ _ _ => always_bind fun _ => always_pure hall
  | makePipe slot pipeSlot size => exact h.makePipe hall pipeSlot size
  -- a pipe and its volume are kept together
  | stepPipe slot step =>
    exact hall.onPipe fun _ _ hpipe hvolume => (h.step hpipe hvolume step).bind
      fun _ hboth => always_pure (hall.updatePipe slot _ hboth)
  | readWaiting slot buffer peer =>
    exact hall.onPipe fun _ _ hpipe hvolume => (h.readWaiting hpipe hvolume buffer peer).bind
      fun _ hboth => always_pure (hall.updatePipe slot _ hboth)
  | writeWaiting slot data peer =>
    exact hall.onPipe fun _ _ hpipe hvolume => (h.writeWaiting hpipe hvolume data peer).bind
      fun _ hboth => always_pure (hall.updatePipe slot _ hboth)
  | dropPipe slot =>
    exact hall.onPipe fun pipe _ _ _ => (h.discard (hall.erasePipe slot) pipe).bind
      fun _ hall' => always_pure hall'

end Lasting

end SectorStore
