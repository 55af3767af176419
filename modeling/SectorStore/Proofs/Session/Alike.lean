import SectorStore.Proofs.Session.Steps

/-!
# One session on two disks

A session is `AlikeOn` two disks if its volume is, and the tables of the volume are on both. Then a
permitted request whose sums fit has the same answer on both disks, and the session is the same
afterwards and alike on both again (`AlikeOn.yieldsBoth_perform`): whatever the disks hold beyond
the files of the volume has no part in it.
-/

namespace SectorStore.Session

open Transfer (YieldsBoth)

variable {session session' : Session} {volume volume' : Volume} {left right : Disk} {slot : Slot}
  {request : Request} {allowed : String → Prop}

/-- The session works on one volume, which is alike on both disks and has its tables on them. -/
structure AlikeOn (session : Session) (volume : Volume) (left right : Disk) : Prop where
  /-- There is one volume. -/
  volumes_eq : session.volumes = #[volume]
  /-- The volume is alike on both disks. -/
  alike : volume.AlikeOn left right
  /-- The tables are on the one disk. -/
  flushed_left : volume.Flushed left
  /-- The tables are on the other disk. -/
  flushed_right : volume.Flushed right

/-- After a request there is one volume, and it is alike on both disks. -/
def VolumeAlike (session : Session) (left right : Disk) : Prop :=
  ∃ volume, session.volumes = #[volume] ∧ volume.AlikeOn left right

/-- A session whose volume was replaced has a volume that is alike on both disks if the new one is.
-/
theorem VolumeAlike.setVolume (hvolumes : session.volumes = #[volume])
    (h : volume'.AlikeOn left right)
    (hsession' : session'.volumes = (session.setVolume 0 volume').volumes) :
    session'.VolumeAlike left right :=
  ⟨volume', hsession'.trans (volumes_setVolume hvolumes volume'), h⟩

namespace AlikeOn

/-- A session that is alike on two disks is sound on the first. -/
theorem exists_sound_left (h : session.AlikeOn volume left right) :
    ∃ lost, session.Sound volume left lost := by
  obtain ⟨lost, hintact⟩ := h.alike.exists_intact_left
  exact ⟨lost, h.volumes_eq, hintact, h.flushed_left⟩

/-- A session that is alike on two disks is sound on the second. -/
theorem exists_sound_right (h : session.AlikeOn volume left right) :
    ∃ lost, session.Sound volume right lost := by
  obtain ⟨lost, hintact⟩ := h.alike.exists_intact_right
  exact ⟨lost, h.volumes_eq, hintact, h.flushed_right⟩

theorem volumeAlike (h : session.AlikeOn volume left right) : session.VolumeAlike left right :=
  ⟨volume, h.volumes_eq, h.alike⟩

/-! ## Where requests are carried out -/

/-- A request about a volume keeps the disks alike if what is done with the volume does. -/
theorem yieldsBoth_onVolume (h : session.AlikeOn volume left right)
    {act : Nat → Volume → Transfer (Answer × Session)}
    (hact : session.mounted[slot]? = some 0 →
      (act 0 volume).YieldsBoth left right fun answer => answer.2.VolumeAlike) :
    (session.onVolume slot act).YieldsBoth left right fun answer => answer.2.VolumeAlike := by
  obtain ⟨lost, hsound⟩ := h.exists_sound_left
  rcases hsound.onVolume_cases slot act with heq | ⟨hmounted, heq⟩
  · exact heq ▸ Transfer.yieldsBoth_pure.2 h.volumeAlike
  · exact heq ▸ hact hmounted

/-- A request about an open file keeps the disks alike if what is done with the file does. -/
theorem yieldsBoth_onFile (h : session.AlikeOn volume left right)
    {act : Attached OpenFile → Volume → Transfer (Answer × Session)}
    (hact : ∀ file, file.volume = 0 → session.fileIn? slot = some (file, volume) →
      (act file volume).YieldsBoth left right fun answer => answer.2.VolumeAlike) :
    (session.onFile slot act).YieldsBoth left right fun answer => answer.2.VolumeAlike := by
  obtain ⟨lost, hsound⟩ := h.exists_sound_left
  rcases hsound.onFile_cases slot act with heq | ⟨file, -, hzero, hin, heq⟩
  · exact heq ▸ Transfer.yieldsBoth_pure.2 h.volumeAlike
  · exact heq ▸ hact file hzero hin

/-- A request on a pipe moves on with it. -/
theorem yieldsBoth_onPipe (h : session.AlikeOn volume left right)
    (hrings : session.AllHave (fun _ => True) Pipe.InRing) (hlisted : session.PipeIsListed slot)
    {act : Attached Pipe → Volume → Transfer (Answer × Session)}
    (hact : ∀ pipe : Attached Pipe, pipe.volume = 0 → ∀ lost lost' i,
      pipe.item.OnBoth volume left right lost lost' i →
      (act pipe volume).YieldsBoth left right fun answer => answer.2.VolumeAlike) :
    (session.onPipe slot act).YieldsBoth left right fun answer => answer.2.VolumeAlike := by
  obtain ⟨lost, hsound⟩ := h.exists_sound_left
  obtain ⟨lost', hsound'⟩ := h.exists_sound_right
  rcases hsound.onPipe_cases slot act with heq | ⟨pipe, hpipe, hzero, hin, heq⟩
  · exact heq ▸ Transfer.yieldsBoth_pure.2 h.volumeAlike
  · obtain ⟨i, hlists, -⟩ := hlisted pipe volume hin
    have hring := hrings.pipe slot pipe hpipe
    exact heq ▸ hact pipe hzero lost lost' i
      ⟨⟨hsound.intact, hlists, hring⟩, ⟨hsound'.intact, hlists, hring⟩, h.alike⟩

/-- A change of the volume keeps the disks alike, also where it is refused. -/
theorem yieldsBoth_changeVolume (h : session.AlikeOn volume left right)
    {change : Volume → ExceptT Refusal Transfer Volume}
    (hchange : (change volume).run.YieldsBoth left right fun answer left' right' =>
      match answer with
      | .ok volume' => volume'.AlikeOn left' right'
      | .error _ => left' = left ∧ right' = right) :
    (session.changeVolume slot change).YieldsBoth left right
      fun answer => answer.2.VolumeAlike := by
  refine h.yieldsBoth_onVolume fun _ => hchange.bind ?_
  rintro (cause | volume') left' right' houtcome
  · obtain ⟨rfl, rfl⟩ : left' = left ∧ right' = right := houtcome
    exact Transfer.yieldsBoth_pure.2 h.volumeAlike
  · exact Transfer.yieldsBoth_pure.2 (.setVolume h.volumes_eq houtcome rfl)

/-! ## Requests one by one -/

/-- Writing to a file that is in the directory leaves the volume alike. -/
theorem yieldsBoth_writeAt (h : session.AlikeOn volume left right) {file : Attached OpenFile}
    (hin : session.fileIn? slot = some (file, volume)) (hlisted : session.FileIsListed slot)
    {offset : Nat} {data : Bytes} (hsum : offset + data.length < sumLimit) :
    (file.item.writeAt volume offset data).YieldsBoth left right fun answer left' right' =>
      answer.2.AlikeOn left' right' := by
  obtain ⟨i, hlists⟩ := hlisted file volume hin
  exact (h.alike.yieldsBoth_writeAt hlists hsum).mono fun _ _ _ hpost => hpost.1

/-- Dropping a pipe leaves the volume alike. -/
theorem yieldsBoth_discard (hvolumes : session.volumes = #[volume]) (h : volume.AlikeOn left right)
    (pipe : Attached Pipe) : (session.discard pipe).YieldsBoth left right VolumeAlike := by
  rw [discard, getElem?_volumes_of_eq hvolumes]
  split_ifs with hzero
  · refine (Pipe.yieldsBoth_drop h pipe.item).bind ?_
    intro volume' left' right' halike
    exact Transfer.yieldsBoth_pure.2 (.setVolume hvolumes halike (by rw [hzero]))
  · exact Transfer.yieldsBoth_pure.2 ⟨volume, hvolumes, h⟩

/-- A new pipe is made alike on both disks, or refused on both. -/
theorem yieldsBoth_makePipe (h : session.AlikeOn volume left right) {pipeSlot : Slot} {size : Nat}
    (hfits : session.SumsFit (.makePipe slot pipeSlot size)) :
    (session.perform (.makePipe slot pipeSlot size)).YieldsBoth left right
      fun answer => answer.2.VolumeAlike := by
  obtain ⟨lost, hsound⟩ := h.exists_sound_left
  refine h.yieldsBoth_onVolume fun hmounted => ?_
  have hsum := hfits 0 volume ((hsound.volumeIn?_eq slot).trans (if_pos hmounted))
  refine (Pipe.yieldsBoth_make h.alike session.nextPipe hsum).bind ?_
  rintro ⟨cause | ⟨pipe, volume₁⟩, next⟩ left₁ right₁ houtcome
  · exact Transfer.yieldsBoth_pure.2 ⟨volume, h.volumes_eq, houtcome⟩
  have halike : volume₁.AlikeOn left₁ right₁ := houtcome
  have hvolumes : (({ session with nextPipe := next }).setVolume 0 volume₁).volumes =
      #[volume₁] := volumes_setVolume h.volumes_eq volume₁
  rcases hold : session.pipes[pipeSlot]? with _ | old
  · simp only [hold]
    exact Transfer.yieldsBoth_pure.2 ⟨volume₁, hvolumes, halike⟩
  · simp only [hold]
    refine (yieldsBoth_discard (by exact hvolumes) halike old).bind ?_
    intro session' left' right' hpost
    exact Transfer.yieldsBoth_pure.2 hpost

/-- What leaves the volumes of the session as they are leaves the volume alike. -/
theorem yieldsBoth_done (h : session.AlikeOn volume left right) (answer : Answer)
    (hvolumes : session'.volumes = session.volumes) :
    (pure (answer, session') : Transfer (Answer × Session)).YieldsBoth left right
      fun answer => answer.2.VolumeAlike :=
  Transfer.yieldsBoth_pure.2 ⟨volume, hvolumes.trans h.volumes_eq, h.alike⟩

/-- A request that only looks finds the same on both disks. -/
theorem yieldsBoth_look (h : session.AlikeOn volume left right) (hlooks : request.OnlyLooks)
    (hpermits : session.Permits allowed request) (hfits : session.SumsFit request) :
    (session.perform request).YieldsBoth left right fun answer => answer.2.VolumeAlike := by
  cases request with
  | unmount slot => exact h.yieldsBoth_done _ rfl
  | names slot => exact h.yieldsBoth_onVolume fun _ => h.yieldsBoth_done _ rfl
  | listing slot =>
    exact h.yieldsBoth_onVolume fun _ => (h.alike.yieldsBoth_listing h.flushed_left
      h.flushed_right).bind_of_unchanged fun _ => h.yieldsBoth_done _ rfl
  | openFile slot fileSlot name =>
    -- the directory in memory is the same for both disks
    refine h.yieldsBoth_onVolume fun _ => ?_
    split
    · exact h.yieldsBoth_done _ rfl
    · exact h.yieldsBoth_done _ rfl
  | readAt slot offset buffer =>
    refine h.yieldsBoth_onFile fun file _ hin => ?_
    obtain ⟨i, hlists⟩ := hpermits file volume hin
    exact (h.alike.yieldsBoth_readAt hlists (hfits file volume hin)).bind_of_unchanged fun _ =>
      h.yieldsBoth_done _ rfl
  | read slot buffer =>
    refine h.yieldsBoth_onFile fun file _ hin => ?_
    obtain ⟨i, hlists⟩ := hpermits file volume hin
    rw [OpenFile.read, bind_assoc]
    exact (h.alike.yieldsBoth_readAt hlists (hfits file volume hin)).bind_of_unchanged fun _ =>
      h.yieldsBoth_done _ rfl
  | seek slot position => exact h.yieldsBoth_onFile fun _ _ _ => h.yieldsBoth_done _ rfl
  | close slot => exact h.yieldsBoth_onFile fun _ _ _ => h.yieldsBoth_done _ rfl
  | length slot =>
    refine h.yieldsBoth_onFile fun file _ hin => ?_
    obtain ⟨i, hlists⟩ := hpermits file volume hin
    exact (h.alike.yieldsBoth_length hlists).bind_of_unchanged fun _ => h.yieldsBoth_done _ rfl
  | headerSector slot => exact h.yieldsBoth_onFile fun _ _ _ => h.yieldsBoth_done _ rfl
  | header slot =>
    refine h.yieldsBoth_onFile fun file _ hin => ?_
    obtain ⟨i, hlists⟩ := hpermits file volume hin
    have hheader := (h.alike.yieldsBoth_header hlists).mono fun _ _ _ hpost => hpost.2
    exact hheader.bind_of_unchanged fun _ => h.yieldsBoth_done _ rfl
  | _ => exact hlooks.elim

/-- What is done with a pipe leaves the volume alike if its ring is moved in the same way on both
disks. -/
theorem yieldsBoth_usePipe {α : Type} (h : session.AlikeOn volume left right)
    (hrings : session.AllHave (fun _ => True) Pipe.InRing) (hlisted : session.PipeIsListed slot)
    {use : Pipe → Volume → Transfer α}
    {volumeOf : α → Volume} {finish : Attached Pipe → α → Answer × Session}
    (huse : ∀ {pipe volume lost lost' i}, Pipe.OnBoth pipe volume left right lost lost' i →
      (use pipe volume).YieldsBoth left right fun answer => (volumeOf answer).AlikeOn)
    (hfinish : ∀ old answer, (finish old answer).2.volumes =
      (session.setVolume old.volume (volumeOf answer)).volumes) :
    (session.onPipe slot fun old volume => do
      let answer ← use old.item volume
      return finish old answer).YieldsBoth left right fun answer => answer.2.VolumeAlike := by
  refine h.yieldsBoth_onPipe hrings hlisted fun old hzero _ _ _ honBoth => (huse honBoth).bind ?_
  intro answer left' right' halike
  exact Transfer.yieldsBoth_pure.2 (.setVolume h.volumes_eq halike (hzero ▸ hfinish old answer))

/-- A pipe is dropped alike on both disks. -/
theorem yieldsBoth_dropPipe (h : session.AlikeOn volume left right) (slot : Slot) :
    (session.perform (.dropPipe slot)).YieldsBoth left right
      fun answer => answer.2.VolumeAlike := by
  obtain ⟨lost, hsound⟩ := h.exists_sound_left
  rw [perform]
  rcases hsound.onPipe_cases slot _ with heq | ⟨pipe, -, -, -, heq⟩
  · exact heq ▸ h.yieldsBoth_done _ rfl
  rw [heq]
  refine (yieldsBoth_discard (by exact h.volumes_eq) h.alike pipe).bind ?_
  intro session' left' right' hpost
  exact Transfer.yieldsBoth_pure.2 hpost

/-- The volume after a request, as far as its files are concerned. -/
theorem yieldsBoth_volumeAlike (h : session.AlikeOn volume left right)
    (hrings : session.AllHave (fun _ => True) Pipe.InRing)
    (hpermits : session.Permits allowed request) (hfits : session.SumsFit request) :
    (session.perform request).YieldsBoth left right fun answer => answer.2.VolumeAlike := by
  cases request with
  | format slot numSectors => exact hpermits.elim
  | mount slot numSectors => exact hpermits.elim
  | setClock slot clock =>
    exact h.yieldsBoth_changeVolume (Transfer.yieldsBoth_pure.2 (h.alike.withClock clock))
  | create slot name size => exact h.yieldsBoth_changeVolume (h.alike.yieldsBoth_create name size)
  | remove slot name => exact h.yieldsBoth_changeVolume (h.alike.yieldsBoth_remove name)
  | writeAt slot offset data =>
    refine h.yieldsBoth_onFile fun file hzero hin => ?_
    refine (h.yieldsBoth_writeAt hin hpermits (hfits file volume hin)).bind ?_
    rintro ⟨count, volume'⟩ left' right' halike
    exact Transfer.yieldsBoth_pure.2 (.setVolume h.volumes_eq halike (by rw [hzero]))
  | write slot data =>
    refine h.yieldsBoth_onFile fun file hzero hin => ?_
    rw [OpenFile.write, bind_assoc]
    refine (h.yieldsBoth_writeAt hin hpermits (hfits file volume hin)).bind ?_
    rintro ⟨count, volume'⟩ left' right' halike
    exact Transfer.yieldsBoth_pure.2 (.setVolume h.volumes_eq halike (by rw [hzero]; rfl))
  | makePipe slot pipeSlot size => exact h.yieldsBoth_makePipe hfits
  | stepPipe slot step =>
    exact h.yieldsBoth_usePipe hrings hpermits
      (fun honBoth => (honBoth.yieldsBoth_step step).mono fun _ _ _ hmoved => hmoved.alike)
      fun _ _ => rfl
  | readWaiting slot buffer peer =>
    exact h.yieldsBoth_usePipe hrings hpermits
      (fun honBoth => (honBoth.yieldsBoth_readWaiting buffer peer).mono
        fun _ _ _ hmoved => hmoved.alike) fun _ _ => rfl
  | writeWaiting slot data peer =>
    exact h.yieldsBoth_usePipe hrings hpermits
      (fun honBoth => (honBoth.yieldsBoth_writeWaiting data peer).mono
        fun _ _ _ hmoved => hmoved.alike) fun _ _ => rfl
  | dropPipe slot => exact h.yieldsBoth_dropPipe slot
  | _ => exact h.yieldsBoth_look trivial hpermits hfits

/-- A permitted request whose sums fit has the same answer on both disks, and leaves the session
alike on both. -/
theorem yieldsBoth_perform (h : session.AlikeOn volume left right)
    (hrings : session.AllHave (fun _ => True) Pipe.InRing)
    (hpermits : session.Permits allowed request) (hfits : session.SumsFit request) :
    (session.perform request).YieldsBoth left right fun answer left' right' =>
      ∃ volume', answer.2.AlikeOn volume' left' right' := by
  obtain ⟨lost, hsound⟩ := h.exists_sound_left
  obtain ⟨lost', hsound'⟩ := h.exists_sound_right
  refine ((h.yieldsBoth_volumeAlike hrings hpermits hfits).and
    (hsound.yields_perform hrings hpermits hfits)
    (hsound'.yields_perform hrings hpermits hfits)).mono ?_
  rintro ⟨answer, session'⟩ left' right' ⟨⟨volume', hvolumes, halike⟩, hadvances, hadvances'⟩
  obtain ⟨volume₁, lost₁, hadvanced⟩ := hadvances
  obtain ⟨volume₂, lost₂, hadvanced'⟩ := hadvances'
  obtain rfl := eq_of_volumes_eq hadvanced.volumes_eq hvolumes
  obtain rfl := eq_of_volumes_eq hadvanced'.volumes_eq hvolumes
  exact ⟨_, hvolumes, halike, hadvanced.evolves.flushed, hadvanced'.evolves.flushed⟩

end AlikeOn

end SectorStore.Session
