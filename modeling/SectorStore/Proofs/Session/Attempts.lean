import SectorStore.Proofs.Session.Naming

/-!
# Attempts to make pipes

A session that is asked for a pipe tries to make a file under a name of its own. `Attempted` gathers
the names of all attempts, those that were refused among them, whatever volumes and devices they
were about. No two of them are the same, and the next is none of them, so that a pipe is refused as
being there already only where a file of that name was made as something else
(`Attempted.namesPipes`).
-/

namespace SectorStore

open Transfer

/-! ## Refusals of new files -/

/-- An entry is never refused as one that exists. -/
theorem DirEntry.ne_alreadyExists_of_make {name : String} {sector : SectorId} {cause : Refusal}
    (h : make name sector = .error cause) : cause ≠ .alreadyExists := by
  rintro rfl
  rw [make] at h
  split_ifs at h <;> cases h

/-- Sectors are never refused as a file that exists. -/
theorem FileHeader.refuses_allocate (header : FileHeader) (map : FreeMap) (size : Nat) :
    Refuses (· ≠ .alreadyExists) (header.allocate map size) := by
  rw [allocate]
  split
  · exact refuses_throw (by decide)
  split
  · split
    · exact refuses_pure _
    · exact refuses_throw (by decide)
  split
  · split
    · split
      · exact (refuses_lift _).bind fun _ => refuses_pure _
      · exact refuses_throw (by decide)
    · exact refuses_throw (by decide)
  · exact refuses_throw (by decide)

/-- A new file is said to be there already only if its name is listed. -/
theorem Volume.refuses_create (volume : Volume) (name : String) (size : Nat) :
    Refuses (fun cause => cause = .alreadyExists → name ∈ volume.names)
      (volume.create name size) := by
  rcases hindex : volume.directory.indexOf? name with _ | i
  swap
  · rw [create_of_indexOf? hindex]
    exact refuses_throw fun _ => Directory.mem_names_iff.2 (by rw [hindex]; rfl)
  -- otherwise no check that fails says so
  refine Refuses.mono (q := (· ≠ .alreadyExists)) ?_ fun _ hne heq => absurd heq hne
  rw [create]
  simp only [Directory.find?_eq, Directory.insert?_eq, hindex]
  rcases volume.freeMap.take? with _ | ⟨sector, map₁⟩
  · exact refuses_throw (by decide)
  refine (refuses_liftM fun _ => DirEntry.ne_alreadyExists_of_make).bind fun entry => ?_
  rcases volume.directory.firstUnused? with _ | i
  · exact refuses_throw (by decide)
  refine (FileHeader.refuses_allocate _ _ size).bind ?_
  rintro ⟨header, map₂⟩
  refine (refuses_lift _).bind fun _ => (refuses_lift _).bind fun _ => ?_
  exact (refuses_lift _).bind fun _ => (refuses_lift _).bind fun _ => refuses_pure _

/-! ## Attempts on a volume -/

namespace Pipe

/-- The name of the file of a pipe that is to be made, if it is to have room. -/
def attempt? (number size : Nat) : Option String :=
  if size = 0 then none else some (fileName (size + 1) number)

/-- What an attempt to make a pipe tells of its name. -/
structure Attempt (volume : Volume) (number size : Nat)
    (answer : Except Refusal (Pipe × Volume) × Nat) : Prop where
  /-- The attempt has used up its number. -/
  number_eq : answer.2 = number + (attempt? number size).toList.length
  /-- A pipe that is made has the name of the attempt. -/
  name_eq : ∀ pipe volume', answer.1 = .ok (pipe, volume') →
    attempt? number size = some pipe.name
  /-- If the file is said to be there already, the name is listed. -/
  exists_name : answer.1 = .error .alreadyExists →
    ∃ name, attempt? number size = some name ∧ name ∈ volume.names

/-- Whether it is made or refused, a pipe is an attempt under the next number. -/
theorem always_make (volume : Volume) (number size : Nat) :
    (make volume number size).Always (Attempt volume number size) := by
  rw [make]
  split
  · next hzero =>
    have hnone : attempt? number size = none := if_pos hzero
    refine always_pure ⟨by rw [hnone]; rfl, ?_, ?_⟩
    · rintro _ _ ⟨⟩
    · rintro ⟨⟩
  next hpositive =>
  refine (always_checkedAdd size 1).bind ?_
  rintro _ ⟨-, rfl⟩
  have hsome : attempt? number size = some (fileName (size + 1) number) := if_neg hpositive
  have hname : Grants (fun made : Pipe × Volume => made.1.name = fileName (size + 1) number)
      (makeOn volume (fileName (size + 1) number) (size + 1)) :=
    grants_bind fun _ => grants_bind fun _ => grants_pure rfl
  have hrefuses : Refuses (fun cause => cause = .alreadyExists →
      fileName (size + 1) number ∈ volume.names)
      (makeOn volume (fileName (size + 1) number) (size + 1)) := by
    refine (volume.refuses_create _ _).bind fun volume' => ?_
    refine (refuses_liftM fun cause hopen => ?_).bind fun _ => refuses_pure _
    -- a file that cannot be opened is not found
    rw [Volume.open] at hopen
    split at hopen
    · cases hopen
    · cases hopen
      rintro ⟨⟩
  refine Always.bind (Always.and hname hrefuses) ?_
  rintro answer ⟨hmade, hrefused⟩
  refine always_pure ⟨by rw [hsome]; rfl, fun pipe volume' hanswer => ?_, fun hanswer => ?_⟩
  · rw [hsome, hmade (pipe, volume') hanswer]
  · exact ⟨_, hsome, hrefused _ hanswer rfl⟩

end Pipe

/-! ## Attempts of a session -/

namespace Session

variable {session session' : Session} {request : Request} {slot : Slot}
  {post : Answer × Session → Prop}

/-- The name under which a request tries to make a pipe, if it does. -/
def attempt? (session : Session) : Request → Option String
  | .makePipe slot _ size =>
    (session.volumeIn? slot).bind fun _ => Pipe.attempt? session.nextPipe size
  | _ => none

theorem always_onVolume {act : Nat → Volume → Transfer (Answer × Session)}
    (hnone : session.volumeIn? slot = none → post (.noVolume, session))
    (hsome : ∀ number volume, session.volumeIn? slot = some (number, volume) →
      (act number volume).Always post) : (session.onVolume slot act).Always post := by
  rw [onVolume]
  split
  · next number volume hin => exact hsome number volume hin
  · next hin => exact always_pure (hnone hin)

theorem always_onFile {act : Attached OpenFile → Volume → Transfer (Answer × Session)}
    (hnone : post (.noHandle, session)) (hsome : ∀ file volume, (act file volume).Always post) :
    (session.onFile slot act).Always post := by
  rw [onFile]
  split
  · exact hsome _ _
  · exact always_pure hnone

theorem always_onPipe {act : Attached Pipe → Volume → Transfer (Answer × Session)}
    (hnone : post (.noHandle, session)) (hsome : ∀ pipe volume, (act pipe volume).Always post) :
    (session.onPipe slot act).Always post := by
  rw [onPipe]
  split
  · exact hsome _ _
  · exact always_pure hnone

/-- Dropping a pipe does not touch the number of the next one. -/
theorem always_discard (session : Session) (pipe : Attached Pipe) :
    (session.discard pipe).Always fun session' => session'.nextPipe = session.nextPipe := by
  rw [discard]
  split
  · exact always_pure rfl
  · exact always_bind fun _ => always_pure rfl

/-- What a request for a pipe tells of its name. -/
structure TellsAttempt (session : Session) (slot pipeSlot : Slot) (size : Nat)
    (answer : Answer × Session) : Prop where
  /-- The attempt has used up its number. -/
  nextPipe_eq : answer.2.nextPipe =
    session.nextPipe + (session.attempt? (.makePipe slot pipeSlot size)).toList.length
  /-- The name of a pipe that is made is that of the attempt. -/
  name_eq : ∀ name, answer.1 = .text name →
    session.attempt? (.makePipe slot pipeSlot size) = some name
  /-- If the file is said to be there already, the name is listed. -/
  exists_name : answer.1 = .refused .alreadyExists → ∃ number volume name,
    session.volumeIn? slot = some (number, volume) ∧
    session.attempt? (.makePipe slot pipeSlot size) = some name ∧ name ∈ volume.names

/-- A request for a pipe tells of an attempt, if it gets as far. -/
theorem always_makePipe (session : Session) (slot pipeSlot : Slot) (size : Nat) :
    (session.makePipe slot pipeSlot size).Always (session.TellsAttempt slot pipeSlot size) := by
  refine always_onVolume (fun hnone => ?_) fun number volume hin => ?_
  · have hattempt : session.attempt? (.makePipe slot pipeSlot size) = none := by
      rw [attempt?, hnone, Option.bind_none]
    exact ⟨by rw [hattempt]; rfl, nofun, nofun⟩
  have hattempt : session.attempt? (.makePipe slot pipeSlot size) =
      Pipe.attempt? session.nextPipe size := by
    rw [attempt?, hin, Option.bind_some]
  refine (Pipe.always_make volume session.nextPipe size).bind ?_
  rintro ⟨cause | ⟨pipe, volume'⟩, nextPipe⟩ hmade
  · refine always_pure ⟨hattempt ▸ hmade.number_eq, nofun, fun hanswer => ?_⟩
    obtain ⟨name, hname, hmem⟩ := hmade.exists_name (by rw [Answer.refused.inj hanswer])
    exact ⟨number, volume, name, hin, hattempt.trans hname, hmem⟩
  · have hname := hattempt.trans (hmade.name_eq pipe volume' rfl)
    -- the pipe that was in the slot is dropped without another number
    have hdone : ∀ session', session'.nextPipe = nextPipe →
        session.TellsAttempt slot pipeSlot size (.text pipe.name, session') := by
      intro session' hnext
      refine ⟨hnext.trans (hattempt ▸ hmade.number_eq), ?_, nofun⟩
      rintro _ ⟨⟩
      exact hname
    dsimp only
    split
    · exact always_pure (hdone _ rfl)
    · exact (always_discard _ _).bind fun _ hnext => always_pure (hdone _ hnext)

/-- Numbers of pipes are used up by attempts only. -/
theorem always_nextPipe (session : Session) (request : Request) :
    (session.perform request).Always fun answer =>
      answer.2.nextPipe = session.nextPipe + (session.attempt? request).toList.length := by
  cases request with
  | makePipe slot pipeSlot size =>
    exact (session.always_makePipe slot pipeSlot size).mono fun _ htells => htells.nextPipe_eq
  | format slot numSectors =>
    refine always_bind fun answer => ?_
    cases answer <;> exact always_pure rfl
  | mount slot numSectors => exact always_bind fun _ => always_pure rfl
  | unmount slot => exact always_pure rfl
  | setClock slot clock | create slot name size | remove slot name =>
    refine always_onVolume (fun _ => rfl) fun _ _ _ => always_bind fun answer => ?_
    cases answer <;> exact always_pure rfl
  | names slot => exact always_onVolume (fun _ => rfl) fun _ _ _ => always_pure rfl
  | listing slot =>
    exact always_onVolume (fun _ => rfl) fun _ _ _ => always_bind fun _ => always_pure rfl
  | openFile slot fileSlot name =>
    refine always_onVolume (fun _ => rfl) fun _ _ _ => ?_
    split <;> exact always_pure rfl
  | seek slot position | close slot | headerSector slot =>
    exact always_onFile rfl fun _ _ => always_pure rfl
  | readAt slot offset buffer | read slot buffer | writeAt slot offset data | write slot data
  | length slot | header slot =>
    exact always_onFile rfl fun _ _ => always_bind fun _ => always_pure rfl
  | stepPipe slot step | readWaiting slot buffer peer | writeWaiting slot data peer =>
    exact always_onPipe rfl fun _ _ => always_bind fun _ => always_pure rfl
  | dropPipe slot =>
    -- dropping a pipe does not give its number back
    exact always_onPipe rfl fun _ _ => (always_discard _ _).bind fun _ hnext => always_pure hnext

/-- A session that has come of any requests on any devices, with the names of all attempts to make
pipes, the last first. -/
inductive Attempted : List String → Session → Prop
  /-- Nothing was done. -/
  | start : Attempted [] .start
  /-- A request was carried out. -/
  | perform {σ : Type} [BlockDevice σ] {device device' : σ} {names : List String}
      {session session' : Session} {request : Request} {answer : Answer}
      (h : Attempted names session)
      (hrun : (session.perform request).run device = (.ok (answer, session'), device')) :
      Attempted ((session.attempt? request).toList ++ names) session'

/-- The names of pipes are names of their own, where `names` are those of all attempts so far. -/
structure NamesPipes (session : Session) (names : List String) : Prop where
  /-- No two attempts were made under the same name. -/
  nodup : names.Nodup
  /-- The next attempt is under another name. -/
  notMem : ∀ request name, session.attempt? request = some name → name ∉ names
  /-- A pipe that is made has the name of the attempt. -/
  attempt?_eq : ∀ {σ : Type} [BlockDevice σ] (device device' : σ) slot pipeSlot size name session',
    (session.perform (.makePipe slot pipeSlot size)).run device =
      (.ok (.text name, session'), device') →
    session.attempt? (.makePipe slot pipeSlot size) = some name
  /-- A file is said to be there already only if one is listed under a name that no pipe was to be
  made under. -/
  exists_listed : ∀ {σ : Type} [BlockDevice σ] (device device' : σ) slot pipeSlot size session',
    (session.perform (.makePipe slot pipeSlot size)).run device =
      (.ok (.refused .alreadyExists, session'), device') →
    ∃ number volume name, session.volumeIn? slot = some (number, volume) ∧
      session.attempt? (.makePipe slot pipeSlot size) = some name ∧
      name ∈ volume.names ∧ name ∉ names

/-- An attempt is made under the next number. -/
theorem eq_fileName_of_attempt? {name : String} (h : session.attempt? request = some name) :
    ∃ ringSize, name = Pipe.fileName ringSize session.nextPipe := by
  cases request with
  | makePipe slot pipeSlot size =>
    rw [attempt?, Option.bind_eq_some_iff] at h
    obtain ⟨-, -, h⟩ := h
    rw [Pipe.attempt?] at h
    split at h
    · cases h
    · exact ⟨size + 1, (Option.some.inj h).symm⟩
  | _ => cases h

namespace Attempted

variable {names : List String} {name : String}

/-- The numbers of all attempts were used up. -/
theorem exists_number (h : Attempted names session) (hname : name ∈ names) :
    ∃ ringSize number, number < session.nextPipe ∧ name = Pipe.fileName ringSize number := by
  induction h with
  | start => cases hname
  | perform _ hrun ih =>
    have hnext := (always_nextPipe _ _).of_run hrun
    rw [hnext]
    -- the last attempt has used up the number before the next, and earlier ones have lower numbers
    rcases List.mem_append.1 hname with hname | hname
    · rw [Option.mem_toList] at hname
      obtain ⟨ringSize, heq⟩ := eq_fileName_of_attempt? hname
      exact ⟨ringSize, _, by rw [hname]; exact Nat.lt_succ_self _, heq⟩
    · obtain ⟨ringSize, number, hlt, heq⟩ := ih hname
      exact ⟨ringSize, number, Nat.lt_add_right _ hlt, heq⟩

/-- The next attempt is under a name that was not tried yet. -/
theorem notMem (h : Attempted names session) (hattempt : session.attempt? request = some name) :
    name ∉ names := by
  intro hname
  obtain ⟨ringSize, heq⟩ := eq_fileName_of_attempt? hattempt
  obtain ⟨ringSize', number, hlt, heq'⟩ := h.exists_number hname
  -- a name tells its number, and those of earlier attempts are lower
  exact Nat.ne_of_lt hlt (Pipe.fileName_inj (heq'.symm.trans heq))

/-- The names of all attempts are different. -/
theorem nodup (h : Attempted names session) : names.Nodup := by
  induction h with
  | start => exact List.nodup_nil
  | @perform _ _ _ _ names session _ request _ h _ ih =>
    rcases hattempt : session.attempt? request with _ | name
    · exact ih
    · exact List.nodup_cons.2 ⟨h.notMem hattempt, ih⟩

theorem namesPipes (h : Attempted names session) : session.NamesPipes names where
  nodup := h.nodup
  notMem _ _ hattempt := h.notMem hattempt
  attempt?_eq _ _ _ _ _ _ _ hrun := ((always_makePipe _ _ _ _).of_run hrun).name_eq _ rfl
  exists_listed _ _ _ _ _ _ hrun := by
    obtain ⟨number, volume, name, hin, hattempt, hlisted⟩ :=
      ((always_makePipe _ _ _ _).of_run hrun).exists_name rfl
    exact ⟨number, volume, name, hin, hattempt, hlisted, h.notMem hattempt⟩

end Attempted

end Session

end SectorStore
