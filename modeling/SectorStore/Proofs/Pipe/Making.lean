import Std.Data.String.ToNat
import SectorStore.Pipe.Basic
import SectorStore.Proofs.Volume.Alike
import SectorStore.Proofs.Volume.Entries
import SectorStore.Proofs.Volume.Evolution

/-!
# Making and dropping pipes

The file of a pipe has a name of its own: names of pipes with different numbers differ
(`fileName_inj`), and what was made under such a name is found (`grants_create_fileName`).
`yields_make` says what a new pipe finds: a file of zeros under its name, in which the ring is
empty. Dropping a pipe removes the file of that name, if there is one (`yields_drop`). Both are done
in the same way on disks that are alike (`yieldsBoth_make`, `yieldsBoth_drop`).
-/

namespace SectorStore.Pipe

/-! ## Names -/

theorem toList_fileName (ringSize number : Nat) :
    (fileName ringSize number).toList = "__pipe_".toList ++
      (Nat.toDigits 10 ringSize ++ '_' :: (Nat.toDigits 10 number ++ ['_', '_'])) := by
  have htext : ∀ text : String, toString text = text := fun _ => rfl
  simp [fileName, htext]

theorem isDigit_of_mem_toDigits {n : Nat} {c : Char} (h : c ∈ Nat.toDigits 10 n) :
    c.isDigit = true :=
  Nat.isDigit_of_mem_toDigits (by decide) (by decide) h

theorem zero_notMem_fileName (ringSize number : Nat) :
    '\x00' ∉ (fileName ringSize number).toList := by
  have hdigits : ∀ n, '\x00' ∉ Nat.toDigits 10 n :=
    fun n h => absurd (isDigit_of_mem_toDigits h) (by decide)
  simp [toList_fileName, hdigits]

/-- Pipes with different numbers have files of different names. -/
theorem fileName_inj {ringSize number ringSize' number' : Nat}
    (h : fileName ringSize number = fileName ringSize' number') : number = number' := by
  have hlist := congrArg String.toList h
  rw [toList_fileName, toList_fileName, List.append_cancel_left_eq] at hlist
  -- the first character that is no digit is the one between the two numbers
  have hrest := congrArg (List.dropWhile Char.isDigit) hlist
  have hdash : ∀ rest, List.dropWhile Char.isDigit ('_' :: rest) = '_' :: rest :=
    fun _ => List.dropWhile_cons_of_neg (by decide)
  rw [List.dropWhile_append_of_pos (fun _ => isDigit_of_mem_toDigits),
    List.dropWhile_append_of_pos (fun _ => isDigit_of_mem_toDigits), hdash, hdash,
    List.cons.injEq, List.append_cancel_right_eq] at hrest
  apply Nat.repr_injective
  rw [Nat.repr_eq_ofList_toDigits, Nat.repr_eq_ofList_toDigits, hrest.2]

/-- Where the file of a pipe was made, it is found under its name, so no pipe is given up after that
and no file has to be taken back. -/
theorem grants_create_fileName (volume : Volume) (ringSize number : Nat) :
    Transfer.Grants (fun volume' => ∃ file, volume'.open (fileName ringSize number) = .ok file)
      (volume.create (fileName ringSize number) ringSize) :=
  volume.grants_create_found ringSize (zero_notMem_fileName ringSize number)

/-! ## Making -/

variable {pipe : Pipe} {volume volume' : Volume} {disk disk' left right : Disk}
  {lost : List SectorId} {i : Fin numEntries} {number size : Nat}

/-- What comes of a new pipe with its file in entry `i`. -/
structure Made (volume : Volume) (disk : Disk) (lost : List SectorId) (number size : Nat)
    (i : Fin numEntries) (pipe : Pipe) (volume' : Volume) (disk' : Disk) : Prop where
  /-- The file is new. -/
  created : volume.Created disk lost (fileName (size + 1) number) (size + 1) i volume' disk'
  /-- The pipe is empty, with room for one byte less than there are places. -/
  pipe_eq : pipe = {
    name := fileName (size + 1) number
    file := ⟨(volume'.directory.entry i).header, 0⟩
    head := 0
    tail := 0
    ringSize := size + 1 }

theorem Made.lists (h : Made volume disk lost number size i pipe volume' disk') :
    volume'.Lists pipe.file.headerSector i := by
  rw [h.pipe_eq]
  exact ⟨h.created.isUnused_eq (zero_notMem_fileName _ _), rfl⟩

/-- Makes the file of a pipe, and the pipe on it. -/
def makeOn (volume : Volume) (name : String) (ringSize : Nat) :
    ExceptT Refusal Transfer (Pipe × Volume) := do
  let volume ← volume.create name ringSize
  let file ← volume.open name
  return ({ name, file, head := 0, tail := 0, ringSize }, volume)

/-- Where the size of the ring can be told, a pipe of some room is made on a file of that size. -/
theorem make_eq (volume : Volume) (number : Nat) (hsum : size + 1 < sumLimit) :
    make volume number size =
      if size = 0 then pure (.error .zeroSizedPipe, number)
      else do
        return (← (makeOn volume (fileName (size + 1) number) (size + 1)).run, number + 1) := by
  rw [make, checkedAdd_eq hsum]
  rfl

/-- Making a pipe leaves what making its file leaves. -/
theorem yields_make_of_create (hsum : size + 1 < sumLimit) {post : Volume → Disk → Prop}
    (hcreate : (volume.create (fileName (size + 1) number) (size + 1)).run.Yields disk
      fun answer disk' => ∀ volume', answer = .ok volume' → post volume' disk') :
    (make volume number size).Yields disk fun answer disk' =>
      ∀ pipe volume', answer.1 = .ok (pipe, volume') →
        pipe.name = fileName (size + 1) number ∧ post volume' disk' := by
  rw [make_eq _ _ hsum]
  split
  · exact Transfer.yields_pure.2 nofun
  rw [makeOn, Transfer.yields_bind, Transfer.yields_run_bind]
  refine hcreate.mono ?_
  rintro (cause | volume₁) disk' houtcome
  · refine Transfer.yields_pure.2 ?_
    rintro _ _ ⟨⟩
  -- once the file is made, the pipe is refused only if the file is not found
  rcases hopen : volume₁.open (fileName (size + 1) number) with cause | file
  · simp only [hopen, Transfer.liftM_refused, Transfer.yields_run_bind]
    refine Transfer.yields_pure.2 (Transfer.yields_pure.2 ?_)
    rintro _ _ ⟨⟩
  · simp only [hopen, Transfer.liftM_accepted, pure_bind, Transfer.yields_run_pure]
    refine Transfer.yields_pure.2 ?_
    rintro _ _ ⟨⟩
    exact ⟨rfl, houtcome _ rfl⟩

/-- The file of a pipe is refused as any file would be, or else the pipe is made. -/
theorem yields_makeOn_refusal? (h : volume.Intact disk lost) (number size : Nat) :
    (makeOn volume (fileName (size + 1) number) (size + 1)).run.Yields disk fun answer disk' =>
      match volume.refusal? (fileName (size + 1) number) (size + 1) with
      | some cause => answer = .error cause ∧ disk' = disk
      | none => ∃ pipe volume' i, answer = .ok (pipe, volume') ∧
          Made volume disk lost number size i pipe volume' disk' := by
  rw [makeOn, Transfer.yields_run_bind]
  refine (h.yields_create _ (size + 1)).mono ?_
  intro answer disk' houtcome
  rcases hrefusal : volume.refusal? (fileName (size + 1) number) (size + 1) with _ | cause
  · rw [hrefusal] at houtcome
    obtain ⟨volume', i, rfl, hcreated⟩ := houtcome
    have hopen : volume'.open (fileName (size + 1) number) =
        .ok ⟨(volume'.directory.entry i).header, 0⟩ := by
      rw [Volume.open, Directory.find?_eq,
        hcreated.indexOf?_eq (zero_notMem_fileName _ _) (volume.indexOf?_of_refusal? hrefusal),
        Option.map_some]
    simp only [hopen, Transfer.liftM_accepted, pure_bind, Transfer.yields_run_pure]
    exact ⟨_, volume', i, rfl, hcreated, rfl⟩
  · rw [hrefusal] at houtcome
    obtain ⟨rfl, rfl⟩ := houtcome
    exact ⟨rfl, rfl⟩

theorem yields_makeOn (h : volume.Intact disk lost) (number size : Nat) :
    (makeOn volume (fileName (size + 1) number) (size + 1)).run.Yields disk fun answer disk' =>
      match answer with
      | .error _ => disk' = disk
      | .ok (pipe, volume') => ∃ i, Made volume disk lost number size i pipe volume' disk' := by
  refine (yields_makeOn_refusal? h number size).mono fun answer disk' houtcome => ?_
  split at houtcome
  · obtain ⟨rfl, rfl⟩ := houtcome
    rfl
  · obtain ⟨pipe, volume', i, rfl, hmade⟩ := houtcome
    exact ⟨i, hmade⟩

theorem yields_make (h : volume.Intact disk lost) (number : Nat) (hsum : size + 1 < sumLimit) :
    (make volume number size).Yields disk fun answer disk' =>
      number ≤ answer.2 ∧
        match answer.1 with
        | .error _ => disk' = disk
        | .ok (pipe, volume') => answer.2 = number + 1 ∧
            ∃ i, Made volume disk lost number size i pipe volume' disk' := by
  rw [make_eq _ _ hsum]
  split
  · exact Transfer.yields_pure.2 ⟨Nat.le_refl _, rfl⟩
  refine (yields_makeOn h number size).bind ?_
  rintro (cause | ⟨pipe, volume'⟩) disk' hmade
  · exact Transfer.yields_pure.2 ⟨Nat.le_succ _, hmade⟩
  · exact Transfer.yields_pure.2 ⟨Nat.le_succ _, rfl, hmade⟩

/-- A pipe is made alike on two disks, or refused on both. -/
theorem yieldsBoth_make (h : volume.AlikeOn left right) (number : Nat)
    (hsum : size + 1 < sumLimit) :
    (make volume number size).YieldsBoth left right fun answer left' right' =>
      match answer.1 with
      | .error _ => volume.AlikeOn left' right'
      | .ok (_, volume') => volume'.AlikeOn left' right' := by
  obtain ⟨lost, hleft⟩ := h.exists_intact_left
  obtain ⟨lost', hright⟩ := h.exists_intact_right
  let name := fileName (size + 1) number
  have halike : (makeOn volume name (size + 1)).run.YieldsBoth left right
      fun answer left' right' =>
        ∀ pipe volume', answer = .ok (pipe, volume') → volume'.AlikeOn left' right' := by
    refine (h.yieldsBoth_create name (size + 1)).run_bind ?_ fun _ _ _ _ => nofun
    intro volume' left' right' halike
    rcases volume'.open name with cause | file
    · exact Transfer.yieldsBoth_pure.2 nofun
    · refine Transfer.yieldsBoth_pure.2 ?_
      rintro _ _ ⟨⟩
      exact halike
  rw [make_eq _ _ hsum]
  split
  · exact Transfer.yieldsBoth_pure.2 h
  -- that a refusal changes nothing is known of each disk by itself
  refine (halike.and (yields_makeOn hleft number size) (yields_makeOn hright number size)).bind ?_
  rintro (cause | ⟨pipe, volume'⟩) left' right' ⟨halike', hleft', hright'⟩
  · -- a refused pipe has changed nothing
    obtain rfl : left' = left := hleft'
    obtain rfl : right' = right := hright'
    exact Transfer.yieldsBoth_pure.2 h
  · exact Transfer.yieldsBoth_pure.2 (halike' pipe volume' rfl)

/-! ## Dropping -/

/-- Dropping a pipe keeps all files but those with the name of its file. -/
theorem yields_drop (h : volume.Intact disk lost) (hflushed : volume.Flushed disk)
    {removes : DirEntry → Prop} (writes : DirEntry → Prop)
    (hremoves : ∀ entry : DirEntry, entry.isFor pipe.name → removes entry) :
    (pipe.drop volume).Yields disk fun volume' disk' =>
      volume.Evolves disk removes writes volume' disk' lost ∧ volume.MakesNone volume' ∧
        volume.Sheds disk volume' disk' := by
  refine (h.yields_remove_evolves hflushed writes hremoves).bind ?_
  rintro (cause | volume') disk' houtcome
  · obtain rfl : disk' = disk := houtcome
    exact Transfer.yields_pure.2 ⟨.refl h hflushed, fun _ _ => rfl, .refl h⟩
  · exact Transfer.yields_pure.2 houtcome

/-- A pipe is dropped alike on two disks. -/
theorem yieldsBoth_drop (h : volume.AlikeOn left right) (pipe : Pipe) :
    (pipe.drop volume).YieldsBoth left right fun volume' left' right' =>
      volume'.AlikeOn left' right' := by
  refine (h.yieldsBoth_remove pipe.name).bind ?_
  rintro (cause | volume') left' right' houtcome
  · obtain ⟨rfl, rfl⟩ : left' = left ∧ right' = right := houtcome
    exact Transfer.yieldsBoth_pure.2 h
  · exact Transfer.yieldsBoth_pure.2 houtcome

end SectorStore.Pipe
