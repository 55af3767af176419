import SectorStore.Proofs.Device.Disk
import SectorStore.Refusal

/-!
# What a transfer yields

`x.Yields disk post` says that the transfer `x` runs through on `disk` without a fault, and that
`post` holds of its answer and of the disk afterwards. It is the weakest precondition of `post`, so
each way of building a transfer has one rewriting rule: `yields_pure`, `yields_bind`, `yields_load`,
`yields_store`, and a second set for transfers that may be refused.

`Disk.SameOff sectors disk disk'` is the frame that most operations have: the disks have the same
blocks but for those listed.
-/

namespace SectorStore

namespace Transfer

variable {α β ε : Type} {disk : Disk}

/-- The transfer runs through on the disk, and `post` holds of the answer and the disk
afterwards. -/
def Yields (x : Transfer α) (disk : Disk) (post : α → Disk → Prop) : Prop :=
  ∃ a disk', x.run disk = (.ok a, disk') ∧ post a disk'

/-- What a transfer yields, it yields in a weaker form. -/
theorem Yields.mono {x : Transfer α} {post post' : α → Disk → Prop} (h : x.Yields disk post)
    (himp : ∀ a disk', post a disk' → post' a disk') : x.Yields disk post' := by
  obtain ⟨a, disk', hrun, hpost⟩ := h
  exact ⟨a, disk', hrun, himp a disk' hpost⟩

/-- Two things that hold of what a transfer yields hold together. -/
theorem Yields.and {x : Transfer α} {post post' : α → Disk → Prop} (h : x.Yields disk post)
    (h' : x.Yields disk post') : x.Yields disk fun a disk' => post a disk' ∧ post' a disk' := by
  obtain ⟨a, disk', hrun, hpost⟩ := h
  obtain ⟨b, disk'', hrun', hpost'⟩ := h'
  rw [hrun, Prod.mk.injEq, Except.ok.injEq] at hrun'
  obtain ⟨rfl, rfl⟩ := hrun'
  exact ⟨a, disk', hrun, hpost, hpost'⟩

/-- A transfer has one outcome, so what it yields is what holds of that outcome. -/
theorem yields_iff_of_run {x : Transfer α} {a : α} {disk' : Disk} {post : α → Disk → Prop}
    (h : x.run disk = (.ok a, disk')) : x.Yields disk post ↔ post a disk' := by
  constructor
  · rintro ⟨b, disk'', hrun, hpost⟩
    rw [h, Prod.mk.injEq, Except.ok.injEq] at hrun
    obtain ⟨rfl, rfl⟩ := hrun
    exact hpost
  · intro hpost
    exact ⟨a, disk', h, hpost⟩

/-- An answer that is at hand is given on the disk as it is. -/
@[simp]
theorem yields_pure {a : α} {post : α → Disk → Prop} :
    (pure a : Transfer α).Yields disk post ↔ post a disk :=
  yields_iff_of_run rfl

/-- A transfer and what comes after it are followed one after the other. -/
theorem yields_bind {x : Transfer α} {f : α → Transfer β} {post : β → Disk → Prop} :
    (x >>= f).Yields disk post ↔ x.Yields disk fun a disk' => (f a).Yields disk' post := by
  constructor
  · rintro ⟨b, disk', hrun, hpost⟩
    rw [run_bind] at hrun
    rcases hx : x.run disk with ⟨_ | a, disk₁⟩
    · simp [hx] at hrun
    · rw [hx] at hrun
      exact ⟨a, disk₁, hx, b, disk', hrun, hpost⟩
  · rintro ⟨a, disk₁, hx, b, disk', hrun, hpost⟩
    refine ⟨b, disk', ?_, hpost⟩
    rw [run_bind, hx]
    exact hrun

@[simp]
theorem yields_map {x : Transfer α} {f : α → β} {post : β → Disk → Prop} :
    (f <$> x).Yields disk post ↔ x.Yields disk fun a disk' => post (f a) disk' := by
  simp only [← bind_pure_comp, yields_bind, yields_pure]

/-- What follows a transfer may rely on what the transfer establishes. -/
theorem Yields.bind {x : Transfer α} {f : α → Transfer β} {mid : α → Disk → Prop}
    {post : β → Disk → Prop} (h : x.Yields disk mid)
    (hnext : ∀ a disk', mid a disk' → (f a).Yields disk' post) : (x >>= f).Yields disk post :=
  yields_bind.2 (h.mono hnext)

/-- A sector of the disk is read. -/
theorem yields_load {sector : SectorId} {post : Sector → Disk → Prop}
    (h : sector.toNat < disk.count) :
    (load sector).Yields disk post ↔ post (disk.get sector) disk := by
  apply yields_iff_of_run
  rw [load, run, Disk.read_of_lt h]
  rfl

/-- A sector of the disk is written. -/
theorem yields_store {sector : SectorId} {data : Sector} {post : Unit → Disk → Prop}
    (h : sector.toNat < disk.count) :
    (store sector data).Yields disk post ↔ post () (disk.put sector data) := by
  apply yields_iff_of_run
  rw [store, run, Disk.write_of_lt h]
  rfl

/-- A step that needs no disk and succeeds is the answer it gives. -/
@[simp]
theorem liftM_ok (a : α) : (liftM (.ok a : Except Fault α) : Transfer α) = pure a :=
  rfl

/-! ## Transfers that may be refused -/

@[simp]
theorem yields_run_pure {a : α} {post : Except ε α → Disk → Prop} :
    (pure a : ExceptT ε Transfer α).run.Yields disk post ↔ post (.ok a) disk :=
  yields_pure

/-- A refusal is given on the disk as it is. -/
@[simp]
theorem yields_run_throw {cause : ε} {post : Except ε α → Disk → Prop} :
    (throw cause : ExceptT ε Transfer α).run.Yields disk post ↔ post (.error cause) disk :=
  yields_pure

/-- After a refusal nothing follows. -/
theorem yields_run_bind {x : ExceptT ε Transfer α} {f : α → ExceptT ε Transfer β}
    {post : Except ε β → Disk → Prop} :
    (x >>= f).run.Yields disk post ↔
      x.run.Yields disk fun answer disk' =>
        match answer with
        | .ok a => (f a).run.Yields disk' post
        | .error cause => post (.error cause) disk' := by
  rw [ExceptT.run_bind, yields_bind]
  constructor <;> intro h <;> refine h.mono ?_
  · rintro (cause | a) disk' hpost
    · exact yields_pure.1 hpost
    · exact hpost
  · rintro (cause | a) disk' hpost
    · exact yields_pure.2 hpost
    · exact hpost

/-- A transfer that cannot be refused is accepted. -/
@[simp]
theorem yields_run_lift {x : Transfer α} {post : Except ε α → Disk → Prop} :
    (liftM x : ExceptT ε Transfer α).run.Yields disk post ↔
      x.Yields disk fun a disk' => post (.ok a) disk' :=
  yields_map

/-- A step that needs no disk and succeeds is the answer it gives. -/
@[simp]
theorem liftM_run_ok (a : α) :
    (liftM (.ok a : Except Fault α) : ExceptT Refusal Transfer α) = pure a :=
  rfl

@[simp]
theorem liftM_accepted (a : α) :
    (liftM (.ok a : Except Refusal α) : ExceptT Refusal Transfer α) = pure a :=
  rfl

@[simp]
theorem liftM_refused (cause : Refusal) :
    (liftM (.error cause : Except Refusal α) : ExceptT Refusal Transfer α) = throw cause :=
  rfl

/-! ## Devices -/

section Device

variable {δ : Type} [BlockDevice δ] [LawfulBlockDevice δ] {device : δ} {count : Nat}
  {x : Transfer α} {post : α → Disk → Prop}

/-- What a transfer yields on the image of a device is what it does on the device. -/
theorem Yields.exists_run (h : x.Yields (Disk.image device count) post)
    (hblocks : HasBlocks device count) :
    ∃ a device', x.run device = (.ok a, device') ∧ HasBlocks device' count ∧
      post a (Disk.image device' count) := by
  obtain ⟨a, disk', hrun, hpost⟩ := h
  obtain ⟨device', hrun', hblocks', rfl⟩ := exists_run_of_image hblocks hrun
  exact ⟨a, device', hrun', hblocks', hpost⟩

/-- A transfer that has run on a device has done what it yields on the image. -/
theorem Yields.of_run {a : α} {device' : δ} (h : x.Yields (Disk.image device count) post)
    (hblocks : HasBlocks device count) (hrun : x.run device = (.ok a, device')) :
    HasBlocks device' count ∧ post a (Disk.image device' count) := by
  obtain ⟨b, device'', hrun', hblocks', hpost⟩ := h.exists_run hblocks
  rw [hrun, Prod.mk.injEq, Except.ok.injEq] at hrun'
  obtain ⟨rfl, rfl⟩ := hrun'
  exact ⟨hblocks', hpost⟩

/-- What has run on a device runs on the image as well. -/
theorem Yields.run_image {a : α} {device' : δ} (h : x.Yields (Disk.image device count) post)
    (hblocks : HasBlocks device count) (hrun : x.run device = (.ok a, device')) :
    x.run (Disk.image device count) = (.ok a, Disk.image device' count) := by
  obtain ⟨b, disk', hrun', -⟩ := h
  obtain ⟨device'', hrun'', -, rfl⟩ := exists_run_of_image hblocks hrun'
  rw [hrun, Prod.mk.injEq, Except.ok.injEq] at hrun''
  obtain ⟨rfl, rfl⟩ := hrun''
  exact hrun'

end Device

end Transfer

/-! ## Frames -/

/-- The disks have the same number of blocks, and the same contents in all sectors but the listed
ones. -/
def Disk.SameOff (sectors : List SectorId) (disk disk' : Disk) : Prop :=
  disk'.count = disk.count ∧ ∀ s, s ∉ sectors → disk'.get s = disk.get s

namespace Disk.SameOff

variable {sectors others : List SectorId} {disk disk' disk'' : Disk}

theorem refl (sectors : List SectorId) (disk : Disk) : SameOff sectors disk disk :=
  ⟨rfl, fun _ _ => rfl⟩

theorem mono (h : SameOff sectors disk disk') (hsub : sectors ⊆ others) :
    SameOff others disk disk' :=
  ⟨h.1, fun s hs => h.2 s fun hmem => hs (hsub hmem)⟩

/-- What is the same off some sectors and then off others is so off all of them. -/
theorem trans (h : SameOff sectors disk disk') (h' : SameOff others disk' disk'') :
    SameOff (sectors ++ others) disk disk'' := by
  refine ⟨h'.1.trans h.1, ?_⟩
  intro s hs
  rw [List.mem_append, not_or] at hs
  rw [h'.2 s hs.2, h.2 s hs.1]

/-- A write changes no other sector. -/
theorem put (disk : Disk) (sector : SectorId) (data : Sector) :
    SameOff [sector] disk (disk.put sector data) :=
  ⟨rfl, fun _ hs => get_put_of_ne (by simpa using hs)⟩

end Disk.SameOff

end SectorStore
