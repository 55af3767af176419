import SectorStore.Proofs.Transfer.Always
import SectorStore.Proofs.Transfer.Yields

/-!
# One transfer on two disks

`x.YieldsBoth left right post` says that the transfer `x` runs through on two disks with the same
answer, and that `post` holds of the answer and of both disks afterwards. What the disks have in
common is a matter of `post`: the two may differ, and a transfer may read what differs, as long as
that is not seen in its answer.

There are three ways to show it: step by step (`YieldsBoth.bind`, `yieldsBoth_store`), from what the
transfer yields on each disk where that fixes the answer (`Yields.both`), and from what the transfer
yields on each disk where its answer is `Settled` whatever is read (`Settled.both`).
-/

namespace SectorStore.Transfer

variable {α β ε : Type} {left right : Disk} {x : Transfer α} {f : α → Transfer β}
  {post : α → Disk → Disk → Prop}

/-- The transfer runs through on both disks with the same answer, and `post` holds of the answer and
of the disks afterwards. -/
def YieldsBoth (x : Transfer α) (left right : Disk) (post : α → Disk → Disk → Prop) : Prop :=
  ∃ a left' right', x.run left = (.ok a, left') ∧ x.run right = (.ok a, right') ∧
    post a left' right'

theorem YieldsBoth.mono {post' : α → Disk → Disk → Prop} (h : x.YieldsBoth left right post)
    (himp : ∀ a left' right', post a left' right' → post' a left' right') :
    x.YieldsBoth left right post' := by
  obtain ⟨a, left', right', hleft, hright, hpost⟩ := h
  exact ⟨a, left', right', hleft, hright, himp a left' right' hpost⟩

/-- Two disks that are the same are one disk. -/
theorem YieldsBoth.self {disk : Disk} (h : x.YieldsBoth disk disk post) :
    x.Yields disk fun a disk' => post a disk' disk' := by
  obtain ⟨a, left', right', hleft, hright, hpost⟩ := h
  obtain rfl : left' = right' := (Prod.mk.inj (hleft.symm.trans hright)).2
  exact ⟨a, left', hleft, hpost⟩

@[simp]
theorem yieldsBoth_pure {a : α} :
    (pure a : Transfer α).YieldsBoth left right post ↔ post a left right := by
  constructor
  · rintro ⟨_, _, _, hleft, hright, hpost⟩
    cases hleft
    cases hright
    exact hpost
  · intro hpost
    exact ⟨a, left, right, rfl, rfl, hpost⟩

/-- What follows a transfer is done on both disks as the transfer left them. -/
theorem YieldsBoth.bind {mid : α → Disk → Disk → Prop} {post : β → Disk → Disk → Prop}
    (h : x.YieldsBoth left right mid)
    (hnext : ∀ a left' right', mid a left' right' → (f a).YieldsBoth left' right' post) :
    (x >>= f).YieldsBoth left right post := by
  obtain ⟨a, left₁, right₁, hleft, hright, hmid⟩ := h
  obtain ⟨b, left₂, right₂, hleft', hright', hpost⟩ := hnext a left₁ right₁ hmid
  refine ⟨b, left₂, right₂, ?_, ?_, hpost⟩
  · rw [run_bind, hleft]
    exact hleft'
  · rw [run_bind, hright]
    exact hright'

/-- What follows a transfer that leaves the disks as they are is done on the same disks. -/
theorem YieldsBoth.bind_of_unchanged {post : β → Disk → Disk → Prop}
    (h : x.YieldsBoth left right fun _ left' right' => left' = left ∧ right' = right)
    (hnext : ∀ a, (f a).YieldsBoth left right post) : (x >>= f).YieldsBoth left right post := by
  refine h.bind ?_
  rintro a _ _ ⟨rfl, rfl⟩
  exact hnext a

/-- What is read from a sector may differ, as long as what follows does not. -/
theorem yieldsBoth_load {sector : SectorId} {f : Sector → Transfer β}
    {post : β → Disk → Disk → Prop}
    (hleft : sector.toNat < left.count) (hright : sector.toNat < right.count)
    (heq : f (right.get sector) = f (left.get sector))
    (hnext : (f (left.get sector)).YieldsBoth left right post) :
    (load sector >>= f).YieldsBoth left right post := by
  obtain ⟨b, left', right', hrun, hrun', hpost⟩ := hnext
  refine ⟨b, left', right', ?_, ?_, hpost⟩
  · rw [run_bind, load, run, Disk.read_of_lt hleft]
    exact hrun
  · rw [run_bind, load, run, Disk.read_of_lt hright]
    show (f (right.get sector)).run right = _
    rw [heq]
    exact hrun'

/-- The same is written to both disks. -/
theorem yieldsBoth_store {sector : SectorId} {data : Sector} {p : Unit → Disk → Disk → Prop}
    (hleft : sector.toNat < left.count) (hright : sector.toNat < right.count)
    (hpost : p () (left.put sector data) (right.put sector data)) :
    (store sector data).YieldsBoth left right p := by
  refine ⟨(), _, _, ?_, ?_, hpost⟩
  · rw [store, run, Disk.write_of_lt hleft]
    rfl
  · rw [store, run, Disk.write_of_lt hright]
    rfl

/-! ## From one disk to two -/

section Unary

variable {p q : α → Disk → Prop}

/-- What a transfer yields on each disk holds together, if the answers must be the same. -/
theorem Yields.both (hleft : x.Yields left p) (hright : x.Yields right q)
    (heq : ∀ a b left' right', p a left' → q b right' → a = b) :
    x.YieldsBoth left right fun a left' right' => p a left' ∧ q a right' := by
  obtain ⟨a, left', hrun, hp⟩ := hleft
  obtain ⟨b, right', hrun', hq⟩ := hright
  obtain rfl := heq a b left' right' hp hq
  exact ⟨a, left', right', hrun, hrun', hp, hq⟩

/-- A transfer that only looks, and sees the same on both disks. -/
theorem YieldsBoth.of_looks {a : α} (hleft : x.Yields left fun b left' => b = a ∧ left' = left)
    (hright : x.Yields right fun b right' => b = a ∧ right' = right) (hpost : post a left right) :
    x.YieldsBoth left right post := by
  refine (hleft.both hright fun _ _ _ _ hl hr => hl.1.trans hr.1.symm).mono ?_
  rintro b left' right' ⟨⟨rfl, rfl⟩, -, rfl⟩
  exact hpost

theorem YieldsBoth.bind_of_looks {a : α} {post : β → Disk → Disk → Prop}
    (hleft : x.Yields left fun b left' => b = a ∧ left' = left)
    (hright : x.Yields right fun b right' => b = a ∧ right' = right)
    (hnext : (f a).YieldsBoth left right post) : (x >>= f).YieldsBoth left right post := by
  have hlooks : x.YieldsBoth left right
      fun b left' right' => b = a ∧ left' = left ∧ right' = right :=
    of_looks hleft hright ⟨rfl, rfl, rfl⟩
  refine hlooks.bind ?_
  rintro _ _ _ ⟨rfl, rfl, rfl⟩
  exact hnext

/-- What a transfer yields on each disk holds besides what it yields on both. -/
theorem YieldsBoth.and (h : x.YieldsBoth left right post) (hleft : x.Yields left p)
    (hright : x.Yields right q) :
    x.YieldsBoth left right fun a left' right' => post a left' right' ∧ p a left' ∧ q a right' := by
  obtain ⟨a, left', right', hrun, hrun', hpost⟩ := h
  exact ⟨a, left', right', hrun, hrun', hpost, (yields_iff_of_run hrun).1 hleft,
    (yields_iff_of_run hrun').1 hright⟩

end Unary

/-! ## Settled answers -/

/-- The answer of the transfer does not depend on what is read. -/
def Settled (x : Transfer α) : Prop :=
  ∃ a, x.Always (· = a)

theorem settled_pure (a : α) : (pure a : Transfer α).Settled :=
  ⟨a, always_pure rfl⟩

/-- What a transfer answers may be of no matter for what follows. -/
theorem settled_bind {b : β} (hnext : ∀ a, (f a).Always (· = b)) : (x >>= f).Settled :=
  ⟨b, always_bind hnext⟩

theorem Settled.both {p q : α → Disk → Prop} (h : x.Settled) (hleft : x.Yields left p)
    (hright : x.Yields right q) :
    x.YieldsBoth left right fun a left' right' => p a left' ∧ q a right' := by
  obtain ⟨a, hx⟩ := h
  obtain ⟨b, left', hrun, hp⟩ := hleft
  obtain ⟨c, right', hrun', hq⟩ := hright
  obtain rfl := hx.of_run hrun
  obtain rfl := hx.of_run hrun'
  exact ⟨c, left', right', hrun, hrun', hp, hq⟩

/-! ## Transfers that may be refused -/

/-- After a refusal nothing follows. -/
theorem YieldsBoth.run_bind {x : ExceptT ε Transfer α} {f : α → ExceptT ε Transfer β}
    {mid : Except ε α → Disk → Disk → Prop} {post : Except ε β → Disk → Disk → Prop}
    (h : x.run.YieldsBoth left right mid)
    (hok : ∀ a left' right', mid (.ok a) left' right' → (f a).run.YieldsBoth left' right' post)
    (herror : ∀ cause left' right', mid (.error cause) left' right' →
      post (.error cause) left' right') :
    (x >>= f).run.YieldsBoth left right post := by
  rw [ExceptT.run_bind]
  refine h.bind ?_
  rintro (cause | a) left' right' hmid
  · exact yieldsBoth_pure.2 (herror cause left' right' hmid)
  · exact hok a left' right' hmid

/-- A transfer that cannot be refused, followed by one that can. -/
theorem YieldsBoth.run_lift_bind {f : α → ExceptT ε Transfer β}
    {mid : α → Disk → Disk → Prop} {post : Except ε β → Disk → Disk → Prop}
    (h : x.YieldsBoth left right mid)
    (hnext : ∀ a left' right', mid a left' right' → (f a).run.YieldsBoth left' right' post) :
    ((liftM x : ExceptT ε Transfer α) >>= f).run.YieldsBoth left right post := by
  have hlift : (liftM x : ExceptT ε Transfer α).run.YieldsBoth left right
      fun answer left' right' => ∃ a, answer = .ok a ∧ mid a left' right' := by
    show (Except.ok <$> x).YieldsBoth left right _
    rw [← bind_pure_comp]
    exact h.bind fun a left' right' hmid => yieldsBoth_pure.2 ⟨a, rfl, hmid⟩
  refine hlift.run_bind ?_ ?_
  · rintro a left' right' ⟨_, ⟨⟩, hmid⟩
    exact hnext a left' right' hmid
  · rintro cause left' right' ⟨_, ⟨⟩, -⟩

/-! ## Devices -/

/-- What a transfer yields on the images of two devices is what it does on the devices. -/
theorem YieldsBoth.exists_run {δ δ' : Type} [BlockDevice δ] [LawfulBlockDevice δ] [BlockDevice δ']
    [LawfulBlockDevice δ'] {device : δ} {device' : δ'} {count count' : Nat}
    (h : x.YieldsBoth (Disk.image device count) (Disk.image device' count') post)
    (hblocks : HasBlocks device count) (hblocks' : HasBlocks device' count') :
    ∃ a device₁ device₁', x.run device = (.ok a, device₁) ∧ x.run device' = (.ok a, device₁') ∧
      HasBlocks device₁ count ∧ HasBlocks device₁' count' ∧
      post a (Disk.image device₁ count) (Disk.image device₁' count') := by
  obtain ⟨a, left', right', hleft, hright, hpost⟩ := h
  obtain ⟨device₁, hrun, hblocks₁, rfl⟩ := exists_run_of_image hblocks hleft
  obtain ⟨device₁', hrun', hblocks₁', rfl⟩ := exists_run_of_image hblocks' hright
  exact ⟨a, device₁, device₁', hrun, hrun', hblocks₁, hblocks₁', hpost⟩

end SectorStore.Transfer
