import SectorStore.Checked
import SectorStore.Device.Basic
import SectorStore.Refusal

/-!
# What a transfer always answers

`x.Always p` says that `p` holds of the answer of `x` wherever it runs through, whatever is read on
the way. It is for facts that do not depend on the disk, and so needs none.
-/

namespace SectorStore.Transfer

variable {α β : Type}

/-- All answers that the transfer can give have the property. -/
inductive Always (p : α → Prop) : Transfer α → Prop
  | done {a : α} (h : p a) : Always p (done a)
  | fault (cause : Fault) : Always p (fault cause)
  | read (block : Nat) {next : Sector → Transfer α} (h : ∀ sector, Always p (next sector)) :
      Always p (read block next)
  | write (block : Nat) (data : Sector) {next : Transfer α} (h : Always p next) :
      Always p (write block data next)

variable {p q : α → Prop} {x : Transfer α}

/-- What always holds of an answer holds of that of a run. -/
theorem Always.of_run {δ : Type} [BlockDevice δ] {device device' : δ} {a : α} (h : x.Always p)
    (hrun : x.run device = (.ok a, device')) : p a := by
  induction h generalizing device with
  | done h =>
    cases hrun
    exact h
  | fault cause => cases hrun
  | read block _ ih =>
    rw [run] at hrun
    split at hrun
    · next sector _ => exact ih sector hrun
    · cases hrun
  | write block data _ ih =>
    rw [run] at hrun
    split at hrun
    · exact ih hrun
    · cases hrun

theorem Always.mono (h : x.Always p) (himp : ∀ a, p a → q a) : x.Always q := by
  induction h with
  | done h => exact .done (himp _ h)
  | fault cause => exact .fault cause
  | read block _ ih => exact .read block ih
  | write block data _ ih => exact .write block data ih

theorem Always.and (h : x.Always p) (h' : x.Always q) : x.Always fun a => p a ∧ q a := by
  induction h with
  | done h =>
    cases h' with
    | done h' => exact .done ⟨h, h'⟩
  | fault cause => exact .fault cause
  | read block _ ih =>
    cases h' with
    | read _ h' => exact .read block fun sector => ih sector (h' sector)
  | write block data _ ih =>
    cases h' with
    | write _ _ h' => exact .write block data (ih h')

/-- An answer that is at hand is the only one. -/
theorem always_pure {a : α} (h : p a) : (pure a : Transfer α).Always p :=
  .done h

theorem always_true (x : Transfer α) : x.Always fun _ => True := by
  induction x with
  | done a => exact .done trivial
  | fault cause => exact .fault cause
  | read block next ih => exact .read block ih
  | write block data next ih => exact .write block data ih

/-- What follows a transfer may rely on what the transfer always answers. -/
theorem Always.bind {r : β → Prop} {f : α → Transfer β} (h : x.Always p)
    (hnext : ∀ a, p a → (f a).Always r) : (x >>= f).Always r := by
  show (x.bind f).Always r
  induction h with
  | done h => exact hnext _ h
  | fault cause => exact .fault cause
  | read block _ ih => exact .read block ih
  | write block data _ ih => exact .write block data ih

/-- What a transfer answers may be of no matter for what follows. -/
theorem always_bind {r : β → Prop} {f : α → Transfer β} (hnext : ∀ a, (f a).Always r) :
    (x >>= f).Always r :=
  (always_true x).bind fun a _ => hnext a

/-- What holds without the transfer holds of all its answers. -/
theorem always_of {p : Prop} (x : Transfer α) (h : p) : x.Always fun _ => p :=
  (always_true x).mono fun _ _ => h

/-- A step that needs no disk gives its own answer. -/
theorem always_liftM (y : Except Fault α) : (liftM y : Transfer α).Always fun a => y = .ok a := by
  cases y with
  | ok a => exact .done rfl
  | error cause => exact .fault cause

/-- A sum has been told where there is an answer. -/
theorem always_checkedAdd (a b : Nat) : (liftM (checkedAdd a b) : Transfer Nat).Always fun sum =>
    a + b < sumLimit ∧ sum = a + b :=
  (always_liftM _).mono fun _ hsum => checkedAdd_eq_ok_iff.1 hsum

/-- So it has where something follows. -/
theorem always_bind_checkedAdd {a b : Nat} {f : Nat → Transfer β} :
    ((liftM (checkedAdd a b) : Transfer Nat) >>= f).Always fun _ => a + b < sumLimit :=
  (always_checkedAdd a b).bind fun _ hsum => always_of _ hsum.1

/-! ## Transfers that may be refused -/

section Refused

variable {ε : Type} {x : ExceptT ε Transfer α} {f : α → ExceptT ε Transfer β} {r : β → Prop}

/-- All that the transfer can answer, unless it refuses, has the property. -/
def Grants (p : α → Prop) (x : ExceptT ε Transfer α) : Prop :=
  x.run.Always fun answer => ∀ a, answer = .ok a → p a

theorem grants_pure {a : α} (h : p a) : Grants (ε := ε) p (pure a) := by
  refine always_pure fun b hb => ?_
  rwa [← Except.ok.inj hb]

/-- A refusal grants nothing, so that anything holds of what it grants. -/
theorem grants_throw (cause : ε) : Grants p (throw cause : ExceptT ε Transfer α) :=
  always_pure nofun

/-- A step that needs no disk gives its own answer. -/
theorem grants_liftM (y : Except ε α) :
    Grants (fun a => y = .ok a) (liftM y : ExceptT ε Transfer α) := by
  cases y with
  | ok a => exact grants_pure rfl
  | error cause => exact grants_throw cause

theorem Grants.mono (h : Grants p x) (himp : ∀ a, p a → q a) : Grants q x :=
  Always.mono h fun _ hanswer a ha => himp a (hanswer a ha)

theorem Grants.and (h : Grants p x) (h' : Grants q x) : Grants (fun a => p a ∧ q a) x :=
  (Always.and h h').mono fun _ hboth a ha => ⟨hboth.1 a ha, hboth.2 a ha⟩

/-- After a refusal nothing follows. -/
theorem Grants.bind (h : Grants p x) (hnext : ∀ a, p a → Grants r (f a)) : Grants r (x >>= f) := by
  rw [Grants, ExceptT.run_bind]
  refine Always.bind h ?_
  intro answer hanswer
  cases answer with
  | ok a => exact hnext a (hanswer a rfl)
  | error cause => exact always_pure nofun

/-- What was granted may be of no matter for what follows. -/
theorem grants_bind (hnext : ∀ a, Grants r (f a)) : Grants r (x >>= f) :=
  Grants.bind ((always_true x.run).mono fun _ _ _ _ => trivial) fun a (_ : True) => hnext a

/-- All reasons for which the transfer can refuse have the property. -/
def Refuses (p : ε → Prop) (x : ExceptT ε Transfer α) : Prop :=
  x.run.Always fun answer => ∀ cause, answer = .error cause → p cause

variable {q : ε → Prop}

/-- What is granted is not refused. -/
theorem refuses_pure (a : α) : Refuses q (pure a : ExceptT ε Transfer α) :=
  always_pure nofun

/-- A refusal is for its own cause. -/
theorem refuses_throw {cause : ε} (h : q cause) :
    Refuses q (throw cause : ExceptT ε Transfer α) := by
  refine always_pure fun cause' hcause => ?_
  rwa [← Except.error.inj hcause]

/-- A transfer that cannot refuse has no reason to. -/
theorem refuses_lift (y : Transfer α) : Refuses q (liftM y : ExceptT ε Transfer α) :=
  always_bind fun _ => always_pure nofun

/-- A step that needs no disk has its own reason. -/
theorem refuses_liftM {y : Except ε α} (h : ∀ cause, y = .error cause → q cause) :
    Refuses q (liftM y : ExceptT ε Transfer α) := by
  cases y with
  | ok a => exact refuses_pure a
  | error cause => exact refuses_throw (h cause rfl)

theorem Refuses.mono {q' : ε → Prop} (h : Refuses q x) (himp : ∀ cause, q cause → q' cause) :
    Refuses q' x :=
  Always.mono h fun _ hanswer cause hcause => himp cause (hanswer cause hcause)

/-- The first refusal is that of the whole. -/
theorem Refuses.bind (h : Refuses q x) (hnext : ∀ a, Refuses q (f a)) : Refuses q (x >>= f) := by
  rw [Refuses, ExceptT.run_bind]
  refine Always.bind h ?_
  intro answer hanswer
  cases answer with
  | ok a => exact hnext a
  | error cause =>
    refine always_pure fun cause' hcause => hanswer cause' ?_
    rw [Except.error.inj hcause]

end Refused

end SectorStore.Transfer
