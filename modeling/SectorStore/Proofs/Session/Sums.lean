import SectorStore.Proofs.OpenFile
import SectorStore.Proofs.Pipe.Ring
import SectorStore.Proofs.Session.Lasting

/-!
# Sums of requests

Where a request adds an offset or a position and a length, or makes the ring of a pipe, the sum has
to be below the limit (`SumsFit`). A request that has an answer has told its sums
(`sumsFit_of_run`), so only whether the next request runs through depends on them.

The sums that are made on the way through a pipe fit by themselves, as its head and its tail stay in
a ring that is as small as files are (`AllHave.inRing_of_run`).
-/

namespace SectorStore.Session

open Transfer (always_of)

variable {session session' : Session} {request : Request} {answer : Answer} {slot : Slot}

/-- The sums that the request makes of offsets, positions, lengths and sizes are below the limit. -/
def SumsFit (session : Session) : Request → Prop
  | .readAt slot offset data | .writeAt slot offset data =>
    ∀ file volume, session.fileIn? slot = some (file, volume) → offset + data.length < sumLimit
  | .read slot data | .write slot data =>
    ∀ file volume, session.fileIn? slot = some (file, volume) →
      file.item.position + data.length < sumLimit
  | .makePipe slot _ size =>
    ∀ number volume, session.volumeIn? slot = some (number, volume) → size + 1 < sumLimit
  | _ => True

/-- The request makes a sum that does not fit and ends with that, with the device as it was. -/
def Overflows {δ : Type} [BlockDevice δ] (session : Session) (device : δ) (request : Request) :
    Prop :=
  ¬ session.SumsFit request ∧ (session.perform request).run device = (.error .sumTooLarge, device)

/-! ## Requests that have an answer -/

theorem always_onFile_of {act : Attached OpenFile → Volume → Transfer (Answer × Session)}
    {fits : Attached OpenFile → Prop}
    (hact : ∀ file volume, session.fileIn? slot = some (file, volume) →
      (act file volume).Always fun _ => fits file) :
    (session.onFile slot act).Always fun _ =>
      ∀ file volume, session.fileIn? slot = some (file, volume) → fits file := by
  rw [onFile]
  rcases hin : session.fileIn? slot with _ | ⟨file, volume⟩
  · refine always_of _ ?_
    rintro _ _ ⟨⟩
  · refine (hact file volume hin).mono ?_
    rintro _ hfits _ _ ⟨⟩
    exact hfits

theorem always_makePipe_fits (session : Session) (slot pipeSlot : Slot) (size : Nat) :
    (session.makePipe slot pipeSlot size).Always fun _ =>
      ∀ number volume, session.volumeIn? slot = some (number, volume) → size + 1 < sumLimit := by
  rw [makePipe, onVolume]
  rcases session.volumeIn? slot with _ | ⟨number, volume⟩
  · refine always_of _ ?_
    rintro _ _ ⟨⟩
  have hmake : (Pipe.make volume session.nextPipe size).Always fun _ => size + 1 < sumLimit := by
    rw [Pipe.make]
    split
    · next hzero =>
      subst hzero
      exact always_of _ (by decide)
    · exact Transfer.always_bind_checkedAdd
  exact hmake.bind fun _ hsum => always_of _ fun _ _ _ => hsum

/-- A request that has an answer has told its sums. -/
theorem sumsFit_of_run {δ : Type} [BlockDevice δ] {device device' : δ}
    (hrun : (session.perform request).run device = (.ok (answer, session'), device')) :
    session.SumsFit request := by
  have halways : (session.perform request).Always fun _ => session.SumsFit request := by
    cases request with
    | readAt slot offset buffer =>
      exact always_onFile_of fun file volume _ =>
        (file.item.always_readAt_fits offset buffer).bind fun _ hsum => always_of _ hsum
    | read slot buffer =>
      refine always_onFile_of fun file volume _ => ?_
      rw [OpenFile.read, bind_assoc]
      exact (file.item.always_readAt_fits _ buffer).bind fun _ hsum => always_of _ hsum
    | writeAt slot offset data =>
      exact always_onFile_of fun file volume _ =>
        (file.item.always_writeAt_fits volume offset data).bind fun _ hsum => always_of _ hsum
    | write slot data =>
      refine always_onFile_of fun file volume _ => ?_
      rw [OpenFile.write, bind_assoc]
      exact (file.item.always_writeAt_fits volume _ data).bind fun _ hsum => always_of _ hsum
    | makePipe slot pipeSlot size => exact session.always_makePipe_fits slot pipeSlot size
    | _ => exact always_of _ trivial
  exact halways.of_run hrun

/-! ## Pipes keep to their rings -/

/-- Head and tail of a pipe stay in its ring, whatever the disk holds. -/
theorem lasting_inRing : Lasting (fun _ => True) (fun _ => True) Pipe.InRing where
  format _ := (Transfer.always_true _).mono fun _ _ _ _ => trivial
  withClock _ _ _ := trivial
  create _ _ _ _ _ := (Transfer.always_true _).mono fun _ _ _ _ => trivial
  remove _ _ _ := (Transfer.always_true _).mono fun _ _ _ _ => trivial
  writeAt _ _ _ _ _ := Transfer.always_true _
  fileName _ _ := trivial
  newPipe _ _ size hsize := ⟨Nat.succ_pos size, Nat.succ_pos size, hsize⟩
  moveHead _ _ h := h.withHead _
  moveTail _ _ h := h.withTail _

theorem AllHave.inRing_of_run {δ : Type} [BlockDevice δ] {device device' : δ}
    (h : session.AllHave (fun _ => True) Pipe.InRing)
    (hrun : (session.perform request).run device = (.ok (answer, session'), device')) :
    session'.AllHave (fun _ => True) Pipe.InRing :=
  (lasting_inRing.perform h request (fun _ _ _ _ => trivial)
    fun _ _ _ => Transfer.always_true _).of_run hrun

end SectorStore.Session
