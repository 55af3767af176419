import SectorStore.Proofs.Device.Tracking
import SectorStore.Proofs.Session.Asking

/-!
# Sessions on one device or the other

A session cannot tell a memory disk from an image file as long as it asks only for blocks that there
are. Both keep up with the same disk, so each request is answered alike and ends in the same fault
where it ends in one (`transcript_eq`), and the bytes of both stay those of the disk
(`interchangeable`).
-/

namespace SectorStore

open Transfer

namespace Session

variable {δ : Type} [BlockDevice δ]

/-- What comes of each of the requests, carried out one after another: an answer, or the fault that
ends the session. -/
def transcript (session : Session) (device : δ) : List Request → List (Except Fault Answer)
  | [] => []
  | request :: others =>
    match (session.perform request).run device with
    | (.ok (answer, session), device) => .ok answer :: session.transcript device others
    | (.error cause, _) => [.error cause]

/-- The first request asks for blocks, and then the others do. -/
theorem asked_performAll_cons (session : Session) (request : Request) (others : List Request)
    (device : δ) : (session.performAll (request :: others)).asked device =
      (session.perform request).asked device ++
        match (session.perform request).run device with
        | (.ok (_, session), device) => (session.performAll others).asked device
        | (.error _, _) => [] := by
  rw [performAll, asked_bind]
  rcases (session.perform request).run device with ⟨cause | ⟨answer, session'⟩, device'⟩
  · rfl
  · dsimp only
    rw [asked_bind]
    -- the answers are put together without asking for anything
    split <;> simp [asked, pure]

/-- A session that asks for sectors of the disk only does the same on a device that keeps up with
the disk, request by request. -/
theorem transcript_eq {holds : δ → Disk → Prop} (htracks : Tracks holds) (session : Session)
    {device : δ} {disk : Disk} (hholds : holds device disk) (requests : List Request)
    (hbelow : ∀ block ∈ (session.performAll requests).asked disk, block < disk.count) :
    session.transcript device requests = session.transcript disk requests := by
  induction requests generalizing session device disk with
  | nil => rfl
  | cons request others ih =>
    -- the first request keeps to the disk, and the others do on the disk that it leaves
    rw [asked_performAll_cons, List.forall_mem_append] at hbelow
    obtain ⟨hfirst, hothers⟩ := hbelow
    have hplay := htracks.play (session.asksSectors_perform request) hholds (.inr hfirst)
    have hanswer := hplay.answer_eq
    have hholds' := hplay.holds
    have hcount := (session.perform request).count_run disk
    rw [transcript, transcript]
    rcases hrun : (session.perform request).run device with ⟨answer, device'⟩
    rcases hrun' : (session.perform request).run disk with ⟨cause | ⟨answer', session'⟩, disk'⟩
    · -- a fault ends both
      rw [hrun, hrun'] at hanswer
      obtain rfl : answer = .error cause := hanswer
      rfl
    · rw [hrun'] at hothers hcount
      rw [hrun, hrun'] at hanswer hholds'
      obtain rfl : answer = .ok (answer', session') := hanswer
      exact congrArg (Except.ok answer' :: ·) (ih session' hholds' (hcount ▸ hothers))

/-- A session on a memory disk of `n` blocks and on an image file of the zero bytes of `n` sectors,
that asks on one of them for no other blocks, does the same on both: every request is answered alike
or ends in the same fault, the same blocks are asked for, and what is read and written is the same.
Every read finds what was written last to its block, zeros if nothing was, and so do the bytes of
both devices at the end, also after a fault. -/
theorem interchangeable (n : Nat) (requests : List Request) {file : ImageFile}
    (hzeros : file.toBytes = List.replicate (n * sectorSize) 0)
    (hbelow :
      (∀ block ∈ (start.performAll requests).asked (RamDisk.zeroed n sectorSize), block < n) ∨
      ∀ block ∈ (start.performAll requests).asked file, block < n) :
    let ram := RamDisk.zeroed n sectorSize
    let play := start.performAll requests
    start.transcript ram requests = start.transcript file requests ∧
      (play.run ram).1 = (play.run file).1 ∧
      play.asked ram = play.asked file ∧
      play.accesses ram = play.accesses file ∧
      ReadsLastWrites (fun _ => Sector.zero) (play.accesses ram) ∧
      (play.run ram).2.toBytes = (play.run file).2.toBytes ∧
      (play.run file).2.toBytes.length = n * sectorSize ∧
      (play.run ram).2.toBytes = (List.range n).flatMap fun block =>
        ((lastWrite? block (play.accesses ram)).getD Sector.zero).toList := by
  intro ram play
  let disk : Disk := ⟨n, fun _ => Sector.zero⟩
  have hasks : play.AsksSectors := start.asksSectors_performAll requests
  have hram : ram.Holds disk := RamDisk.holds_zeroed n
  have hfile : file.Holds disk := ImageFile.holds_of_zeros hzeros
  -- what is known of one of the devices is known of the disk, and then of both
  have hdisk : ∀ block ∈ play.asked disk, block < n := by
    rcases hbelow with hbelow | hbelow
    · exact (RamDisk.tracks.play hasks hram (.inl hbelow)).asked_eq ▸ hbelow
    · exact (ImageFile.tracks.play hasks hfile (.inl hbelow)).asked_eq ▸ hbelow
  have hplay := RamDisk.tracks.play hasks hram (.inr hdisk)
  have hplay' := ImageFile.tracks.play hasks hfile (.inr hdisk)
  have hbytes := hplay.holds.toBytes_eq
  have hbytes' := hplay'.holds.toBytes_eq
  have hcount : (play.run disk).2.count = n := play.count_run disk
  refine ⟨?_, hplay.answer_eq.trans hplay'.answer_eq.symm,
    hplay.asked_eq.trans hplay'.asked_eq.symm, hplay.accesses_eq.trans hplay'.accesses_eq.symm,
    ?_, hbytes.trans hbytes'.symm, ?_, ?_⟩
  · rw [transcript_eq RamDisk.tracks start hram requests hdisk,
      transcript_eq ImageFile.tracks start hfile requests hdisk]
  · rw [hplay.accesses_eq]
    exact play.readsLastWrites_accesses disk
  · rw [hbytes', Disk.length_toBytes, hcount]
  · rw [hbytes, Disk.toBytes, hcount, hplay.accesses_eq]
    exact List.flatMap_congr fun block _ => by rw [play.sector_run disk block]

/-- Requests for a volume of 20 sectors: a file is made, written and read, a pipe takes some bytes
and gives one back, the file is removed through another volume, and a volume is asked for that has
no room for its own headers. -/
def shortSession : List Request :=
  [.format 0 20, .create 0 "a" 200, .openFile 0 0 "a", .writeAt 0 1 [1, 2, 3], .read 0 [9, 9],
    .makePipe 0 0 5, .stepPipe 0 (.write [4, 5]), .stepPipe 0 (.read [9]), .mount 1 20,
    .remove 1 "a", .openFile 1 1 "a", .format 2 1]

/-- Twenty sectors, held in memory or as a file that is one hole. -/
theorem interchangeable_shortSession :
    (ImageFile.empty.resize 20).toBytes = List.replicate (20 * sectorSize) 0 ∧
      (∀ block ∈ (start.performAll shortSession).asked (RamDisk.zeroed 20 sectorSize),
        block < 20) ∧
      start.transcript (ImageFile.empty.resize 20) shortSession =
        [.ok .done, .ok .done, .ok .done, .ok (.count 3), .ok (.filled ⟨2, [0, 1]⟩),
          .ok (.text "__pipe_6_0__"), .ok (.stepped (.wrote 2)),
          .ok (.stepped (.filled ⟨1, [4]⟩)), .ok .done, .ok .done, .ok (.refused .notFound),
          .error (.outOfBitmapRange 1)] := by
  have hzeros : (ImageFile.empty.resize 20).toBytes = List.replicate (20 * sectorSize) 0 := by
    decide +kernel
  have hbelow : ∀ block ∈ (start.performAll shortSession).asked (RamDisk.zeroed 20 sectorSize),
      block < 20 := by decide +kernel
  have hsame := interchangeable 20 shortSession hzeros (.inl hbelow)
  refine ⟨hzeros, hbelow, hsame.1.symm.trans ?_⟩
  decide +kernel

end Session

end SectorStore
