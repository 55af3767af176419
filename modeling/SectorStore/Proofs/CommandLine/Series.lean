import SectorStore.Proofs.CommandLine.Commands
import SectorStore.Host.PlainDirectory
import SectorStore.Proofs.Device.Image

/-!
# Series of runs of the command line

`Series place numSectors admits archive₀ host₀ archive host` follows the host from run to run on the
image at one place, all of the same size, together with the archive of what is stored. Between the
runs the host may change in any way that leaves the image alone.

After the image was laid out the command line is `Faithful`: what was copied in is printed by every
later run that asks for it, as long as no run removes it or lays out the image, the names are those
of what is stored, and a run that fails or only looks changes no byte of the image.
-/

namespace SectorStore

open CommandLine (Command Invocation Outcome run openImage)

/-! ## The image on the host -/

namespace Host

/-- The path leads to the place, whatever files there are and whatever the path is for. -/
def Leads (host : Host) (path place : String) : Prop :=
  ∀ isFile access, host.locate isFile access path = .ok place

/-- The bytes of the file to which a path leads. -/
def read (host : Host) (path : String) : Except PathFault Bytes :=
  (host.file path).map ImageFile.toBytes

/-- The bytes of the file at a place. -/
def bytesAt? (host : Host) (place : String) : Option Bytes :=
  host.files[place]?.map ImageFile.toBytes

/-- The image at the place holds a volume with the files of the archive. -/
def Holds (host : Host) (place : String) (archive : Archive) : Prop :=
  ∃ image, host.files[place]? = some image ∧ image.HasSize archive.size ∧
    archive.OnDisk (Disk.image image archive.size)

variable {host : Host} {path place : String} {image : ImageFile}

/-- The image at the end of a path is the one at its place. -/
theorem file_eq (hleads : host.Leads path place) (himage : host.files[place]? = some image) :
    host.file path = .ok image := by
  rw [file, Host.place, hleads]
  simp only [bind, Except.bind, himage]
  rfl

/-- What is put at the end of a path is put at its place. -/
theorem put_eq (hleads : host.Leads path place) (image : ImageFile) :
    host.put path image = { host with files := host.files.insert place image } := by
  rw [put, Host.place, hleads]

theorem getElem?_put (hleads : host.Leads path place) (image : ImageFile) :
    (host.put path image).files[place]? = some image := by
  rw [put_eq hleads]
  exact Std.TreeMap.getElem?_insert_self

/-- A path leads to the same place when something was put there. -/
theorem leads_put (hleads : host.Leads path place) (image : ImageFile) :
    (host.put path image).Leads path place := by
  rw [put_eq hleads]
  exact hleads

/-- Where a file is replaced by one of the same bytes, no path leads to other bytes than before. -/
theorem read_put {image' : ImageFile} (hleads : host.Leads path place)
    (himage : host.files[place]? = some image) (hbytes : image'.toBytes = image.toBytes) :
    (host.put path image').read = host.read := by
  funext other
  have hmem : place ∈ host.files := by
    rw [← Std.TreeMap.isSome_getElem?_iff_mem, himage, Option.isSome_some]
  have hcontains : ((host.files.insert place image').contains ·) = (host.files.contains ·) := by
    funext key
    rw [Std.TreeMap.contains_insert]
    by_cases hkey : compare place key = .eq
    · obtain rfl := Std.LawfulEqCmp.eq_of_compare hkey
      simp [Std.TreeMap.contains_iff_mem.2 hmem]
    · simp [hkey]
  rw [read, read, file, file, Host.place, Host.place, put_eq hleads, hcontains]
  rcases host.locate (host.files.contains ·) .existing other with cause | found
  · rfl
  simp only [bind, Except.bind, Std.TreeMap.getElem?_insert]
  by_cases hfound : compare place found = .eq
  · obtain rfl := Std.LawfulEqCmp.eq_of_compare hfound
    rw [if_pos hfound, himage]
    exact congrArg Except.ok hbytes
  · rw [if_neg hfound]

end Host

/-! ## One run -/

namespace CommandLine

variable {host host' : Host} {place path : String} {archive archive' : Archive} {command : Command}
  {numSectors : Nat} {clock : Clock} {outcome : Outcome}

/-- What is stored after a command: a command that fails leaves things as they are. -/
def Command.after (command : Command) (archive : Archive) (host : Host) : Archive :=
  match command.act archive host.read with
  | .ok (_, archive') => archive'
  | .error _ => archive

/-- How a run ends on an image that holds an archive, and what becomes of the image. -/
def Carried (place : String) (archive : Archive) (host : Host) (command : Command)
    (outcome : Outcome) (host' : Host) : Prop :=
  match command.act archive host.read with
  | .error cause => outcome = .failed cause ∧ host'.Holds place archive ∧
      host'.bytesAt? place = host.bytesAt? place
  | .ok (printed, archive') =>
    (∃ output, outcome = .finished output ∧ ∀ expected ∈ printed, output = expected) ∧
      host'.Holds place archive' ∧ archive'.size = archive.size ∧
      (command.OnlyLooks → host'.bytesAt? place = host.bytesAt? place)

/-- A command that the archive refuses has failed and changed nothing. -/
theorem Carried.of_error {cause : Failure} (h : Carried place archive host command outcome host')
    (hact : command.act archive host.read = .error cause) :
    outcome = .failed cause ∧ host'.Holds place archive ∧
      host'.bytesAt? place = host.bytesAt? place := by
  rw [Carried, hact] at h
  exact h

/-- A command that the archive carries out has printed what it prints, and the image holds what
comes of it. -/
theorem Carried.of_ok {printed : Option Bytes}
    (h : Carried place archive host command outcome host')
    (hact : command.act archive host.read = .ok (printed, archive')) :
    (∃ output, outcome = .finished output ∧ ∀ expected ∈ printed, output = expected) ∧
      host'.Holds place archive' ∧ archive'.size = archive.size ∧
      (command.OnlyLooks → host'.bytesAt? place = host.bytesAt? place) := by
  rw [Carried, hact] at h
  exact h

/-- A run on an image that holds an archive, told by what its command does with the archive. -/
theorem carried_of_run (h : host.Holds place archive) (hleads : host.Leads path place)
    (hformat : command ≠ .format) (hplain : command.IsPlain)
    (hrun : Invocation.run ⟨path, archive.size, command⟩ clock host = (outcome, host')) :
    Carried place archive host command outcome host' := by
  obtain ⟨old, hold, hsize, hdisk⟩ := h
  obtain ⟨hsize₁, himage₁⟩ := hsize.resize
  let image := old.resize archive.size
  have hopen : openImage ⟨path, archive.size, command⟩ host = .ok image := by
    rw [openImage, if_neg hformat, Host.file_eq hleads hold]
    rfl
  have hbytes : image.toBytes = old.toBytes := hsize.toBytes_congr hsize₁ himage₁
  have hread : (host.put path image).read = host.read := Host.read_put hleads hold hbytes
  have hdisk₁ : archive.OnDisk (Disk.image image archive.size) := himage₁ ▸ hdisk
  obtain ⟨answer, image', htransfer, hsize', houtcome⟩ := hsize₁.exists_run
    (hdisk₁.yields_transfer hformat hplain clock host.read)
  rw [← hread, show (host.put path image).read =
    fun other => ((host.put path image).file other).map ImageFile.toBytes from rfl] at htransfer
  rw [Invocation.run, hopen] at hrun
  dsimp only at hrun
  rw [htransfer, Prod.mk.injEq] at hrun
  obtain ⟨rfl, rfl⟩ := hrun
  -- the image is put back into its place
  have hleads₁ := Host.leads_put hleads image
  have hplace := Host.getElem?_put hleads₁ image'
  have hkept : Disk.image image' archive.size = Disk.image image archive.size →
      ((host.put path image).put path image').bytesAt? place = host.bytesAt? place := by
    intro hsame
    rw [Host.bytesAt?, Host.bytesAt?, hplace, hold, Option.map_some, Option.map_some,
      hsize₁.toBytes_congr hsize' hsame, hbytes]
  rw [Carried]
  rcases hact : command.act archive host.read with cause | ⟨printed, archive'⟩
  · rw [hact] at houtcome
    obtain ⟨rfl, hsame⟩ := houtcome
    exact ⟨rfl, ⟨image', hplace, hsize', hsame ▸ hdisk₁⟩, hkept hsame⟩
  · rw [hact] at houtcome
    obtain ⟨⟨output, rfl, hprinted⟩, hdisk', hsizes, hlooks⟩ := houtcome
    refine ⟨⟨output, rfl, hprinted⟩, ⟨image', hplace, ?_⟩, hsizes,
      fun honly => hkept (hlooks honly)⟩
    rw [hsizes]
    exact ⟨hsize', hdisk'⟩

/-- Only a volume whose free map fits into a file is laid out. -/
theorem grants_format_fits (numSectors : Nat) : Transfer.Grants
    (fun _ => sectorsFor (FreeMap.bytesFor numSectors) ≤ maxSectors)
    (Volume.format numSectors) := by
  by_cases hmax : maxSectors < sectorsFor (FreeMap.bytesFor numSectors)
  · rw [Volume.format]
    refine Transfer.grants_bind fun map => Transfer.grants_bind fun map => ?_
    rw [FileHeader.allocate_eq_fileTooLarge hmax]
    exact (Transfer.grants_throw (p := fun _ => False) _).bind fun _ => False.elim
  · exact Transfer.Grants.mono ((Transfer.always_true _).mono fun _ _ _ _ => trivial)
      fun _ (_ : True) => Nat.le_of_not_lt hmax

/-- An image that was laid out holds the archive without files. -/
theorem onDisk_of_format {volume : Volume} {image : ImageFile}
    (hrun : (Volume.format numSectors).run.run (ImageFile.empty.resize numSectors) =
      (.ok (.ok volume), image)) :
    image.HasSize numSectors ∧ (Archive.empty numSectors).OnDisk (Disk.image image numSectors) := by
  -- the run went through, so that the image has room for the headers of the tables
  have hheaders : 2 ≤ numSectors := by
    by_contra hlt
    rw [Volume.run_format_of_lt _ (Nat.lt_of_not_le hlt)] at hrun
    cases hrun
  have hfits : sectorsFor (FreeMap.bytesFor numSectors) ≤ maxSectors :=
    (grants_format_fits numSectors).of_run hrun volume rfl
  have hsize : (ImageFile.empty.resize numSectors).HasSize numSectors := by
    refine ImageFile.hasSize_of_le rfl ?_
    rw [maxSectors_eq, sectorsFor, sectorSize_eq, FreeMap.bytesFor] at hfits
    rw [ImageFile.placeLimit, UInt64.size, sectorSize_eq]
    omega
  have hcount : numSectors ≤ (Disk.image (ImageFile.empty.resize numSectors) numSectors).count :=
    Nat.le_refl _
  obtain ⟨answer, image', hrun', hsize', houtcome⟩ := hsize.exists_run
    (Volume.yields_format hcount hheaders)
  rw [hrun] at hrun'
  cases hrun'
  refine ⟨hsize', ?_⟩
  rcases hrefusal : Volume.formatRefusal? numSectors with _ | cause
  · rw [hrefusal] at houtcome
    obtain ⟨volume, -, hformatted⟩ := houtcome
    exact Archive.onDisk_empty hformatted
  · rw [hrefusal] at houtcome
    cases houtcome

/-- A run that lays out the image does so on an empty file, whatever was there before. -/
theorem run_format (hleads : host.Leads path place)
    (hrun : Invocation.run ⟨path, numSectors, .format⟩ clock host = (outcome, host')) :
    ∃ answer image,
      (Volume.format numSectors).run.run (ImageFile.empty.resize numSectors) = (answer, image) ∧
      host'.files[place]? = some image ∧
      ((∃ volume, answer = .ok (.ok volume)) ∧ outcome = .finished [] ∨
        (∀ volume, answer ≠ .ok (.ok volume)) ∧ outcome.exitCode ≠ 0) := by
  have hopen : openImage ⟨path, numSectors, .format⟩ host =
      .ok (ImageFile.empty.resize numSectors) := by
    rw [openImage, if_pos rfl, Host.place, hleads]
    rfl
  have hleads₁ := Host.leads_put hleads (ImageFile.empty.resize numSectors)
  rw [Invocation.run, hopen] at hrun
  simp only [Command.transfer, ExceptT.run_bind, Transfer.run_bind, ExceptT.run_adapt] at hrun
  rcases hformat : (Volume.format numSectors).run.run (ImageFile.empty.resize numSectors) with
    ⟨answer, image⟩
  simp only [map_eq_pure_bind, Transfer.run_bind, hformat] at hrun
  have hplace := Host.getElem?_put hleads₁ image
  refine ⟨answer, image, rfl, ?_⟩
  -- a fault of the image, a refusal, or a volume
  rcases answer with fault | cause | volume
  · cases hrun
    refine ⟨hplace, .inr ⟨?_, Nat.succ_ne_zero _⟩⟩
    rintro volume ⟨⟩
  · cases hrun
    refine ⟨hplace, .inr ⟨?_, Nat.succ_ne_zero _⟩⟩
    rintro volume ⟨⟩
  · cases hrun
    exact ⟨hplace, .inl ⟨⟨volume, rfl⟩, rfl⟩⟩

/-! ## Runs one after another -/

/-- A run of the command line on the image at a place, as one of `numSectors` sectors: what it was
told to do, how it ended and what became of the host. No zero byte is in the name of a new file. -/
def RunsOn (place : String) (numSectors : Nat) (host : Host) (command : Command)
    (outcome : Outcome) (host' : Host) : Prop :=
  command.IsPlain ∧ ∃ path clock, host.Leads path place ∧
    Invocation.run ⟨path, numSectors, command⟩ clock host = (outcome, host')

/-- The host and what is stored after any number of runs, all of commands that are admitted. -/
inductive Series (place : String) (numSectors : Nat) (admits : Command → Prop)
    (archive₀ : Archive) (host₀ : Host) : Archive → Host → Prop
  /-- There was no run yet. -/
  | start : Series place numSectors admits archive₀ host₀ archive₀ host₀
  /-- There was one more run. -/
  | next {archive : Archive} {host host' : Host} {command : Command} {outcome : Outcome}
      (h : Series place numSectors admits archive₀ host₀ archive host) (hadmits : admits command)
      (hrun : RunsOn place numSectors host command outcome host') :
      Series place numSectors admits archive₀ host₀ (command.after archive host) host'
  /-- Something else happened on the host. -/
  | elsewhere {archive : Archive} {host host' : Host}
      (h : Series place numSectors admits archive₀ host₀ archive host)
      (hsame : host'.files[place]? = host.files[place]?) :
      Series place numSectors admits archive₀ host₀ archive host'

/-- The command line does with an image what is expected of it. -/
structure Faithful (place : String) (numSectors : Nat) (archive : Archive) (host : Host) :
    Prop where
  /-- A file that was copied in is printed by every later run that asks for it, with the bytes that
  it had when it was copied, until a run removes it or lays out the image. -/
  copied : ∀ {source name outcome host₁},
    RunsOn place numSectors host (.copyIn source name) outcome host₁ → outcome.exitCode = 0 →
      ∃ data, host.read source = .ok data ∧ ∀ {archive₂ host₂ outcome₂ host₃},
        Series place numSectors (fun command => command ≠ .format ∧ command ≠ .remove name)
          ((Command.copyIn source name).after archive host) host₁ archive₂ host₂ →
        RunsOn place numSectors host₂ (.show name) outcome₂ host₃ → outcome₂ = .finished data
  /-- What is stored is printed, and nothing else. -/
  shown : ∀ {name outcome host₁}, RunsOn place numSectors host (.show name) outcome host₁ →
    outcome = match archive.bytes? name with
      | some bytes => .finished bytes
      | none => .failed (.refused .notFound)
  /-- The names of what is stored are printed in order. -/
  names : ∀ {outcome host₁}, RunsOn place numSectors host .names outcome host₁ →
    outcome = .finished
      (archive.names.flatMap fun name => Utf8.encode name ++ Utf8.encode "\n")
  /-- A run that fails or only looks changes no byte of the image. -/
  kept : ∀ {command outcome host₁}, RunsOn place numSectors host command outcome host₁ →
    outcome.exitCode ≠ 0 ∨ command.OnlyLooks →
      ∃ bytes, host.bytesAt? place = some bytes ∧ host₁.bytesAt? place = some bytes

namespace RunsOn

/-- Arguments that make sense are for such a run. -/
theorem of_arguments {arguments : List String} (hplain : command.IsPlain)
    (harguments : Invocation.ofArguments? arguments = some ⟨path, numSectors, command⟩)
    (hleads : host.Leads path place) (hrun : run arguments clock host = (outcome, host')) :
    RunsOn place numSectors host command outcome host' := by
  rw [run, harguments] at hrun
  exact ⟨hplain, path, clock, hleads, hrun⟩

/-- A run other than one that lays out the image. -/
theorem carried (h : RunsOn place numSectors host command outcome host')
    (hholds : host.Holds place archive) (hsize : archive.size = numSectors)
    (hformat : command ≠ .format) : Carried place archive host command outcome host' := by
  obtain ⟨hplain, path, clock, hleads, hrun⟩ := h
  subst hsize
  exact carried_of_run hholds hleads hformat hplain hrun

/-- A run that lays out the image. -/
theorem format (h : RunsOn place numSectors host .format outcome host') :
    ∃ answer image,
      (Volume.format numSectors).run.run (ImageFile.empty.resize numSectors) = (answer, image) ∧
      host'.files[place]? = some image ∧
      ((∃ volume, answer = .ok (.ok volume)) ∧ outcome = .finished [] ∨
        (∀ volume, answer ≠ .ok (.ok volume)) ∧ outcome.exitCode ≠ 0) := by
  obtain ⟨-, path, clock, hleads, hrun⟩ := h
  exact run_format hleads hrun

/-- Where the image was laid out once, it is laid out every time. -/
theorem holds_of_format {host₀ host₁ : Host} {outcome₀ : Outcome}
    (h₀ : RunsOn place numSectors host₀ .format outcome₀ host₁) (hdone : outcome₀.exitCode = 0)
    (h : RunsOn place numSectors host .format outcome host') :
    outcome = .finished [] ∧ host'.Holds place (.empty numSectors) := by
  obtain ⟨answer, image, hanswer, -, houtcome₀⟩ := h₀.format
  obtain ⟨answer', image', hanswer', himage', houtcome⟩ := h.format
  rw [hanswer, Prod.mk.injEq] at hanswer'
  obtain ⟨rfl, rfl⟩ := hanswer'
  rcases houtcome₀ with ⟨⟨volume, rfl⟩, -⟩ | ⟨-, hfailed⟩
  · rcases houtcome with ⟨-, houtcome⟩ | ⟨hnone, -⟩
    · exact ⟨houtcome, image, himage', onDisk_of_format hanswer⟩
    · exact absurd rfl (hnone volume)
  · exact absurd hdone hfailed

end RunsOn

variable {archive₀ : Archive} {host₀ host₁ : Host} {outcome₀ : Outcome} {admits : Command → Prop}

/-- After every run the image holds what is stored. -/
theorem Series.holds (hformat : RunsOn place numSectors host₀ .format outcome₀ host₁)
    (hdone : outcome₀.exitCode = 0) {hostₛ : Host}
    (h : Series place numSectors admits archive₀ hostₛ archive host)
    (hholds : hostₛ.Holds place archive₀) (hsize : archive₀.size = numSectors) :
    host.Holds place archive ∧ archive.size = numSectors := by
  induction h with
  | start => exact ⟨hholds, hsize⟩
  | elsewhere h hsame ih =>
    obtain ⟨⟨image, himage, hvolume⟩, hsize⟩ := ih
    exact ⟨⟨image, hsame.trans himage, hvolume⟩, hsize⟩
  | @next archive host host' command outcome h _ hrun ih =>
    obtain ⟨hholds, hsize⟩ := ih
    by_cases hcommand : command = .format
    · subst hcommand
      have hempty := (hformat.holds_of_format hdone hrun).2
      rw [← hsize] at hempty
      exact ⟨hempty, hsize⟩
    · have hcarried := hrun.carried hholds hsize hcommand
      rw [Command.after]
      rcases hact : command.act archive host.read with cause | ⟨printed, archive'⟩
      · exact ⟨(hcarried.of_error hact).2.1, hsize⟩
      · obtain ⟨-, hholds', hsize', -⟩ := hcarried.of_ok hact
        exact ⟨hholds', hsize'.trans hsize⟩

/-- A command that neither removes a file nor lays out the image leaves the file as it is. -/
theorem Command.bytes?_after {name : String} {bytes : Bytes} (hformat : command ≠ .format)
    (hremove : command ≠ .remove name) (hbytes : archive.bytes? name = some bytes) :
    (command.after archive host).bytes? name = some bytes := by
  rw [Command.after]
  cases command with
  | format => exact absurd rfl hformat
  -- a file is stored under a new name only, and the files that there are stay
  | copyIn source other =>
    rw [Command.act]
    rcases host.read source with cause | data
    · exact hbytes
    dsimp only
    rcases hstore : archive.store other data with cause | archive'
    · exact hbytes
    · exact Archive.bytes?_store hstore hbytes
  | «show» other =>
    rw [Command.act]
    rcases archive.bytes? other with _ | _
    · exact hbytes
    · exact hbytes
  | names => exact hbytes
  | remove other =>
    rw [Command.act]
    rcases hindex : archive.indexOf? other with _ | i
    · exact hbytes
    · have hne : other ≠ name := fun heq => hremove (congrArg _ heq)
      exact (Archive.bytes?_removeFile hindex hne).trans hbytes
  | listing => exact hbytes

/-- A file stays as it is through any commands that do not remove it. -/
theorem Series.bytes?_eq {name : String} {bytes : Bytes}
    (h : Series place numSectors (fun command => command ≠ .format ∧ command ≠ .remove name)
      archive₀ host₀ archive host)
    (hbytes : archive₀.bytes? name = some bytes) : archive.bytes? name = some bytes := by
  induction h with
  | start => exact hbytes
  | next _ hadmits _ ih => exact Command.bytes?_after hadmits.1 hadmits.2 ih
  | elsewhere _ _ ih => exact ih

/-- What a run prints that asks for a file. -/
theorem RunsOn.shown {name : String} (h : RunsOn place numSectors host (.show name) outcome host')
    (hholds : host.Holds place archive) (hsize : archive.size = numSectors) :
    outcome = match archive.bytes? name with
      | some bytes => .finished bytes
      | none => .failed (.refused .notFound) := by
  have hcarried := h.carried hholds hsize nofun
  rcases hbytes : archive.bytes? name with _ | bytes
  · exact (hcarried.of_error (by rw [Command.act, hbytes])).1
  · obtain ⟨⟨output, rfl, hprinted⟩, -⟩ := hcarried.of_ok (by rw [Command.act, hbytes])
    rw [hprinted bytes rfl]

/-- A run that copies a file in and ends well has read the file and stored its bytes. -/
theorem RunsOn.stored {source name : String}
    (h : RunsOn place numSectors host (.copyIn source name) outcome host')
    (hholds : host.Holds place archive) (hsize : archive.size = numSectors)
    (hexit : outcome.exitCode = 0) :
    ∃ data, host.read source = .ok data ∧
      archive.store name data = .ok ((Command.copyIn source name).after archive host) := by
  have hcarried := h.carried hholds hsize nofun
  rcases hread : host.read source with cause | data
  · obtain ⟨rfl, -⟩ := hcarried.of_error (by rw [Command.act, hread])
    cases hexit
  rcases hstore : archive.store name data with cause | archive'
  · obtain ⟨rfl, -⟩ := hcarried.of_error (by simp only [Command.act, hread, hstore]; rfl)
    cases hexit
  refine ⟨data, rfl, ?_⟩
  simp only [Command.after, Command.act, hread, hstore]

/-- A run that fails or only looks leaves the bytes of the image as they are. -/
theorem RunsOn.kept (h : RunsOn place numSectors host command outcome host')
    (hholds : host.Holds place archive) (hsize : archive.size = numSectors)
    (hformat : command ≠ .format) (hcase : outcome.exitCode ≠ 0 ∨ command.OnlyLooks) :
    host'.bytesAt? place = host.bytesAt? place := by
  have hcarried := h.carried hholds hsize hformat
  rcases hact : command.act archive host.read with cause | ⟨printed, archive'⟩
  · exact (hcarried.of_error hact).2.2
  · obtain ⟨⟨output, rfl, -⟩, -, -, hlooks⟩ := hcarried.of_ok hact
    rcases hcase with hexit | honly
    · exact absurd rfl hexit
    · exact hlooks honly

/-- Once an image was laid out, the command line is faithful with it, whatever runs there were and
whatever else became of the host. -/
theorem Series.faithful (hformat : RunsOn place numSectors host₀ .format outcome₀ host₁)
    (hdone : outcome₀.exitCode = 0)
    (h : Series place numSectors (fun _ => True) (.empty numSectors) host₁ archive host) :
    Faithful place numSectors archive host := by
  have hholds₁ := (hformat.holds_of_format hdone hformat).2
  obtain ⟨hholds, hsize⟩ := h.holds hformat hdone hholds₁ rfl
  constructor
  case copied =>
    intro source name outcome host₁ hrun hexit
    obtain ⟨data, hread, hstore⟩ := hrun.stored hholds hsize hexit
    -- the copy is one more run of the series, so the image holds what it has stored
    obtain ⟨hholds', hsize'⟩ := (h.next trivial hrun).holds hformat hdone hholds₁ rfl
    refine ⟨data, hread, fun hseries hshow => ?_⟩
    obtain ⟨hholds₂, hsize₂⟩ := hseries.holds hformat hdone hholds' hsize'
    rw [hshow.shown hholds₂ hsize₂, hseries.bytes?_eq (Archive.bytes?_store_self hstore)]
  case shown => exact fun hrun => hrun.shown hholds hsize
  case names =>
    intro outcome host₁ hrun
    obtain ⟨⟨output, rfl, hprinted⟩, -⟩ := (hrun.carried hholds hsize (by rintro ⟨⟩)).of_ok rfl
    rw [hprinted _ rfl]
  case kept =>
    intro command outcome host₁ hrun hcase
    obtain ⟨image, himage, -⟩ := id hholds
    have hbytes : host.bytesAt? place = some image.toBytes := by
      rw [Host.bytesAt?, himage, Option.map_some]
    refine ⟨image.toBytes, hbytes, ?_⟩
    rw [← hbytes]
    by_cases hcommand : command = .format
    · -- laying out an image that was laid out before does not fail
      subst hcommand
      obtain ⟨rfl, -⟩ := hformat.holds_of_format hdone hrun
      rcases hcase with hexit | hlooks
      · exact absurd rfl hexit
      · exact hlooks.elim
    · exact hrun.kept hholds hsize hcommand hcase

/-- A plain directory with one file. -/
def singleFile (name : String) (data : Bytes) : Host :=
  { PlainDirectory.empty with
    files := PlainDirectory.empty.files.insert name (.ofBytes data) }

theorem leads_of_locate (hlocate : host.locate = PlainDirectory.locate)
    (h : PlainDirectory.locate (fun _ => false) .existing path = .ok place) :
    host.Leads path place := by
  intro isFile access
  rw [hlocate]
  exact PlainDirectory.locate_eq_ok_of_eq_ok h

/-- No command changes how paths are followed. -/
theorem locate_run (arguments : List String) (clock : Clock) (host : Host) :
    (run arguments clock host).2.locate = host.locate := by
  have hput : ∀ (host : Host) path image, (host.put path image).locate = host.locate := by
    intro host path image
    rw [Host.put]
    split <;> rfl
  rw [run]
  rcases Invocation.ofArguments? arguments with _ | invocation
  · rfl
  dsimp only
  rw [Invocation.run]
  rcases openImage invocation host with cause | image
  · rfl
  · exact (hput _ _ _).trans (hput _ _ _)

/-- A file of two bytes that is copied to an image of 20 sectors is printed as it was. -/
theorem Series.faithful_of_copy : ∃ (host₁ host₂ host₃ : Host)
    (outcome₁ outcome₂ outcome₃ : Outcome),
    run ["-i", "d", "-s", "20", "format"] .silent (singleFile "s" [104, 105]) = (outcome₁, host₁) ∧
    run ["-i", "d", "-s", "20", "cp", "s", "n"] .silent host₁ = (outcome₂, host₂) ∧
    run ["-i", "d", "-s", "20", "cat", "n"] .silent host₂ = (outcome₃, host₃) ∧
    outcome₁.exitCode = 0 ∧ outcome₂.exitCode = 0 ∧ outcome₃ = .finished [104, 105] := by
  let host₀ := singleFile "s" [104, 105]
  let first := run ["-i", "d", "-s", "20", "format"] .silent host₀
  have hdone₁ : first.1.exitCode = 0 := by decide +kernel
  have hdone₂ : (run ["-i", "d", "-s", "20", "cp", "s", "n"] .silent first.2).1.exitCode = 0 := by
    decide +kernel
  have hbytes : first.2.read "s" = .ok [104, 105] := by decide +kernel
  have hplace : PlainDirectory.locate (fun _ => false) .existing "d" = .ok "d" := by decide +kernel
  have hlocate₁ : first.2.locate = PlainDirectory.locate := locate_run _ _ _
  rcases hfirst : first with ⟨outcome₁, host₁⟩
  rw [hfirst] at hdone₁ hdone₂ hbytes hlocate₁
  have hlocate₂ := (locate_run ["-i", "d", "-s", "20", "cp", "s", "n"] .silent host₁).trans hlocate₁
  rcases hsecond : run ["-i", "d", "-s", "20", "cp", "s", "n"] .silent host₁ with ⟨outcome₂, host₂⟩
  rw [hsecond] at hdone₂ hlocate₂
  rcases hthird : run ["-i", "d", "-s", "20", "cat", "n"] .silent host₂ with ⟨outcome₃, host₃⟩
  have hformat : RunsOn "d" 20 host₀ .format outcome₁ host₁ :=
    .of_arguments trivial (by decide +kernel) (leads_of_locate rfl hplace) hfirst
  have hcopy : RunsOn "d" 20 host₁ (.copyIn "s" "n") outcome₂ host₂ :=
    .of_arguments (show '\x00' ∉ "n".toList by decide) (by decide +kernel)
      (leads_of_locate hlocate₁ hplace) hsecond
  have hshow : RunsOn "d" 20 host₂ (.show "n") outcome₃ host₃ :=
    .of_arguments trivial (by decide +kernel) (leads_of_locate hlocate₂ hplace) hthird
  obtain ⟨data, hdata, hlater⟩ := (Series.faithful hformat hdone₁ .start).copied hcopy hdone₂
  rw [hbytes, Except.ok.injEq] at hdata
  subst hdata
  exact ⟨host₁, host₂, host₃, outcome₁, outcome₂, outcome₃, hfirst, hsecond, hthird, hdone₁, hdone₂,
    hlater .start hshow⟩

end CommandLine

end SectorStore
