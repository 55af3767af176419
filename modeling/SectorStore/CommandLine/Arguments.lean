import SectorStore.Sector

/-!
# Arguments of the command line

The arguments are options, then the word for a command, then what the command is about. The options
are the path of the disk image, `--image PATH` or `-i PATH`, and its size in sectors, `--sectors N`
or `-s N`, each given once at most; a value may also be joined to its option, as in `--sectors=64`,
`-s=64` or `-s64`. A separate word is no value and no operand if it looks like an option, that is,
if it is longer than a dash and starts with one. After a word `--` behind the command all words are
operands. Paths must not be empty.
-/

namespace SectorStore.CommandLine

/-- What the command line can be told to do. -/
inductive Command where
  /-- Lays out the image as an empty volume. -/
  | format
  /-- Stores a file of the host under a name. -/
  | copyIn (source name : String)
  /-- Prints what a file holds. -/
  | show (name : String)
  /-- Prints the names of the files. -/
  | names
  /-- Removes a file. -/
  | remove (name : String)
  /-- Prints the listing of the volume. -/
  | listing
deriving DecidableEq, Repr

/-- A run of the command line. -/
structure Invocation where
  /-- The path of the disk image. -/
  image : String
  /-- The number of sectors of the image. -/
  numSectors : Nat
  /-- What to do. -/
  command : Command
deriving DecidableEq, Repr

/-- The options found so far. -/
structure Options where
  /-- The path of the disk image, if it was given. -/
  image? : Option String := none
  /-- The number of sectors, if it was given. -/
  numSectors? : Option Nat := none

/-- The options of the command line. -/
inductive OptionName where
  /-- The path of the disk image. -/
  | image
  /-- The number of sectors. -/
  | sectors

/-- Whether a word has the form of an option. -/
def looksLikeOption : List Char → Bool
  | '-' :: _ :: _ => true
  | _ => false

/-- The number that decimal digits denote, if they are such and it fits into 64 bits. A plus sign
may stand in front of them. -/
def number? (word : List Char) : Option Nat :=
  let digits := match word with
    | '+' :: rest => rest
    | _ => word
  if digits.isEmpty || !digits.all Char.isDigit then
    none
  else
    let n := digits.foldl (fun n c => 10 * n + (c.toNat - '0'.toNat)) 0
    if n < UInt64.size then some n else none

/-- Records the value of an option, which must be well formed and the first for it. -/
def Options.record (options : Options) (name : OptionName) (value : List Char) : Option Options :=
  match name with
  | .image =>
    if value.isEmpty || options.image?.isSome then none
    else some { options with image? := some (.ofList value) }
  | .sectors => do
    let n ← number? value
    if options.numSectors?.isSome then none else some { options with numSectors? := some n }

/-- Splits a word for an option, without its dashes, into the option and a value joined to it. -/
def splitOption (word : List Char) : Option (OptionName × Option (List Char)) :=
  match word with
  | '-' :: long =>
    let (name, rest) := long.span (· != '=')
    let value := match rest with
      | [] => none
      | _ :: value => some value
    match String.ofList name with
    | "image" => some (.image, value)
    | "sectors" => some (.sectors, value)
    | _ => none
  | letter :: rest =>
    let value := match rest with
      | [] => none
      | '=' :: value => some value
      | value => some value
    match letter with
    | 'i' => some (.image, value)
    | 's' => some (.sectors, value)
    | _ => none
  | [] => none

/-- The operands among the words behind a command. -/
def operands : List (List Char) → Option (List (List Char))
  | [] => some []
  | word :: rest =>
    if word = ['-', '-'] then some rest
    else if looksLikeOption word then none
    else do return word :: (← operands rest)

/-- The command that a word and the operands behind it denote. -/
def command? (word : List Char) (operands : List (List Char)) : Option Command :=
  match String.ofList word, operands with
  | "format", [] => some .format
  | "cp", [source, name] =>
    if source.isEmpty then none else some (.copyIn (.ofList source) (.ofList name))
  | "cat", [name] => some (.show (.ofList name))
  | "ls", [] => some .names
  | "rm", [name] => some (.remove (.ofList name))
  | "dump", [] => some .listing
  | _, _ => none

/-- The run that the options ask for, with a command and the words behind it. -/
def Options.invocation? (options : Options) (word : List Char) (rest : List (List Char)) :
    Option Invocation := do
  return {
    image := options.image?.getD "DISK"
    numSectors := options.numSectors?.getD defaultNumSectors
    command := ← command? word (← operands rest) }

/-- Reads options and the command from the words that are left. -/
def readWords (options : Options) : List (List Char) → Option Invocation
  | [] => none
  | [word] => if looksLikeOption word then none else options.invocation? word []
  | word :: next :: rest =>
    if looksLikeOption word then
      match splitOption (word.drop 1) with
      | none => none
      | some (name, some value) =>
        (options.record name value).bind fun options => readWords options (next :: rest)
      | some (name, none) =>
        if looksLikeOption next then none
        else (options.record name next).bind fun options => readWords options rest
    else
      options.invocation? word (next :: rest)

/-- Reads the arguments; `none` if they do not make sense. -/
def Invocation.ofArguments? (arguments : List String) : Option Invocation :=
  readWords {} (arguments.map String.toList)

end SectorStore.CommandLine
