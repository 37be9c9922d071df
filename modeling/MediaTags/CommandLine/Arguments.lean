/-!
# Command lines

A command line names one command, with options before and behind it. Options known to every
command may stand anywhere; the one behind the command wins. An option with a value takes the next
argument, or what follows an equals sign. After `--` every argument is taken for a path.
-/

namespace MediaTags.CommandLine

/-- The commands, as they are named. -/
inductive Verb where
  | tags
  | codec
  | chapters
  | scan
  | initConfig
  deriving DecidableEq, Repr

/-- Options without a value. -/
inductive Flag where
  | json
  | verbose
  | recursive
  | force
  | help
  | version
  deriving DecidableEq, Repr

/-- Why a command line names nothing to run. -/
inductive Refusal where
  /-- There is not even an option. -/
  | nothingGiven
  | missingCommand
  | unknownCommand
  | missingPath
  | unknownArgument
  /-- A value is missing or empty. -/
  | invalidValue
  /-- A flag is given a value. -/
  | unneededValue
  | repeatedOption
  | helpWanted
  | versionWanted
  deriving DecidableEq, Repr

namespace Refusal

/-- Asking for help or for the version is no mistake. -/
def isMistake : Refusal → Bool
  | helpWanted => false
  | versionWanted => false
  | _ => true

def message : Refusal → String
  | nothingGiven => "nothing to do"
  | missingCommand => "a command is missing"
  | unknownCommand => "there is no such command"
  | missingPath => "a path is missing"
  | unknownArgument => "an argument has no meaning"
  | invalidValue => "an option or a path has no value"
  | unneededValue => "a flag has a value"
  | repeatedOption => "an option is given twice"
  | helpWanted => "commands: tags, codec, chapters, scan, init-config"
  | versionWanted => "tagweave 0.1.0"

end Refusal

inductive Command where
  | tags (path : String)
  | codec (path : String)
  | chapters (path : String)
  | scan (path : String) (recursive : Bool)
  | initConfig (force : Bool)
  deriving DecidableEq, Repr

/-- What a command line asks for. -/
structure Request where
  settingsPath : Option String := none
  json : Bool := false
  verbose : Bool := false
  command : Command
  deriving DecidableEq, Repr

/-- More levels of directories than any path can name. -/
def maxLevels : Nat := 4096

/-- The path that a command is about, and how many levels of directories below it are read. -/
def Command.reads : Command → Option (String × Nat)
  | tags path => some (path, 0)
  | codec path => some (path, 0)
  | chapters path => some (path, 0)
  | scan path recursive => some (path, if recursive then maxLevels else 1)
  | initConfig _ => none

namespace Verb

def ofName? : String → Option Verb
  | "tags" => some tags
  | "codec" => some codec
  | "chapters" => some chapters
  | "scan" => some scan
  | "init-config" => some initConfig
  | _ => none

def takesPath : Verb → Bool
  | initConfig => false
  | _ => true

end Verb

/-- The word that asks for help, as a command. -/
def helpWord : String := "help"

namespace Flag

def ofLong? : String → Option Flag
  | "json" => some json
  | "verbose" => some verbose
  | "recursive" => some recursive
  | "force" => some force
  | "help" => some help
  | "version" => some version
  | _ => none

def ofShort? : Char → Option Flag
  | 'v' => some verbose
  | 'r' => some recursive
  | 'h' => some help
  | 'V' => some version
  | _ => none

/-- Whether a flag is known in front of any command (`none`) or behind one. -/
def allowed (verb : Option Verb) : Flag → Bool
  | version => verb.isNone
  | recursive => verb == some .scan
  | force => verb == some .initConfig
  | _ => true

end Flag

/-- The option with a value that every command knows. -/
def settingsOption : String := "config"

/-- An option or path whose value is still to be checked. -/
inductive Pending where
  | settings (value : Option String)
  | path (value : String)
  deriving DecidableEq, Repr

/-- What was found so far in front of a command or behind it. -/
structure Reading where
  verb : Option Verb := none
  settingsPath : Option String := none
  path : Option String := none
  flags : List Flag := []
  pending : Option Pending := none
  /-- Whether the next argument is an option's value. -/
  wantsValue : Bool := false
  /-- Whether options are over. -/
  onlyPaths : Bool := false
  deriving DecidableEq, Repr

namespace Reading

/-- Check what is pending. An option may be given once, and no value may be empty. -/
def settle (r : Reading) : Except Refusal Reading :=
  match r.pending with
  | none => .ok r
  | some (.settings none) => .error .invalidValue
  | some (.settings (some value)) =>
    if r.settingsPath.isSome then .error .repeatedOption
    else if value = "" then .error .invalidValue
    else .ok { r with settingsPath := some value, pending := none }
  | some (.path value) =>
    if value = "" then .error .invalidValue
    else .ok { r with path := some value, pending := none }

/-- Note a flag. -/
def raise (r : Reading) (f : Flag) : Except Refusal Reading := do
  let r ← r.settle
  match f with
  | .help => .error .helpWanted
  | .version => .error .versionWanted
  | f =>
    if r.flags.contains f then .error .repeatedOption
    else .ok { r with flags := f :: r.flags, wantsValue := false }

/-- Note a word that is no option. -/
def place (r : Reading) (word : String) : Except Refusal Reading :=
  match r.verb with
  | none =>
    .error (if r.onlyPaths && (word == helpWord || (Verb.ofName? word).isSome) then .unknownArgument
      else .unknownCommand)
  | some verb =>
    if verb.takesPath && r.path.isNone && !(r.pending matches some (.path _)) then do
      let r ← r.settle
      return { r with pending := some (.path word), wantsValue := false }
    else .error .unknownArgument

/-- Note an option with a long name, and the value attached to it. -/
def long (r : Reading) (name : String) (value : Option String) : Except Refusal Reading :=
  if name = settingsOption then do
    let r ← r.settle
    let r := { r with pending := some (.settings value), wantsValue := value.isNone }
    if value.isSome then r.settle else return r
  else
    match (Flag.ofLong? name).filter (Flag.allowed r.verb) with
    | none => .error .unknownArgument
    | some f => if value.isSome then .error .unneededValue else r.raise f

/-- Note flags with short names. -/
def shorts (r : Reading) : List Char → Except Refusal Reading
  | [] => .ok r
  | c :: cs =>
    match (Flag.ofShort? c).filter (Flag.allowed r.verb) with
    | none => .error .unknownArgument
    | some f => do shorts (← r.raise f) cs

/-- Split a long option at its first equals sign. -/
def splitLong (cs : List Char) : String × Option String :=
  let name := String.ofList (cs.takeWhile (· != '='))
  match cs.dropWhile (· != '=') with
  | [] => (name, none)
  | _ :: value => (name, some (.ofList value))

/-- Note one argument. -/
def argument (r : Reading) (arg : String) : Except Refusal Reading :=
  if r.onlyPaths then r.place arg
  else
    match arg.toList with
    | ['-', '-'] => .ok { r with onlyPaths := true }
    | '-' :: '-' :: cs =>
      let (name, value) := splitLong cs
      r.long name value
    | '-' :: c :: cs => r.shorts (c :: cs)
    | _ =>
      if r.wantsValue then
        .ok { r with pending := some (.settings (some arg)), wantsValue := false }
      else r.place arg

end Reading

/-- Read the arguments behind a command. -/
def readBehind (r : Reading) (args : List String) : Except Refusal Reading := do
  let r ← args.foldlM Reading.argument r
  let r ← r.settle
  match r.verb with
  | some verb => if verb.takesPath && r.path.isNone then .error .missingPath else return r
  | none => return r

/-- Why help on some words is refused, or that it is given: at most one command is named. -/
def helpOn : List String → Refusal
  | [] => .helpWanted
  | [word] =>
    if word == helpWord || (Verb.ofName? word).isSome then .helpWanted else .unknownCommand
  | _ => .unknownCommand

/-- Read all arguments: what stands in front of the command, and the command with what stands
behind it. -/
def readAll (r : Reading) : List String → Except Refusal (Reading × Reading)
  | [] => do
    let r ← r.settle
    if r.flags.isEmpty && r.settingsPath.isNone then .error .nothingGiven
    else .error .missingCommand
  | arg :: rest =>
    if r.onlyPaths || r.wantsValue then do readAll (← r.argument arg) rest
    else if arg = helpWord then .error (helpOn rest)
    else
      match Verb.ofName? arg with
      | some verb => do
        let behind ← readBehind { verb := some verb } rest
        return (← r.settle, behind)
      | none => do readAll (← r.argument arg) rest

/-- The command that was read. -/
def commandOf (behind : Reading) (verb : Verb) : Command :=
  let path := behind.path.getD ""
  match verb with
  | .tags => .tags path
  | .codec => .codec path
  | .chapters => .chapters path
  | .scan => .scan path (behind.flags.contains .recursive)
  | .initConfig => .initConfig (behind.flags.contains .force)

/-- What the arguments of a command line ask for. -/
def parse (args : List String) : Except Refusal Request := do
  let (front, behind) ← readAll {} args
  return {
    settingsPath := behind.settingsPath <|> front.settingsPath
    json := front.flags.contains .json || behind.flags.contains .json
    verbose := front.flags.contains .verbose || behind.flags.contains .verbose
    command := commandOf behind (behind.verb.getD .tags) }

end MediaTags.CommandLine
