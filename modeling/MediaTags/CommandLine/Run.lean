import MediaTags.CommandLine.Arguments
import MediaTags.Report.Json
import MediaTags.Report.Text
import MediaTags.Settings.File

/-!
# Running a command

A command reads the files of an environment and leaves text on two channels. Only one of them
writes: it saves the default settings.
-/

namespace MediaTags.CommandLine

/-- What a command works with. -/
structure Environment where
  files : FileTree
  /-- What a demuxer finds in a file. -/
  demux : Bytes → List Demux.Finding
  /-- The directory below which settings are kept, if there is one. -/
  settingsRoot : Option String := none

/-- Why a command fails. -/
inductive CommandFailure where
  | media (cause : Failure)
  | alreadyExists (path : String)
  | notADirectory (path : String)
  deriving DecidableEq, Repr

namespace CommandFailure

/-- The message of a failure and of each cause below it. -/
def chain : CommandFailure → List String
  | media cause => cause.chain
  | alreadyExists path => [path ++ " already exists (use --force to overwrite)"]
  | notADirectory path => ["Not a directory: " ++ path]

end CommandFailure

/-- What a command leaves behind. -/
structure Outcome where
  failure : Option (Abort CommandFailure) := none
  stdout : String := ""
  stderr : String := ""
  files : FileTree

/-- Lines of text, each with its end. -/
def unlines (lines : List String) : String := String.join (lines.map (· ++ "\n"))

namespace Environment

/-- Where settings are kept when no path is given. -/
def defaultSettingsPath? (env : Environment) : Option String :=
  env.settingsRoot.map fun root =>
    Resource.join (Resource.join root "tagweave") "config.toml"

/-- The settings to work with. -/
def settings (env : Environment) (path : Option String) : Settings :=
  match path <|> env.defaultSettingsPath? with
  | some p => Settings.load env.files p
  | none => {}

def library (env : Environment) (path : Option String) : MediaLibrary where
  files := env.files
  demux := env.demux
  settings := env.settings path

def fails (env : Environment) (why : Abort CommandFailure) : Outcome :=
  { failure := some why, files := env.files }

def prints (env : Environment) (stdout stderr : List String) : Outcome :=
  { stdout := unlines stdout, stderr := unlines stderr, files := env.files }

def printsJson (env : Environment) (j : Json) : Outcome := env.prints [j.print] []

/-- The outcome of a question about a file. -/
def answers {α : Type} (env : Environment) (answer : Answer α) (shown : α → Outcome) : Outcome :=
  match answer with
  | .ok a => shown a
  | .error why => env.fails (why.map .media)

def runTags (env : Environment) (l : MediaLibrary) (json : Bool) (path : String) : Outcome :=
  env.answers (l.tag path) fun t =>
    if json then env.printsJson t.toJson
    else env.prints (Report.loadedLines l.settings.separators path t)
      (Report.warningLines t.warnings)

def runCodec (env : Environment) (l : MediaLibrary) (json : Bool) (path : String) : Outcome :=
  env.answers (l.codecFacts path) fun f =>
    if json then env.printsJson f.toJson
    else env.prints (Report.fileLine path :: Report.factLines f) []

/-- Warnings stand only next to chapters that are shown. -/
def runChapters (env : Environment) (l : MediaLibrary) (json : Bool) (path : String) : Outcome :=
  env.answers (l.chapters path) fun c =>
    if json then env.printsJson c.toJson
    else env.prints (Report.chapterLines path c.items)
      (if c.items.isEmpty then [] else Report.warningLines c.warnings)

def runScan (env : Environment) (l : MediaLibrary) (json recursive : Bool) (path : String) :
    Outcome :=
  env.answers (l.scan? path recursive) fun
    | none => env.fails (.failure (.notADirectory path))
    | some entries =>
      if json then env.printsJson (.arr (entries.map ScanEntry.toJson))
      else env.prints (Report.scanLines entries) (Report.scanErrorLines entries)

/-- Save the default settings. A file that is there is only replaced by force. -/
def runInitConfig (env : Environment) (path : Option String) (force : Bool) : Outcome :=
  match path <|> env.defaultSettingsPath? with
  | none => env.fails (.failure (.media (.settings .noDirectory)))
  | some target =>
    if env.files.pathExists target && !force then env.fails (.failure (.alreadyExists target))
    else
      match ({} : Settings).save env.files target with
      | (.error e, files) => { failure := some (.failure (.media (.settings e))), files }
      | (.ok (), files) =>
        { stdout := unlines ["Wrote default configuration to " ++ target], files }

/-- Run the command that is asked for. -/
def run (env : Environment) (r : Request) : Outcome :=
  let l := env.library r.settingsPath
  match r.command with
  | .tags path => env.runTags l r.json path
  | .codec path => env.runCodec l r.json path
  | .chapters path => env.runChapters l r.json path
  | .scan path recursive => env.runScan l r.json recursive path
  | .initConfig force => env.runInitConfig r.settingsPath force

end Environment

end MediaTags.CommandLine
