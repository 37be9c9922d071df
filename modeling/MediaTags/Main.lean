import MediaTags.CommandLine.Run

/-!
# The program

Reads the files that a command line is about into a tree, runs the command on it, and writes what
the command leaves behind. No demuxer is built in, so nothing is found in any file. There is no log,
and no usage text behind the reason why a command line is refused.
-/

namespace MediaTags.CommandLine

/-- Add the file at a path to a tree, if it can be read. -/
def loadFile (t : FileTree) (path : String) : IO FileTree :=
  try
    return t.set (t.named path) (.file (← IO.FS.readBinFile path).data)
  catch _ => return t

/-- Add what is at a path to a tree, with so many levels of directories below it. -/
def load : Nat → FileTree → String → IO FileTree
  | 0, t, path => do
    if ← ((← IO.currentDir) / path).isDir then return t.set (t.named path) .directory
    else loadFile t path
  | levels + 1, t, path => do
    let place := (← IO.currentDir) / path
    if ← place.isDir then
      (← place.readDir).foldlM (fun t e => load levels t (Resource.join path e.fileName))
        (t.set (t.named path) .directory)
    else loadFile t path

/-- The directory below which settings are kept. -/
def settingsRoot : IO (Option String) := do
  match ← IO.getEnv "XDG_CONFIG_HOME" with
  | some root => return some root
  | none => return (← IO.getEnv "HOME").map fun home => Resource.join home ".config"

/-- Write the files that a command made or changed. -/
def writeFiles (old new : FileTree) : IO Unit :=
  new.nodes.forM fun (place, node) =>
    match node with
    | .directory => pure ()
    | .file data =>
      if old.get? place = some (.file data) then pure ()
      else do
        IO.FS.createDirAll ("/" ++ String.intercalate "/" place.dropLast)
        IO.FS.writeBinFile ("/" ++ String.intercalate "/" place) ⟨data⟩

/-- Run a command on the files that it is about. -/
def perform (r : Request) : IO UInt32 := do
  let r := { r with settingsPath := r.settingsPath <|> (← IO.getEnv "TAGWEAVE_CONFIG") }
  let here := (← IO.currentDir).toString
  let empty : FileTree := { workingDirectory := Resource.parts here }
  let env : Environment := ⟨empty, fun _ => [], ← settingsRoot⟩
  let settingsFile := (r.settingsPath <|> env.defaultSettingsPath?).map fun p => (p, 0)
  let files ← (settingsFile.toList ++ r.command.reads.toList).foldlM
    (fun t (path, levels) => load levels t path) empty
  let o := { env with files }.run r
  writeFiles files o.files
  IO.print o.stdout
  IO.eprint o.stderr
  match o.failure with
  | none => return 0
  | some (.failure e) =>
    e.chain.forM fun message => IO.eprintln message
    return 1
  | some .overflow =>
    IO.eprintln "A number does not fit in its type"
    return 101

end MediaTags.CommandLine

def main (args : List String) : IO UInt32 := do
  match MediaTags.CommandLine.parse args with
  | .ok r => MediaTags.CommandLine.perform r
  | .error why =>
    if why.isMistake then
      IO.eprintln why.message
      return 2
    else
      IO.println why.message
      return 0
