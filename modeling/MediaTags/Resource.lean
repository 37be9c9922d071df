import MediaTags.Text.Case
import MediaTags.Text.Percent

/-!
# Resource names

A resource is named by a path with `/` between its parts. Empty parts and `.` stand for nothing,
so a trailing `/` or `/.` does not hide the file name.
-/

namespace MediaTags.Resource

/-- The text between the slashes of a path. -/
def segments (path : String) : List String :=
  ((path.toList.splitOnP (· == '/')).map String.ofList)

/-- The parts of a path that name something, `..` included. -/
def parts (path : String) : List String :=
  (segments path).filter fun s => s != "" && s != "."

/-- The last part, unless it is `..`. -/
def fileName? (path : String) : Option String :=
  (parts path).getLast?.filter (· != "..")

/-- Cut a file name at its last dot. A dot in front is part of the name. -/
def splitExtension (name : String) : String × Option String :=
  let after := name.toList.reverse.takeWhile (· != '.')
  let before := (name.toList.reverse.dropWhile (· != '.')).drop 1
  if before.isEmpty then (name, none)
  else (.ofList before.reverse, some (.ofList after.reverse))

def extension? (path : String) : Option String :=
  (fileName? path).bind fun name => (splitExtension name).2

/-- Drop what stands for nothing from the end of a path, which is given backwards. -/
def dropTrailing : List Char → List Char
  | '/' :: cs => dropTrailing cs
  | '.' :: '/' :: cs => dropTrailing cs
  | cs => cs

/-- The path of the directory that a path's last part lies in. The root has none, and nor has the
empty path. -/
def parent? (path : String) : Option String :=
  match dropTrailing path.toList.reverse with
  | [] => none
  | cs =>
    let above := cs.dropWhile (· != '/')
    match dropTrailing above with
    | [] => some (if above.isEmpty then "" else "/")
    | cs => some (.ofList cs.reverse)

/-- Put another extension in the place of a file name's own. -/
def withExtension (path e : String) : String :=
  match fileName? path with
  | none => path
  | some name =>
    let above := (dropTrailing path.toList.reverse).drop name.length
    .ofList above.reverse ++ (splitExtension name).1 ++ "." ++ e

/-- The path of a name below a directory. -/
def join (directory name : String) : String :=
  if directory.isEmpty || directory.toList.getLast? == some '/' then directory ++ name
  else directory ++ "/" ++ name

/-- Audiobooks are told by their extension. -/
def isAudiobook (path : String) : Bool :=
  match extension? path with
  | some e => Text.asciiLower e == "m4b"
  | none => false

/-- The kind of picture that music has. -/
def musicArt : String := "music"

/-- A reference to the picture inside a resource: `image://kind@resource/`, with the resource
percent-encoded. -/
def pictureUrl (resource kind : String) : String :=
  let lead := if kind.isEmpty then "" else kind ++ "@"
  "image://" ++ lead ++ Text.Percent.encode resource ++ "/"

end MediaTags.Resource
