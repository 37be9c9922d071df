import MediaTags.MediaLibrary

/-!
# Scanning a directory

Every media file of a directory is opened and summed up in one entry, which also says why a file
could not be opened. Media files are told by their extension. Entries are in the order of their
paths.
-/

namespace MediaTags

structure ScanEntry where
  path : String
  title : Option String := none
  codec : Option String := none
  duration : Nat := 0
  chapters : Nat := 0
  warnings : Nat := 0
  error : Option String := none
  deriving DecidableEq, Repr

namespace ScanEntry

/-- The entry of a file that was opened. Its chapters count also when it has no tag. -/
def ofOpened (l : MediaLibrary) (path : String) (o : Opened) : ScanEntry :=
  let chapters := (l.chaptersOf o).items.length
  match l.tagOf path o with
  | .ok loaded =>
    { path
      title := if loaded.tag.loaded then some loaded.tag.title else none
      codec := some loaded.tag.codec
      duration := loaded.tag.duration
      chapters
      warnings := (loaded.warnings.filter Warning.isSignificant).length }
  | .error e => { path, chapters, error := some e.message }

/-- The entry of the file at a path. -/
def ofPath (l : MediaLibrary) (path : String) : Answer ScanEntry :=
  match l.openFile path with
  | .ok o => .ok (ofOpened l path o)
  | .error (.failure e) => .ok { path, error := some e.message }
  | .error .overflow => .error .overflow

end ScanEntry

namespace MediaLibrary

/-- The extensions of media files. -/
def extensions : List String :=
  ["mp3", "flac", "ogg", "oga", "opus", "wav", "m4a", "m4b", "mp4", "mka", "mkv", "webm", "caf",
    "aiff"]

def isMediaFile (path : String) : Bool :=
  match Resource.extension? path with
  | some e => extensions.contains (Text.lower e)
  | none => false

/-- The paths of the media files in a directory and, if asked for, in those below it. -/
def mediaFiles (l : MediaLibrary) (directory : String) (recursive : Bool) : List String :=
  match l.files.locate directory with
  | .error _ => []
  | .ok place =>
    let below := (l.files.filesBelow place).filter fun (names, _) =>
      recursive || names.length == 1
    let paths := below.map fun (names, _) =>
      Resource.join directory (String.intercalate "/" names)
    (paths.filter isMediaFile).mergeSort fun a b => decide (a ≤ b)

/-- One entry for each media file in a directory; nothing for a path to anything else. -/
def scan? (l : MediaLibrary) (directory : String) (recursive : Bool) :
    Answer (Option (List ScanEntry)) :=
  if l.files.isDirectory directory then
    ((l.mediaFiles directory recursive).mapM (ScanEntry.ofPath l)).map some
  else .ok none

end MediaLibrary

end MediaTags
