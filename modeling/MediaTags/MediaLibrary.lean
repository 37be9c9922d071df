import MediaTags.Chapters
import MediaTags.FileTree
import MediaTags.Flac
import MediaTags.LoadedTag
import MediaTags.Opening

/-!
# Media files in a tree

Tags, chapters and stream facts of the files in a tree. What a demuxer finds in a file depends on
the bytes of the file alone.
-/

namespace MediaTags

structure MediaLibrary where
  files : FileTree
  /-- What a demuxer finds in a file, one thing after the other. -/
  demux : Bytes → List Demux.Finding
  settings : Settings := {}
  strings : StringTable := .english

/-- Name what was being done when a failure happened. -/
def ProbeFailure.within (what : String) (e : ProbeFailure) : Failure := .context what (.probe e)

/-- What is asked of a media file. It fails with a reason, or an overflow breaks it off. -/
abbrev Answer (α : Type) : Type := Except (Abort Failure) α

namespace MediaLibrary

/-- Open what is at a path. A directory can be opened as well, but nothing is found in it. -/
def openPath (l : MediaLibrary) (path : String) : Except (Abort ProbeFailure) Opened :=
  match l.files.open? path with
  | .error e => .error (.failure (.io e))
  | .ok (.file data) => (Source.ofFile data).probe path l.settings.probe (l.demux data)
  | .ok .directory => (Source.forward #[]).probe path l.settings.probe []

/-- Open the container at a path. -/
def openFile (l : MediaLibrary) (path : String) : Answer Opened :=
  if l.files.pathExists path then
    (l.openPath path).mapError fun why => why.map (·.within ("Failed to open " ++ path))
  else .error (.failure (.notFound path))

/-- The picture in a file that its container does not show. -/
def cover? (l : MediaLibrary) (path : String) : Option Picture :=
  match (Resource.extension? path).map Text.lower with
  | some "flac" => (l.files.contents? path).bind Flac.cover?
  | _ => none

/-- The tag of a container that was opened at a path. -/
def tagOf (l : MediaLibrary) (path : String) (o : Opened) : Except ProbeFailure LoadedTag :=
  o.container.loadTag l.settings.separators (l.cover? path)

/-- The items of an opened container. -/
def chaptersOf (l : MediaLibrary) (o : Opened) : ChapterSet :=
  ChapterContext.chapterSet ⟨o.name, l.settings.separators, l.strings, l.settings.chapters⟩
    o.container

/-- The tag of the whole file at a path. -/
def tag (l : MediaLibrary) (path : String) : Answer LoadedTag := do
  let o ← l.openFile path
  (l.tagOf path o).mapError fun e => .failure (e.within ("Failed to read " ++ path))

/-- One item per chapter of the file at a path. -/
def chapters (l : MediaLibrary) (path : String) : Answer ChapterSet :=
  (l.openFile path).map l.chaptersOf

def hasChapters (l : MediaLibrary) (path : String) : Answer Bool :=
  (l.openFile path).map fun o => o.container.hasChapters

/-- The facts about the first audio stream of the file at a path. -/
def codecFacts (l : MediaLibrary) (path : String) : Answer CodecFacts := do
  let o ← l.openFile path
  o.container.probeCodec.mapError fun e => .failure (e.within ("Failed to probe " ++ path))

end MediaLibrary

end MediaTags
