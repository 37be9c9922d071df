import MediaTags.Scan
import MediaTags.Text.Padded

/-!
# Reports as lines of text

What is known about a file, one fact a line behind a label. Facts that are not known are left out.
-/

namespace MediaTags.Report

/-- The width of the column of labels. -/
def labelWidth : Nat := 14

def labelled (label value : String) : String := "  " ++ Text.padRight labelWidth label ++ value

/-- A line that stands only where there is something to say. -/
def lineIf (condition : Bool) (label value : String) : List String :=
  if condition then [labelled label value] else []

/-- A time as minutes and seconds, with hours in front if there are any. -/
def clock (seconds : Nat) : String :=
  let minutes := seconds / 60
  let hours := minutes / 60
  let s := Text.twoDigits (seconds % 60)
  if 0 < hours then toString hours ++ ":" ++ Text.twoDigits (minutes % 60) ++ ":" ++ s
  else toString minutes ++ ":" ++ s

/-- A time in milliseconds; before the start counts as the start. -/
def clockMs (ms : Int) : String := clock (ms.toNat / 1000)

def factLines (f : CodecFacts) : List String :=
  [labelled "Codec" f.codecName,
    labelled "Format" (toString f.sampleRate ++ " Hz, " ++ toString f.channels ++ " ch")] ++
  lineIf (0 < f.bitsPerSample) "Depth" (toString f.bitsPerSample ++ " bit") ++
  lineIf (0 < f.bitRate) "Bit rate" (toString f.bitRate ++ " kbps") ++
  [labelled "Duration" (clock f.duration)]

/-- The facts about a stream that a tag took over. -/
def factsOf (t : Tag) : CodecFacts where
  codecName := t.codec
  bitRate := t.bitRate
  channels := t.channels
  bitsPerSample := t.bitsPerSample
  sampleRate := t.sampleRate
  duration := t.duration

def textLines (t : Tag) : List String :=
  [("Title", t.title), ("Artist", t.artist), ("Album", t.album), ("Album artist", t.albumArtist),
    ("Released", t.releaseDate), ("Original", t.originalDate), ("Label", t.recordLabel),
    ("Mood", t.mood), ("Comment", t.comment)].flatMap fun (label, value) =>
      lineIf (value != "") label value

def tagLines (s : Separators) (t : Tag) : List String :=
  textLines t ++
  lineIf (!t.genres.isEmpty) "Genres" (s.join t.genres) ++
  t.credits.map (fun c => labelled c.role (s.join c.names)) ++
  lineIf (0 < t.trackNumber) "Track" (toString t.trackNumber) ++
  lineIf (0 < t.discNumber) "Disc" (toString t.discNumber) ++
  lineIf t.compilation "Compilation" "yes" ++
  (match t.art with
    | some p => [labelled "Cover" (p.mimeType ++ " (" ++ toString p.data.size ++ " bytes)")]
    | none => []) ++
  factLines (factsOf t)

/-- The warnings that count, below a heading. -/
def warningLines (warnings : List Warning) : List String :=
  match warnings.filter Warning.isSignificant with
  | [] => []
  | found => ["", "Warnings:"] ++ found.map fun w => "  - " ++ w.message

def fileLine (path : String) : String := "File: " ++ path

/-- The report on the tag of a file. -/
def loadedLines (s : Separators) (path : String) (l : LoadedTag) : List String :=
  [fileLine path] ++ (if l.tag.loaded then [] else ["  (no title, tag not loaded)"]) ++
    tagLines s l.tag

def itemLine (i : ChapterItem) : String :=
  "  " ++ i.label ++ "  [" ++ clockMs i.startMs ++ " - " ++ clockMs i.endMs ++ "]" ++
    (if i.anomalous then "  (suspicious length)" else "")

/-- The report on the chapters of a file. -/
def chapterLines (path : String) (items : List ChapterItem) : List String :=
  if items.isEmpty then [path ++ " has no chapters."]
  else (toString items.length ++ " chapters in " ++ path ++ ":") :: items.map itemLine

/-- The line for a file that could be read. -/
def entryLine (e : ScanEntry) : String :=
  e.path ++ " - " ++ e.title.getD "(untitled)" ++ " [" ++ e.codec.getD "?" ++ ", " ++
    toString e.duration ++ "s" ++
    (if 0 < e.chapters then ", " ++ toString e.chapters ++ " chapters" else "") ++ "]"

/-- The lines for the files that could be read, and what became of all of them. -/
def scanLines (entries : List ScanEntry) : List String :=
  let readable := entries.filter (·.error.isNone)
  readable.map entryLine ++ ["", "Scan complete. " ++ toString entries.length ++ " files, " ++
    toString (entries.length - readable.length) ++ " failed."]

/-- The lines for the files that could not be read. -/
def scanErrorLines (entries : List ScanEntry) : List String :=
  entries.filterMap fun e => e.error.map fun why => e.path ++ ": " ++ why

end MediaTags.Report
