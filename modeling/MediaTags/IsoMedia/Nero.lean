import MediaTags.IsoMedia.Track

/-!
# Nero chapter lists

A list of starts and titles in one atom, without ends. A list that is cut short gives the chapters
that are whole.
-/

namespace MediaTags.IsoMedia.Nero

open Bytes (takeBytes? takeNumber?)

/-- Starts are in units of 100 nanoseconds. -/
def timeBase : TimeBase := ⟨1, 10000000⟩

/-- One start and title. -/
def takeChapter? (bs : List UInt8) : Option (Chapter × List UInt8) :=
  match takeNumber? 8 bs with
  | none => none
  | some (start, rest) =>
    match takeNumber? 1 rest with
    | none => none
    | some (length, rest) =>
      (takeBytes? length rest).map fun (title, rest) =>
        let title := Text.trim (.ofList (Text.Utf8.decodeLossy title))
        (⟨min (start : Int) maxInstant, none, timeBase, Track.titleEntries title⟩, rest)

/-- At most `count` chapters. -/
def takeChapters : Nat → List UInt8 → List Chapter
  | 0, _ => []
  | count + 1, bs =>
    match takeChapter? bs with
    | some (chapter, rest) => chapter :: takeChapters count rest
    | none => []

/-- The chapters in the payload of a chapter list. Only the first version has no reserved bytes
in front of the count. -/
def chapters (payload : List UInt8) : List Chapter :=
  match takeVersion payload with
  | (none, _) => []
  | (some version, rest) =>
    let (count, rest) := takeNumber 1 (if version = 0 then rest else skip 4 rest)
    takeChapters count rest

end MediaTags.IsoMedia.Nero
