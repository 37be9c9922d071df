import MediaTags.Tag.Field
import MediaTags.Text.Blank
import MediaTags.Text.Case
import MediaTags.Text.Search

/-!
# The vocabulary of metadata keys

A key means a field, but which one depends on where it stands: `TITLE` on an album-level tag is
the album's title, elsewhere the track's. Keys are compared in canonical form: uppercase, and
without the labels that some editors and formats put in front.
-/

namespace MediaTags

/-- Where a list of entries was found. -/
inductive Scope where
  | container
  | stream
  | album
  | chapter
  deriving DecidableEq, Repr

namespace Scope

/-- Scopes of a file that holds a single item. -/
def file : List Scope := [.container, .stream]

/-- Scopes of a file that holds a set of items. -/
def set : List Scope := [.album, .chapter]

def fileAndChapter : List Scope := [.container, .stream, .chapter]

def fileAndAlbum : List Scope := [.container, .stream, .album]

def everywhere : List Scope := [.container, .stream, .album, .chapter]

def isFile (s : Scope) : Bool := file.contains s

end Scope

/-- What a key says about its value. -/
inductive Meaning where
  /-- The value, trimmed. -/
  | text (field : TextField)
  /-- The value, cut and joined again. -/
  | joined (field : TextField)
  /-- The value, cut into a list. -/
  | list (field : ListField)
  /-- The leading number of the value. -/
  | number (field : NumberField)
  /-- Whether the item belongs to a compilation. -/
  | flag
  /-- People in a fixed role. -/
  | role (name : String)
  /-- Roles and people by turns, with commas in between. -/
  | roleList
  | partialDate (part : DatePart)
  /-- Known, and of no use. -/
  | ignored
  deriving DecidableEq, Repr

namespace Vocabulary

/-- A key and what it means in some scopes. -/
structure Row where
  key : String
  scopes : List Scope
  meaning : Meaning
  deriving DecidableEq, Repr

section Table

open Scope

/-- Every key that is known. No key has two rows for one scope. -/
def table : List Row :=
  [
    ⟨"TITLE", fileAndChapter, .text .title⟩,
    ⟨"TITLE", [.album], .text .album⟩,
    ⟨"TIT2", file, .text .title⟩,
    ⟨"ALBUM", everywhere, .text .album⟩,
    ⟨"TALB", file, .text .album⟩,
    ⟨"ARTIST", everywhere, .text .artist⟩,
    ⟨"TPE1", file, .text .artist⟩,
    ⟨"ALBUM_ARTIST", file, .text .albumArtist⟩,
    ⟨"ALBUM_ARTIST", [.album], .joined .albumArtist⟩,
    ⟨"ALBUM ARTIST", file, .text .albumArtist⟩,
    ⟨"ALBUM ARTIST", set, .joined .albumArtist⟩,
    ⟨"ALBUMARTIST", file, .text .albumArtist⟩,
    ⟨"ALBUMARTIST", set, .joined .albumArtist⟩,
    ⟨"ALBUMARTSTS", set, .joined .albumArtist⟩,
    ⟨"ALBUM ARTISTS", set, .joined .albumArtist⟩,
    ⟨"TPE2", file, .text .albumArtist⟩,
    ⟨"MUSICBRAINZ ALBUM ARTIST", file, .text .albumArtist⟩,
    ⟨"MUSICBRAINZ_ALBUMARTIST", set, .text .albumArtist⟩,
    ⟨"ARTISTS", file, .list .artistHints⟩,
    ⟨"ALBUMARTISTS", file, .list .albumArtistHints⟩,
    ⟨"ALBUM ARTISTS", file, .list .albumArtistHints⟩,
    ⟨"ARTISTSORT", set, .joined .artistSort⟩,
    ⟨"ARTIST SORT", set, .joined .artistSort⟩,
    ⟨"ALBUM ARTIST SORT", file, .text .albumArtistSort⟩,
    ⟨"ALBUM ARTIST SORT", set, .joined .albumArtistSort⟩,
    ⟨"ALBUMARTISTSORT", file, .text .albumArtistSort⟩,
    ⟨"ALBUMARTISTSORT", set, .joined .albumArtistSort⟩,
    ⟨"SORT_ALBUM_ARTIST", [.album], .joined .albumArtistSort⟩,
    ⟨"COMPOSERSORT", set, .joined .composerSort⟩,
    ⟨"COMPOSER SORT", set, .joined .composerSort⟩,
    ⟨"MOOD", fileAndChapter, .text .mood⟩,
    ⟨"MOOD", [.album], .joined .mood⟩,
    ⟨"TMOO", file, .text .mood⟩,
    ⟨"COMMENT", everywhere, .text .comment⟩,
    ⟨"COMM", file, .text .comment⟩,
    ⟨"DESCRIPTION", file, .text .comment⟩,
    ⟨"LABEL", file, .text .recordLabel⟩,
    ⟨"TPUB", file, .text .recordLabel⟩,
    ⟨"PUBLISHER", everywhere, .text .recordLabel⟩,
    ⟨"TSST", file, .text .discSubtitle⟩,
    ⟨"SUBTITLE", set, .text .discSubtitle⟩,
    ⟨"SETSUBTITLE", set, .text .discSubtitle⟩,
    ⟨"GENRE", everywhere, .list .genres⟩,
    ⟨"TCON", file, .list .genres⟩,
    ⟨"DATE", file, .text .releaseDate⟩,
    ⟨"TDRC", file, .text .releaseDate⟩,
    ⟨"YEAR", everywhere, .text .releaseDate⟩,
    ⟨"DATE_RELEASED", everywhere, .text .releaseDate⟩,
    ⟨"TDOR", file, .text .originalDate⟩,
    ⟨"TORY", file, .text .originalDate⟩,
    ⟨"ORIGINALDATE", file, .text .originalDate⟩,
    ⟨"ORIGYEAR", set, .text .originalDate⟩,
    ⟨"DATE_RECORDED", set, .text .originalDate⟩,
    ⟨"TYER", file, .partialDate .year⟩,
    ⟨"TDAT", file, .partialDate .dayMonth⟩,
    ⟨"TRACK", file, .number .track⟩,
    ⟨"TRACK", [.album], .number .disc⟩,
    ⟨"PART_NUMBER", file, .number .track⟩,
    ⟨"PART_NUMBER", [.album], .number .disc⟩,
    ⟨"TRCK", file, .number .track⟩,
    ⟨"TRACKNUMBER", file, .number .track⟩,
    ⟨"DISC", file, .number .disc⟩,
    ⟨"TPOS", file, .number .disc⟩,
    ⟨"DISCNUMBER", file, .number .disc⟩,
    ⟨"TBPM", file, .number .bpm⟩,
    ⟨"BPM", file, .number .bpm⟩,
    ⟨"COMPILATION", everywhere, .flag⟩,
    ⟨"TCMP", file, .flag⟩,
    ⟨"COMPOSER", fileAndChapter, .role "Composer"⟩,
    ⟨"TCOM", file, .role "Composer"⟩,
    ⟨"PERFORMER", file, .role "Conductor"⟩,
    ⟨"TPE3", file, .role "Conductor"⟩,
    ⟨"CONDUCTOR", fileAndChapter, .role "Conductor"⟩,
    ⟨"TEXT", file, .role "Lyricist"⟩,
    ⟨"LYRICIST", fileAndChapter, .role "Lyricist"⟩,
    ⟨"TPE4", file, .role "Remixer"⟩,
    ⟨"REMIXED_BY", set, .role "Remixer"⟩,
    ⟨"MIXED_BY", set, .role "Mixer"⟩,
    ⟨"MIXER", set, .role "Mixer"⟩,
    ⟨"WRITER", fileAndChapter, .role "Writer"⟩,
    ⟨"ARRANGER", fileAndChapter, .role "Arranger"⟩,
    ⟨"ENGINEER", fileAndChapter, .role "Engineer"⟩,
    ⟨"BAND", [.chapter], .role "Band"⟩,
    ⟨"PRODUCER", [.chapter], .role "Producer"⟩,
    ⟨"INVOLVEDPEOPLE", set, .roleList⟩,
    ⟨"ACTOR", set, .roleList⟩,
    ⟨"INSTRUMENTS", [.chapter], .roleList⟩,
    ⟨"MUSICBRAINZ ARTIST ID", file, .list .musicBrainzArtistIds⟩,
    ⟨"MUSICBRAINZ_ARTISTID", everywhere, .list .musicBrainzArtistIds⟩,
    ⟨"MUSICBRAINZ ALBUM ARTIST ID", fileAndAlbum, .list .musicBrainzAlbumArtistIds⟩,
    ⟨"MUSICBRAINZ_ALBUMARTISTID", everywhere, .list .musicBrainzAlbumArtistIds⟩,
    ⟨"MUSICBRAINZ ALBUM ID", fileAndAlbum, .text .musicBrainzAlbumId⟩,
    ⟨"MUSICBRAINZ_ALBUMID", everywhere, .text .musicBrainzAlbumId⟩,
    ⟨"MUSICBRAINZ RELEASEGROUP ID", file, .text .musicBrainzReleaseGroupId⟩,
    ⟨"MUSICBRAINZ RELEASE GROUP ID", fileAndAlbum, .text .musicBrainzReleaseGroupId⟩,
    ⟨"MUSICBRAINZ_RELEASEGROUPID", everywhere, .text .musicBrainzReleaseGroupId⟩,
    ⟨"MUSICBRAINZ TRACK ID", file, .text .musicBrainzTrackId⟩,
    ⟨"MUSICBRAINZ_TRACKID", fileAndChapter, .text .musicBrainzTrackId⟩,
    ⟨"MUSICBRAINZ ALBUM TYPE", file, .text .musicBrainzReleaseType⟩,
    ⟨"MUSICBRAINZ_ALBUMTYPE", everywhere, .text .musicBrainzReleaseType⟩,
    ⟨"RELEASETYPE", file, .text .musicBrainzReleaseType⟩,
    ⟨"MUSICBRAINZ ALBUM STATUS", file, .text .musicBrainzReleaseStatus⟩,
    ⟨"MUSICBRAINZ_ALBUMSTATUS", everywhere, .text .musicBrainzReleaseStatus⟩,
    ⟨"RELEASESTATUS", file, .text .musicBrainzReleaseStatus⟩,
    ⟨"ENCODED_BY", file, .ignored⟩,
    ⟨"ENCODER", file, .ignored⟩,
    ⟨"COPYRIGHT", file, .ignored⟩,
    ⟨"TCOP", file, .ignored⟩,
    ⟨"TDTG", file, .ignored⟩,
    ⟨"LANGUAGE", file, .ignored⟩,
    ⟨"TLAN", file, .ignored⟩,
    ⟨"ARTIST-SORT", file, .ignored⟩,
    ⟨"TSOP", file, .ignored⟩,
    ⟨"TSO2", file, .ignored⟩,
    ⟨"TSOC", file, .ignored⟩
  ]

end Table

/-- The label for album-level keys. -/
def albumLabel : List Char := "ALBUM/".toList

/-- The labels around keys that a format does not define itself. -/
def freeformLabels : List (List Char) :=
  ["TXXX:".toList, "----:".toList, "COM.APPLE.ITUNES:".toList]

/-- What follows the first label that a key starts with. -/
def afterFreeform? (cs : List Char) : Option (List Char) :=
  freeformLabels.findSome? (Text.afterChars? · cs)

theorem length_of_afterFreeform? {cs rest : List Char} (h : afterFreeform? cs = some rest) :
    rest.length < cs.length := by
  obtain ⟨label, hl, hr⟩ := List.exists_of_findSome?_eq_some h
  have hlen := Text.length_of_afterChars? hr
  have : 0 < label.length := by
    simp only [freeformLabels, List.mem_cons, List.not_mem_nil, or_false] at hl
    rcases hl with rfl | rfl | rfl <;> decide
  omega

/-- Drop freeform labels for as long as one is in front. -/
def dropFreeform (cs : List Char) : List Char :=
  match h : afterFreeform? cs with
  | some rest =>
    have := length_of_afterFreeform? h
    dropFreeform rest
  | none => cs
termination_by cs.length

def canonicalChars (cs : List Char) : List Char :=
  let key := Text.upperChars (Text.trimChars cs)
  dropFreeform ((Text.afterChars? albumLabel key).getD key)

/-- Uppercase a key and drop the labels in front of it. -/
def canonicalKey (key : String) : String := .ofList (canonicalChars key.toList)

/-- The meaning of a canonical key in a scope. -/
def lookup (key : String) (scope : Scope) : Option Meaning :=
  (table.find? (fun row => row.key == key && row.scopes.contains scope)).map Row.meaning

/-- Whether a key has a meaning in some scope. -/
def isKnown (key : String) : Bool :=
  let key := canonicalKey key
  table.any (fun row => row.key == key)

end Vocabulary

end MediaTags
