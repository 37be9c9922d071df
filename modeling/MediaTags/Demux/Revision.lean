import MediaTags.Bytes
import MediaTags.Normalize

/-!
# Metadata as a demuxer reports it

A block of metadata holds tags and pictures. A tag keeps its raw key; when the raw key is not in
the vocabulary, the standard key that the demuxer recognised stands in for it.
-/

namespace MediaTags.Demux

inductive Value where
  | text (s : String)
  | bool (b : Bool)
  | int (n : Int)
  /-- Present, without a value. -/
  | flag
  | binary (data : Bytes)
  deriving DecidableEq, Repr

/-- The value as text, unless it is binary. -/
def Value.text? : Value → Option String
  | text s => some s
  | bool b => some (if b then "true" else "false")
  | int n => some (toString n)
  | flag => some "<flag>"
  | binary _ => none

/-- What a demuxer recognises a tag to be. -/
inductive StandardKey where
  | trackTitle
  | album
  | artist
  | albumArtist
  | genre
  | trackNumber
  | discNumber
  | date
  | releaseDate
  | originalDate
  | comment
  | description
  | composer
  | conductor
  | lyricist
  | writer
  | arranger
  | engineer
  | remixer
  | label
  | mood
  | bpm
  | compilation
  | discSubtitle
  | sortAlbumArtist
  | musicBrainzArtistId
  | musicBrainzAlbumId
  | musicBrainzAlbumArtistId
  | musicBrainzReleaseGroupId
  | musicBrainzTrackId
  | musicBrainzReleaseType
  | musicBrainzReleaseStatus
  | language
  | copyright
  | encodedBy
  /-- A key that the vocabulary has no word for. -/
  | other
  deriving DecidableEq, Repr

/-- The word of the vocabulary for a standard key. -/
def StandardKey.vocabularyKey? : StandardKey → Option String
  | trackTitle => some "TITLE"
  | album => some "ALBUM"
  | artist => some "ARTIST"
  | albumArtist => some "ALBUM_ARTIST"
  | genre => some "GENRE"
  | trackNumber => some "TRACK"
  | discNumber => some "DISC"
  | date => some "DATE"
  | releaseDate => some "DATE"
  | originalDate => some "ORIGINALDATE"
  | comment => some "COMMENT"
  | description => some "DESCRIPTION"
  | composer => some "COMPOSER"
  | conductor => some "CONDUCTOR"
  | lyricist => some "LYRICIST"
  | writer => some "WRITER"
  | arranger => some "ARRANGER"
  | engineer => some "ENGINEER"
  | remixer => some "TPE4"
  | label => some "LABEL"
  | mood => some "MOOD"
  | bpm => some "BPM"
  | compilation => some "COMPILATION"
  | discSubtitle => some "TSST"
  | sortAlbumArtist => some "ALBUMARTISTSORT"
  | musicBrainzArtistId => some "MUSICBRAINZ_ARTISTID"
  | musicBrainzAlbumId => some "MUSICBRAINZ_ALBUMID"
  | musicBrainzAlbumArtistId => some "MUSICBRAINZ_ALBUMARTISTID"
  | musicBrainzReleaseGroupId => some "MUSICBRAINZ_RELEASEGROUPID"
  | musicBrainzTrackId => some "MUSICBRAINZ_TRACKID"
  | musicBrainzReleaseType => some "MUSICBRAINZ_ALBUMTYPE"
  | musicBrainzReleaseStatus => some "MUSICBRAINZ_ALBUMSTATUS"
  | language => some "LANGUAGE"
  | copyright => some "COPYRIGHT"
  | encodedBy => some "ENCODED_BY"
  | other => none

structure RawTag where
  key : String
  standard : Option StandardKey := none
  value : Value
  deriving DecidableEq, Repr

namespace RawTag

/-- The key to read the tag under. -/
def entryKey (t : RawTag) : String :=
  if Vocabulary.isKnown t.key then t.key
  else (t.standard.bind StandardKey.vocabularyKey?).getD t.key

/-- The entry that a tag makes, unless its value is binary. -/
def entry? (t : RawTag) : Option Entry := t.value.text?.map (⟨t.entryKey, ·⟩)

/-- The entry under the raw key. -/
def rawEntry? (t : RawTag) : Option Entry := t.value.text?.map (⟨t.key, ·⟩)

end RawTag

/-- A picture in a block of metadata. -/
structure Visual where
  picture : Picture
  isFrontCover : Bool
  deriving DecidableEq, Repr

/-- One block of metadata. -/
structure Revision where
  tags : List RawTag := []
  visuals : List Visual := []
  deriving DecidableEq, Repr

namespace Revision

def entries (r : Revision) : List Entry := r.tags.filterMap RawTag.entry?

/-- The picture that stands for the block: its first front cover, or else its first picture. -/
def chosenVisual? (r : Revision) : Option Visual :=
  r.visuals.find? Visual.isFrontCover <|> r.visuals.head?

/-- The picture after one more block. A front cover replaces what was found before, another
picture does not. -/
def addArt (art : Option Picture) (r : Revision) : Option Picture :=
  match r.chosenVisual? with
  | some v => if art.isNone || v.isFrontCover then some v.picture else art
  | none => art

/-- The picture that a row of blocks gives. -/
def art? (blocks : List Revision) : Option Picture := blocks.foldl addArt none

end Revision

end MediaTags.Demux
