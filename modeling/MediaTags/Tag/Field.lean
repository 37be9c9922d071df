/-!
# The fields of a tag

The names of the fields that metadata can fill, grouped by the kind of value they hold.
-/

namespace MediaTags

/-- Fields that hold one text. -/
inductive TextField where
  | title
  | album
  | artist
  | albumArtist
  | artistSort
  | albumArtistSort
  | composerSort
  | mood
  | comment
  | recordLabel
  | discSubtitle
  | releaseDate
  | originalDate
  | musicBrainzAlbumId
  | musicBrainzReleaseGroupId
  | musicBrainzTrackId
  | musicBrainzReleaseType
  | musicBrainzReleaseStatus
  deriving DecidableEq, Repr

/-- Fields that hold a list of texts. -/
inductive ListField where
  | genres
  | artistHints
  | albumArtistHints
  | musicBrainzArtistIds
  | musicBrainzAlbumArtistIds
  deriving DecidableEq, Repr

/-- Fields that hold a count. -/
inductive NumberField where
  | track
  | disc
  | bpm
  deriving DecidableEq, Repr

/-- The two parts of a date that some taggers store apart. -/
inductive DatePart where
  | year
  | dayMonth
  deriving DecidableEq, Repr

end MediaTags
