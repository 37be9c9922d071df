import MediaTags.Chapters
import MediaTags.Json
import MediaTags.LoadedTag
import MediaTags.Scan

/-!
# Records as JSON

Every member of a record is present, also where it holds nothing. A picture shows its size, not
its bytes.
-/

namespace MediaTags

def Picture.toJson (p : Picture) : Json :=
  .obj [("size", .ofNat p.data.size), ("mime_type", .str p.mimeType)]

def MusicBrainz.toJson (m : MusicBrainz) : Json :=
  .obj [
    ("artist_ids", .ofStrings m.artistIds),
    ("album_id", .str m.albumId),
    ("album_artist_ids", .ofStrings m.albumArtistIds),
    ("release_group_id", .str m.releaseGroupId),
    ("track_id", .str m.trackId),
    ("release_type", .str m.releaseType),
    ("release_status", .str m.releaseStatus)]

def Credit.toJson (c : Credit) : Json :=
  .obj [("role", .str c.role), ("names", .ofStrings c.names)]

def Tag.toJson (t : Tag) : Json :=
  .obj [
    ("title", .str t.title),
    ("album", .str t.album),
    ("artist", .str t.artist),
    ("album_artist", .str t.albumArtist),
    ("artist_sort", .str t.artistSort),
    ("album_artist_sort", .str t.albumArtistSort),
    ("composer_sort", .str t.composerSort),
    ("artist_hints", .ofStrings t.artistHints),
    ("album_artist_hints", .ofStrings t.albumArtistHints),
    ("genres", .ofStrings t.genres),
    ("mood", .str t.mood),
    ("comment", .str t.comment),
    ("record_label", .str t.recordLabel),
    ("disc_subtitle", .str t.discSubtitle),
    ("release_date", .str t.releaseDate),
    ("original_date", .str t.originalDate),
    ("musicbrainz", t.musicBrainz.toJson),
    ("track_number", .ofNat t.trackNumber),
    ("disc_number", .ofNat t.discNumber),
    ("bpm", .ofNat t.bpm),
    ("duration", .ofNat t.duration),
    ("bit_rate", .ofNat t.bitRate),
    ("sample_rate", .ofNat t.sampleRate),
    ("bits_per_sample", .ofNat t.bitsPerSample),
    ("channels", .ofNat t.channels),
    ("codec", .str t.codec),
    ("roles", .arr (t.credits.map Credit.toJson)),
    ("compilation", .bool t.compilation),
    ("loaded", .bool t.loaded),
    ("art", .ofOption Picture.toJson t.art)]

def CodecFacts.toJson (f : CodecFacts) : Json :=
  .obj [
    ("codec_name", .str f.codecName),
    ("bit_rate", .ofNat f.bitRate),
    ("channels", .ofNat f.channels),
    ("bits_per_sample", .ofNat f.bitsPerSample),
    ("sample_rate", .ofNat f.sampleRate),
    ("duration", .ofNat f.duration)]

def Warning.toJson : Warning → Json
  | .malformedNumeric key value =>
    .obj [("kind", .str "malformed_numeric"), ("key", .str key), ("value", .str value)]
  | .unmappedKey key => .obj [("kind", .str "unmapped_key"), ("key", .str key)]
  | .anomalousChapterDuration index ms =>
    .obj [("kind", .str "anomalous_chapter_duration"), ("index", .ofNat index),
      ("duration_ms", .int ms)]

def LoadedTag.toJson (l : LoadedTag) : Json :=
  .obj [("tag", l.tag.toJson), ("diagnostics", .arr (l.warnings.map Warning.toJson))]

def ChapterItem.toJson (i : ChapterItem) : Json :=
  .obj [
    ("tag", i.tag.toJson),
    ("start_offset_ms", .int i.startMs),
    ("end_offset_ms", .int i.endMs),
    ("bookmark_ms", .int i.bookmarkMs),
    ("thumbnail", .ofOption .str i.thumbnail),
    ("label", .str i.label),
    ("anomalous", .bool i.anomalous)]

def ChapterSet.toJson (c : ChapterSet) : Json :=
  .obj [
    ("items", .arr (c.items.map ChapterItem.toJson)),
    ("diagnostics", .arr (c.warnings.map Warning.toJson))]

def ScanEntry.toJson (e : ScanEntry) : Json :=
  .obj [
    ("path", .str e.path),
    ("title", .ofOption .str e.title),
    ("codec", .ofOption .str e.codec),
    ("duration", .ofNat e.duration),
    ("chapters", .ofNat e.chapters),
    ("warnings", .ofNat e.warnings),
    ("error", .ofOption .str e.error)]

end MediaTags
