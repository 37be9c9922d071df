import MediaTags.Bytes
import MediaTags.Tag.Credits
import MediaTags.Tag.Field

/-!
# Tags

A tag is what is known about one playable item. A setter ignores a blank value, so a later blank
never clears an earlier value.
-/

namespace MediaTags

/-- A picture that came with the media. -/
structure Picture where
  data : Bytes
  mimeType : String
  deriving DecidableEq, Repr

structure MusicBrainz where
  artistIds : List String := []
  albumId : String := ""
  albumArtistIds : List String := []
  releaseGroupId : String := ""
  trackId : String := ""
  releaseType : String := ""
  releaseStatus : String := ""
  deriving DecidableEq, Repr

/-- Numeric facts about a stream and the name of its codec. Bit rates are in kilobits per second,
durations in whole seconds. -/
structure CodecFacts where
  codecName : String := ""
  bitRate : Nat := 0
  channels : Nat := 0
  bitsPerSample : Nat := 0
  sampleRate : Nat := 0
  duration : Nat := 0
  deriving DecidableEq, Repr

structure Tag where
  title : String := ""
  album : String := ""
  artist : String := ""
  albumArtist : String := ""
  artistSort : String := ""
  albumArtistSort : String := ""
  composerSort : String := ""
  artistHints : List String := []
  albumArtistHints : List String := []
  genres : List String := []
  mood : String := ""
  comment : String := ""
  recordLabel : String := ""
  discSubtitle : String := ""
  releaseDate : String := ""
  originalDate : String := ""
  musicBrainz : MusicBrainz := {}
  trackNumber : Nat := 0
  discNumber : Nat := 0
  bpm : Nat := 0
  duration : Nat := 0
  bitRate : Nat := 0
  sampleRate : Nat := 0
  bitsPerSample : Nat := 0
  channels : Nat := 0
  codec : String := ""
  credits : List Credit := []
  compilation : Bool := false
  loaded : Bool := false
  art : Option Picture := none
  deriving DecidableEq, Repr

namespace Tag

def empty : Tag := {}

def text (t : Tag) : TextField → String
  | .title => t.title
  | .album => t.album
  | .artist => t.artist
  | .albumArtist => t.albumArtist
  | .artistSort => t.artistSort
  | .albumArtistSort => t.albumArtistSort
  | .composerSort => t.composerSort
  | .mood => t.mood
  | .comment => t.comment
  | .recordLabel => t.recordLabel
  | .discSubtitle => t.discSubtitle
  | .releaseDate => t.releaseDate
  | .originalDate => t.originalDate
  | .musicBrainzAlbumId => t.musicBrainz.albumId
  | .musicBrainzReleaseGroupId => t.musicBrainz.releaseGroupId
  | .musicBrainzTrackId => t.musicBrainz.trackId
  | .musicBrainzReleaseType => t.musicBrainz.releaseType
  | .musicBrainzReleaseStatus => t.musicBrainz.releaseStatus

def putText (t : Tag) (f : TextField) (s : String) : Tag :=
  match f with
  | .title => { t with title := s }
  | .album => { t with album := s }
  | .artist => { t with artist := s }
  | .albumArtist => { t with albumArtist := s }
  | .artistSort => { t with artistSort := s }
  | .albumArtistSort => { t with albumArtistSort := s }
  | .composerSort => { t with composerSort := s }
  | .mood => { t with mood := s }
  | .comment => { t with comment := s }
  | .recordLabel => { t with recordLabel := s }
  | .discSubtitle => { t with discSubtitle := s }
  | .releaseDate => { t with releaseDate := s }
  | .originalDate => { t with originalDate := s }
  | .musicBrainzAlbumId => { t with musicBrainz.albumId := s }
  | .musicBrainzReleaseGroupId => { t with musicBrainz.releaseGroupId := s }
  | .musicBrainzTrackId => { t with musicBrainz.trackId := s }
  | .musicBrainzReleaseType => { t with musicBrainz.releaseType := s }
  | .musicBrainzReleaseStatus => { t with musicBrainz.releaseStatus := s }

def list (t : Tag) : ListField → List String
  | .genres => t.genres
  | .artistHints => t.artistHints
  | .albumArtistHints => t.albumArtistHints
  | .musicBrainzArtistIds => t.musicBrainz.artistIds
  | .musicBrainzAlbumArtistIds => t.musicBrainz.albumArtistIds

def putList (t : Tag) (f : ListField) (l : List String) : Tag :=
  match f with
  | .genres => { t with genres := l }
  | .artistHints => { t with artistHints := l }
  | .albumArtistHints => { t with albumArtistHints := l }
  | .musicBrainzArtistIds => { t with musicBrainz.artistIds := l }
  | .musicBrainzAlbumArtistIds => { t with musicBrainz.albumArtistIds := l }

def number (t : Tag) : NumberField → Nat
  | .track => t.trackNumber
  | .disc => t.discNumber
  | .bpm => t.bpm

def putNumber (t : Tag) (f : NumberField) (n : Nat) : Tag :=
  match f with
  | .track => { t with trackNumber := n }
  | .disc => { t with discNumber := n }
  | .bpm => { t with bpm := n }

@[simp] theorem text_putText (t : Tag) (f g : TextField) (s : String) :
    (t.putText f s).text g = if f = g then s else t.text g := by
  cases f <;> cases g <;> rfl

@[simp] theorem list_putList (t : Tag) (f g : ListField) (l : List String) :
    (t.putList f l).list g = if f = g then l else t.list g := by
  cases f <;> cases g <;> rfl

@[simp] theorem number_putNumber (t : Tag) (f g : NumberField) (n : Nat) :
    (t.putNumber f n).number g = if f = g then n else t.number g := by
  cases f <;> cases g <;> rfl

@[simp] theorem list_putText (t : Tag) (f : TextField) (g : ListField) (s : String) :
    (t.putText f s).list g = t.list g := by
  cases f <;> cases g <;> rfl

@[simp] theorem number_putText (t : Tag) (f : TextField) (g : NumberField) (s : String) :
    (t.putText f s).number g = t.number g := by
  cases f <;> cases g <;> rfl

@[simp] theorem text_putList (t : Tag) (f : ListField) (g : TextField) (l : List String) :
    (t.putList f l).text g = t.text g := by
  cases f <;> cases g <;> rfl

@[simp] theorem number_putList (t : Tag) (f : ListField) (g : NumberField) (l : List String) :
    (t.putList f l).number g = t.number g := by
  cases f <;> cases g <;> rfl

@[simp] theorem text_putNumber (t : Tag) (f : NumberField) (g : TextField) (n : Nat) :
    (t.putNumber f n).text g = t.text g := by
  cases f <;> cases g <;> rfl

@[simp] theorem list_putNumber (t : Tag) (f : NumberField) (g : ListField) (n : Nat) :
    (t.putNumber f n).list g = t.list g := by
  cases f <;> cases g <;> rfl

/-- Store a text trimmed, unless it is blank. -/
def setText (t : Tag) (f : TextField) (value : String) : Tag :=
  match Text.present? value with
  | some s => t.putText f s
  | none => t

/-- Store a list, unless it is empty. -/
def setList (t : Tag) (f : ListField) (values : List String) : Tag :=
  if values.isEmpty then t else t.putList f values

def setTitle (t : Tag) (value : String) : Tag := t.setText .title value

def setAlbum (t : Tag) (value : String) : Tag := t.setText .album value

def setArtist (t : Tag) (value : String) : Tag := t.setText .artist value

def setAlbumArtist (t : Tag) (value : String) : Tag := t.setText .albumArtist value

def setComment (t : Tag) (value : String) : Tag := t.setText .comment value

def setGenres (t : Tag) (values : List String) : Tag := t.setList .genres values

/-- Credit people with a role, merging with those already credited. -/
def credit (t : Tag) (role : String) (names : List String) : Tag :=
  { t with credits := Credit.add role names t.credits }

def role (t : Tag) (role : String) : List String := Credit.namesOf role t.credits

def composers (t : Tag) : List String := t.role "Composer"

/-- A tag counts as loaded once it has a title. -/
def finish (t : Tag) : Tag :=
  { t with loaded := (Text.present? t.title).isSome }

/-- Take over the facts about a stream. A duration that is already known stays. -/
def applyFacts (t : Tag) (facts : CodecFacts) : Tag :=
  { t with
    bitRate := facts.bitRate
    sampleRate := facts.sampleRate
    bitsPerSample := facts.bitsPerSample
    channels := facts.channels
    codec := (Text.present? facts.codecName).getD t.codec
    duration := if t.duration = 0 then facts.duration else t.duration }

end Tag

end MediaTags
