import MediaTags.Container
import MediaTags.Text.Search

/-!
# Tracks as a demuxer reports them

Each track becomes one stream. Codecs without a decoder still declare their audio parameters, so a
track is taken for audio unless it declares neither a codec nor any such parameter.
-/

namespace MediaTags.Demux

structure Track where
  id : Nat := 0
  /-- The codec, unless the track declares none. -/
  codec : Option Codec := none
  sampleRate : Option Nat := none
  channels : Option Nat := none
  bitsPerCodedSample : Option Nat := none
  bitsPerSample : Option Nat := none
  timeBase : Option TimeBase := none
  frames : Option Nat := none
  extraData : Option Bytes := none
  language : Option String := none
  deriving DecidableEq, Repr

/-- The codec with a demuxer's name. A codec without a decoder has no short name. -/
def codecNamed (name : String) : Option Codec :=
  match name with
  | "null" => none
  | "mp3" => some .mp3
  | "aac" => some .aac
  | "flac" => some .flac
  | "vorbis" => some .vorbis
  | "opus" => some .opus
  | "alac" => some .alac
  | "dca" => some .dts
  | "eac3" => some .eac3
  | "adpcm_ms" => some (.other name)
  | "adpcm_ima_wav" => some (.other name)
  | _ => some (if (Text.after? "pcm_" name).isSome then .other name else .unknown)

namespace Track

def isAudio (t : Track) : Bool :=
  t.codec.isSome || t.sampleRate.isSome || t.channels.isSome

/-- The declared time base, or else one frame of the sample rate. -/
def unit? (t : Track) : Option TimeBase :=
  t.timeBase <|> (t.sampleRate.filter (0 < ·)).map (⟨1, ·⟩)

/-- The number of frames, if it is a signed 64-bit number. -/
def duration? (t : Track) : Option Int :=
  (t.frames.map Int.ofNat).filter (· ≤ maxInstant)

def toStream (t : Track) (index : Nat) : Stream where
  index := index
  kind := if t.isAudio then .audio else .other
  codec := t.codec.getD .unknown
  sampleRate := t.sampleRate
  channels := t.channels
  bitsPerCodedSample := t.bitsPerCodedSample
  bitsPerRawSample := t.bitsPerSample
  timeBase := t.unit?
  duration := t.duration?
  metadata := t.language.toList.map (⟨"language", ·⟩)
  privateData := t.extraData

end Track

end MediaTags.Demux
