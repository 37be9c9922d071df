import MediaTags.Container
import MediaTags.Failure

/-!
# Naming a codec and reporting its facts

A declared profile names the codec. Without one, the free text around the stream is searched for
hints, and a DTS stream without any hint is judged by the first byte of its configuration.
-/

namespace MediaTags

def Codec.shortName : Codec → String
  | .mp3 => "mp3"
  | .aac => "aac"
  | .flac => "flac"
  | .vorbis => "vorbis"
  | .opus => "opus"
  | .alac => "alac"
  | .ac3 => "ac3"
  | .eac3 => "eac3"
  | .trueHd => "truehd"
  | .dts => "dca"
  | .other name => name
  | .unknown => "unknown"

def Profile.name : Profile → String
  | .dtsHdHighResolution => "dtshd_hra"
  | .dtsHdMaster => "dtshd_ma"
  | .dtsHdMasterX => "dtshd_ma_x"
  | .dtsHdMasterXImax => "dtshd_ma_x_imax"
  | .eac3Atmos => "eac3_ddp_atmos"
  | .trueHdAtmos => "truehd_atmos"

/-- What free text says about a codec. -/
inductive Hint where
  | masterAudio
  | atmos
  deriving DecidableEq, Repr

namespace Hint

/-- The hint in one text, in any case. -/
def inText? (s : String) : Option Hint :=
  let s := Text.upper s
  if Text.occursIn "HDMA" s || Text.occursIn "DTS-HD" s || Text.occursIn "MASTER AUDIO" s then
    some .masterAudio
  else if Text.occursIn "ATMOS" s || Text.occursIn "JOC" s then some .atmos
  else none

/-- The hint in the first text that has one. -/
def first? (texts : List String) : Option Hint := texts.findSome? inText?

end Hint

namespace Stream

/-- The first byte of a DTS configuration with a lossless extension. -/
def masterAudioMarker : UInt8 := 0x40

def hasMasterAudioMarker (s : Stream) : Bool :=
  match s.privateData with
  | some data => data[0]? == some masterAudioMarker
  | none => false

def codecName (s : Stream) : String :=
  match s.profile with
  | some p => p.name
  | none =>
    match s.codec, Hint.first? (s.metadata.map Entry.value) with
    | .dts, some .masterAudio => Profile.dtsHdMaster.name
    | .dts, none => if s.hasMasterAudioMarker then Profile.dtsHdMaster.name else s.codec.shortName
    | .eac3, some .atmos => Profile.eac3Atmos.name
    | .trueHd, some .atmos => Profile.trueHdAtmos.name
    | codec, _ => codec.shortName

/-- The sample size as coded, or as decoded where the coded one is unknown or zero. -/
def bitsPerSample (s : Stream) : Nat :=
  match s.bitsPerCodedSample with
  | some (n + 1) => n + 1
  | _ => s.bitsPerRawSample.getD 0

/-- The whole seconds in a positive number of milliseconds. -/
def wholeSeconds (ms : Option Int) : Nat :=
  match ms with
  | some n => (n / 1000).toNat
  | none => 0

def facts (s : Stream) : CodecFacts where
  codecName := s.codecName
  bitRate := min (s.bitRate.getD 0 / 1000) Text.maxCount
  channels := s.channels.getD 0
  bitsPerSample := s.bitsPerSample
  sampleRate := s.sampleRate.getD 0
  duration := min (wholeSeconds s.durationMs) Text.maxCount

end Stream

namespace Container

/-- The facts about the first audio stream. A stream that does not say how long it is takes the
container's length, of which 32 bits are kept. -/
def probeCodec (c : Container) : Except ProbeFailure CodecFacts :=
  match c.firstAudio? with
  | none => .error .noAudioStream
  | some stream =>
    let facts := stream.facts
    .ok (if facts.duration = 0 then
        { facts with duration := Stream.wholeSeconds c.durationMs % UInt32.size }
      else facts)

end Container

end MediaTags
