import MediaTags.Container
import MediaTags.Matroska.Id
import MediaTags.Matroska.Value

/-!
# Tracks

A track entry as declared, the codec its id names, and how it fills in what is not known about a
stream.
-/

namespace MediaTags.Matroska

structure Track where
  number : Nat := 0
  uid : Nat := 0
  trackType : Option Nat := none
  codecId : String := ""
  codecPrivate : Option Bytes := none
  name : Option String := none
  sampleRate : Option Nat := none
  channels : Option Nat := none
  bitDepth : Option Nat := none
  tags : List Entry := []
  deriving DecidableEq, Repr

namespace Track

def videoType : Nat := 1

def audioType : Nat := 2

/-- The whole number nearest to a sampling frequency, if that is at least one. -/
def sampleRateOf? (rate : Float) : Option Nat :=
  if 1.0 ≤ rate then some rate.round.toUInt32.toNat else none

/-- A number that fits in 32 bits. -/
def count? (n : Nat) : Option Nat := if n ≤ Text.maxCount then some n else none

def readAudio (file : Bytes) (t : Track) (e : Element) : Except Fault Track :=
  match e.id with
  | Id.samplingFrequency => (float file e).map fun r => { t with sampleRate := sampleRateOf? r }
  | Id.channels => (uint file e).map fun n => { t with channels := count? n }
  | Id.bitDepth => (uint file e).map fun n => { t with bitDepth := count? n }
  | _ => .ok t

def readChild (file : Bytes) (t : Track) (e : Element) : Except Fault Track :=
  match e.id with
  | Id.trackNumber => (uint file e).map fun n => { t with number := n }
  | Id.trackUid => (uint file e).map fun n => { t with uid := n }
  | Id.trackType => (uint file e).map fun n => { t with trackType := some n }
  | Id.codecId => (text file e).map fun s => { t with codecId := s }
  | Id.codecPrivate => (payload file e).map fun bs => { t with codecPrivate := some bs.toArray }
  | Id.name => (text file e).map fun s => { t with name := some s }
  | Id.audio => (children file e).foldlM (readAudio file) t
  | _ => .ok t

def read (file : Bytes) (e : Element) : Except Fault Track :=
  (children file e).foldlM (readChild file) {}

/-- The codec that a codec id names, and the profile it declares. -/
def codec (t : Track) : Codec × Option Profile :=
  match t.codecId with
  | "A_DTS" => (.dts, none)
  | "A_DTS/EXPRESS" => (.dts, none)
  | "A_DTS/LOSSLESS" => (.dts, some .dtsHdMaster)
  | "A_EAC3" => (.eac3, none)
  | "A_TRUEHD" => (.trueHd, none)
  | "A_MLP" => (.other "mlp", none)
  | "A_MPEG/L3" => (.mp3, none)
  | "A_FLAC" => (.flac, none)
  | "A_OPUS" => (.opus, none)
  | "A_VORBIS" => (.vorbis, none)
  | "A_ALAC" => (.alac, none)
  | name =>
    if (Text.after? "A_AC3" name).isSome then (.ac3, none)
    else if (Text.after? "A_AAC" name).isSome then (.aac, none)
    else (.other (Text.asciiLower ((Text.after? "A_" name).getD name)), none)

/-- The entries that a track adds to a stream: its name as a title, then its tags. -/
def entries (t : Track) : List Entry :=
  (match t.name with
    | some name => if name.isEmpty then [] else [⟨"title", name⟩]
    | none => []) ++ t.tags

/-- Fill in what is not known about a stream. -/
def applyTo (t : Track) (s : Stream) : Stream :=
  { s with
    codec := if s.codec = .unknown then t.codec.1 else s.codec
    profile := if s.codec = .unknown then s.profile <|> t.codec.2 else s.profile
    kind :=
      if t.trackType = some audioType then .audio
      else if t.trackType = some videoType then .video
      else s.kind
    sampleRate := s.sampleRate <|> t.sampleRate
    channels := s.channels <|> t.channels
    bitsPerRawSample := s.bitsPerRawSample <|> t.bitDepth
    privateData := s.privateData <|> t.codecPrivate
    metadata := s.metadata ++ t.entries }

end Track

end MediaTags.Matroska
