import MediaTags.Normalize
import MediaTags.Timeline

/-!
# Containers

What a media file holds, as far as it is known after opening: its metadata, its streams, its
chapters and a picture.
-/

namespace MediaTags

inductive StreamKind where
  | audio
  | video
  | other
  deriving DecidableEq, Repr

/-- Codecs with a name of their own here; any other one goes by its short name. -/
inductive Codec where
  | mp3
  | aac
  | flac
  | vorbis
  | opus
  | alac
  | ac3
  | eac3
  | trueHd
  | dts
  | other (name : String)
  | unknown
  deriving DecidableEq, Repr

/-- Variants of a codec that a file can declare. -/
inductive Profile where
  | dtsHdHighResolution
  | dtsHdMaster
  | dtsHdMasterX
  | dtsHdMasterXImax
  | eac3Atmos
  | trueHdAtmos
  deriving DecidableEq, Repr

/-- One stream. Bit rates are in bits per second, durations in units of the time base. -/
structure Stream where
  index : Nat := 0
  kind : StreamKind := .audio
  codec : Codec := .unknown
  profile : Option Profile := none
  sampleRate : Option Nat := none
  channels : Option Nat := none
  bitRate : Option Nat := none
  bitsPerCodedSample : Option Nat := none
  bitsPerRawSample : Option Nat := none
  timeBase : Option TimeBase := none
  duration : Option Int := none
  metadata : List Entry := []
  privateData : Option Bytes := none
  deriving DecidableEq, Repr

/-- A chapter as the file declares it; broken files have negative starts. -/
structure Chapter where
  start : Int
  stop : Option Int := none
  timeBase : TimeBase
  metadata : List Entry := []
  deriving DecidableEq, Repr

structure Container where
  format : String := ""
  metadata : List Entry := []
  streams : List Stream := []
  chapters : List Chapter := []
  durationUs : Option Int := none
  byteLen : Option Nat := none
  art : Option Picture := none
  deriving DecidableEq, Repr

/-- A container together with the name it was opened under. -/
structure Opened where
  name : String
  seekable : Bool := true
  container : Container
  deriving DecidableEq, Repr

namespace Stream

/-- The duration, unless it is unknown or negative. -/
def durationMs (s : Stream) : Option Int :=
  match s.timeBase, s.duration with
  | some base, some d => if 0 ≤ d then some (base.toMillis d) else none
  | _, _ => none

end Stream

namespace Chapter

def startMs (c : Chapter) : Int := c.timeBase.toMillis c.start

def stopMs (c : Chapter) : Option Int := c.stop.map c.timeBase.toMillis

end Chapter

namespace Container

def firstAudio? (c : Container) : Option Stream :=
  c.streams.find? (fun s => s.kind == .audio)

def durationMs (c : Container) : Option Int := c.durationUs.map (·.tdiv 1000)

/-- The duration of the first audio stream. -/
def streamDurationMs (c : Container) : Option Int := c.firstAudio?.bind Stream.durationMs

/-- Whether there are enough chapters to make a set of items. -/
def hasChapters (c : Container) : Bool := 1 < c.chapters.length

end Container

end MediaTags
