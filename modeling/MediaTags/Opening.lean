import MediaTags.Demux.Finding
import MediaTags.Resource
import MediaTags.Settings
import MediaTags.Source.Buffered
import MediaTags.Structure

/-!
# Opening a container

The findings of a demuxer and the structure read from the bytes are put together. A demuxer's own
values go first; what it left unknown is filled in. How a demuxer comes by its findings is left out:
they are given, whatever the bytes are.
-/

namespace MediaTags

open Demux (Cue Finding Format Revision)

namespace Opening

/-- One stream for each track, with the values that a Matroska track of the same number adds. -/
def streams (info : Option Matroska.Info) (tracks : List Demux.Track) : List Stream :=
  tracks.mapIdx fun index t =>
    match info.bind (·.track? t.id) with
    | some declared => declared.applyTo (t.toStream index)
    | none => t.toStream index

/-- The entries of the blocks ahead of a container and of the container. Matroska tags replace the
container's own list, which mixes in those of tracks and chapters. -/
def entries (info : Option Matroska.Info) (blocks : List Revision) (format : Format) :
    List Entry :=
  let own := (format.revision.map Revision.entries).getD []
  blocks.flatMap Revision.entries ++
    match info with
    | some info => if info.hasTags then info.tags else own
    | none => own

/-- The picture of the blocks ahead of a container and of the container. -/
def art? (blocks : List Revision) (format : Format) : Option Picture :=
  Revision.art? (blocks ++ format.revision.toList)

/-- The length of the longest stream in microseconds, which has to be a signed 64-bit number. -/
def longestUs? (streams : List Stream) : Except (Abort ProbeFailure) (Option Int) :=
  match ((streams.filterMap Stream.durationMs).filter (0 ≤ ·)).max? with
  | none => .ok none
  | some ms => if ms * 1000 ≤ maxInstant then .ok (some (ms * 1000)) else .error .overflow

/-- A cue's position as an instant. -/
def cueStart (c : Cue) : Int := clampInstant c.start

/-- Chapters from cues. Each ends where the next one starts. -/
def cueChapters (base : TimeBase) : List Cue → List Chapter
  | [] => []
  | c :: rest =>
    { start := cueStart c
      stop := rest.head?.map cueStart
      timeBase := base
      metadata := c.tags.filterMap Demux.RawTag.rawEntry? } :: cueChapters base rest

/-- The declared chapters. Without any, cues are chapters on the clock of the first audio
stream. -/
def chapters (declared : List Chapter) (cues : List Cue) (streams : List Stream) : List Chapter :=
  if declared.isEmpty then
    match (streams.find? (·.kind == .audio)).bind Stream.timeBase with
    | some base => cueChapters base cues
    | none => []
  else declared

/-- The bits per second of `len` bytes in a time, if that is a 64-bit number. -/
def bitRate? (len : Nat) (durationUs : Nat) : Option Nat :=
  let rate := len * 8 * 1000000 / durationUs
  if rate < UInt64.size then some rate else none

/-- Give a bit rate to the first audio stream that has none. -/
def setBitRate (rate : Option Nat) : List Stream → List Stream
  | [] => []
  | s :: rest =>
    if s.kind = .audio ∧ s.bitRate = none then { s with bitRate := rate } :: rest
    else s :: setBitRate rate rest

/-- Estimate a missing bit rate from the size and the duration. -/
def estimateBitRate (c : Container) : Container :=
  match c.byteLen, c.durationUs with
  | some len, some d =>
    if 0 < d then { c with streams := setBitRate (bitRate? len d.toNat) c.streams } else c
  | _, _ => c

/-- The container that a demuxer found under a name, with the length of its longest stream. -/
def container (name : String) (byteLen : Option Nat) (structure? : Option Structure)
    (blocks : List Revision) (format : Format) (longestUs : Option Int) : Container :=
  let info := structure?.bind Structure.matroska?
  let streams := streams info format.tracks
  estimateBitRate {
    format := ((Resource.extension? name).map Text.lower).getD ""
    metadata := entries info blocks format
    streams
    chapters := chapters ((structure?.map Structure.chapters).getD []) format.cues streams
    durationUs := longestUs <|> info.bind Matroska.Info.durationUs
    byteLen
    art := art? blocks format }

end Opening

namespace Source

/-- Open the container in a source of which some structure may be known. -/
def openWith (s : Source) (structure? : Option Structure) (name : String)
    (settings : ProbeSettings) (findings : List Finding) :
    Except (Abort ProbeFailure) Opened := do
  let buffered := Buffered.ofSource s settings.blockSize
  let (blocks, format) ← (Finding.collect name findings []).mapError .failure
  let longestUs ←
    Opening.longestUs? (Opening.streams (structure?.bind Structure.matroska?) format.tracks)
  return {
    name
    seekable := buffered.isSeekable
    container := Opening.container name buffered.byteLen? structure? blocks format longestUs }

/-- Open the container in a source, whose structure is read first. -/
def probe (s : Source) (name : String) (settings : ProbeSettings) (findings : List Finding)
    (walk : List Request := []) : Except (Abort ProbeFailure) Opened := do
  let (structure?, s) ← (s.readStructure walk).mapError (·.map .io)
  s.openWith structure? name settings findings

end Source

end MediaTags
