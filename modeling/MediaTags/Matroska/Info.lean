import MediaTags.Matroska.Chapter
import MediaTags.Matroska.Tag
import MediaTags.Matroska.Track

/-!
# What a Matroska file says about itself

A segment's sections are found in front of the first cluster, and through its seek heads behind
it. The first section of a kind counts. A seek entry that leads nowhere is passed over.
-/

namespace MediaTags.Matroska

structure Info where
  tracks : List Track := []
  chapters : List Chapter := []
  /-- Entries about the whole file. -/
  tags : List Entry := []
  /-- Whether there was a section for tags. -/
  hasTags : Bool := false
  durationUs : Option Int := none
  deriving DecidableEq, Repr

namespace Info

/-- The first track with a number. -/
def track? (i : Info) (number : Nat) : Option Track :=
  i.tracks.find? (fun t => t.number == number)

end Info

/-- Where an element with some id is said to be, counted from the start of the segment's
payload. -/
structure Seek where
  id : Nat
  offset : Nat
  deriving DecidableEq, Repr

namespace Seek

/-- Read one child of a seek entry beside the id and the offset before. -/
def readPart (file : Bytes) :
    Option Nat × Option Nat → Element → Except Fault (Option Nat × Option Nat)
  | (id, offset), child =>
    match child.id with
    | Id.seekId => (payload file child).map fun bs =>
        (if bs.length ≤ 4 then some (Bytes.bigEndian bs) else id, offset)
    | Id.seekPosition => (uint file child).map fun n => (id, some n)
    | _ => .ok (id, offset)

def read (file : Bytes) (e : Element) : Except Fault (Option Seek) := do
  let (id, offset) ← (children file e).foldlM (readPart file) (none, none)
  match id, offset with
  | some id, some offset => return some ⟨id, offset⟩
  | _, _ => return none

/-- The entries of a seek head. -/
def readHead (file : Bytes) (e : Element) : Except Fault (List Seek) :=
  ((children file e).readAll Id.seek (Seek.read file)).map fun found => found.filterMap fun s => s

/-- The element that a seek entry leads to, if it lies in the segment and has the right id. -/
def target? (file : Bytes) (segment : Element) (s : Seek) : Option Element :=
  let pos := segment.dataStart + s.offset
  if pos < segment.stop then
    match header file pos segment.stop with
    | .ok e => if e.id = s.id then some e else none
    | .error _ => none
  else none

end Seek

/-- The segment of a file that is `len` bytes long. -/
def readSegment (file : Bytes) (len : Nat) : Except Fault Element := do
  let head ← header file 0 len
  if head.id ≠ Id.ebml then throw .missingHeader
  let segment ← header file head.stop len
  if segment.id ≠ Id.segment then throw .missingSegment
  return segment

/-- The elements in which sections are looked for, in order. -/
def readSections (file : Bytes) (segment : Element) : Except Fault (List Element) := do
  let front := childrenUntil file (fun e => e.id == Id.cluster) segment
  let seeks ← front.readAll Id.seekHead (Seek.readHead file)
  return front.elements ++ seeks.flatten.filterMap (Seek.target? file segment)

/-- Read the first section with an id. -/
def readSection {α : Type} (sections : List Element) (wanted : Nat)
    (read : Element → Except Fault α) : Except Fault (Option α) :=
  match sections.find? (fun e => e.id == wanted) with
  | some e => (read e).map some
  | none => .ok none

def defaultTimecodeScale : Nat := 1000000

/-- A duration in microseconds, given in units of `scale` nanoseconds. -/
def microseconds? (scale : Nat) (duration : Float) : Option Int :=
  if duration.isFinite && 0.0 ≤ duration then
    some (duration * (UInt64.ofNat scale).toFloat / 1000.0).toInt64.toInt
  else none

/-- Read one child of an information section beside the scale and the duration before. -/
def readDurationPart (file : Bytes) :
    Nat × Option Float → Element → Except Fault (Nat × Option Float)
  | (scale, duration), child =>
    match child.id with
    | Id.timecodeScale => (uint file child).map fun n => (n, duration)
    | Id.duration => (float file child).map fun d => (scale, some d)
    | _ => .ok (scale, duration)

/-- The duration that an information section declares. -/
def readDuration (file : Bytes) (e : Element) : Except Fault (Option Int) := do
  let (scale, duration) ←
    (children file e).foldlM (readDurationPart file) (defaultTimecodeScale, none)
  return duration.bind (microseconds? scale)

/-- Read a file that is said to be `len` bytes long. -/
def readInfo (file : Bytes) (len : Nat) : Except Fault Info := do
  let segment ← readSegment file len
  let sections ← readSections file segment
  let durationUs ← readSection sections Id.info (readDuration file)
  let tracks ← readSection sections Id.tracks fun e =>
    (children file e).readAll Id.trackEntry (Track.read file)
  let tags ← readSection sections Id.tags fun e =>
    (children file e).readAll Id.tag (TagElement.read file)
  let atoms ← readSection sections Id.chapters (Edition.readAtoms file)
  let routed := tags.getD []
  return {
    tracks := (tracks.getD []).map fun t =>
      { t with tags := routed.flatMap (TagElement.trackEntries t.uid) }
    chapters := (atoms.getD []).map fun a =>
      a.toChapter (routed.flatMap (TagElement.chapterEntries a.uid))
    tags := routed.flatMap TagElement.globalEntries
    hasTags := tags.isSome
    durationUs := durationUs.join }

end MediaTags.Matroska
