import MediaTags.Matroska.Info
import MediaTags.Proofs.Matroska.Chapter

/-!
# Files as they are described

A description lists the tracks and the chapters of a file. It leaves open how a file writes them:
how wide sizes and numbers are, in which order children come, and what else lies between them. A
file writes a description if, at each level, the children with a known id are those described.
-/

namespace MediaTags.Matroska

/-- A text that is not too long to be read and does not end like a padded one. -/
structure Label where
  text : String
  length_le : (Text.Utf8.encode text.toList).length ≤ maxPayload := by decide
  plain : text.toList.getLast? ≠ some (Char.ofNat 0) := by decide

structure TrackDescription where
  number : Nat
  uid : Nat
  trackType : Option Nat := none
  codecId : Label
  codecPrivate : Option (List UInt8) := none
  name : Option Label := none
  audio : Option Track.Audio := none

/-- The track that is described. -/
def TrackDescription.track (d : TrackDescription) : Track where
  number := d.number
  uid := d.uid
  trackType := d.trackType
  codecId := d.codecId.text
  codecPrivate := d.codecPrivate.map List.toArray
  name := d.name.map Label.text
  channels := d.audio.bind Track.Audio.channels
  bitDepth := d.audio.bind Track.Audio.bitDepth

structure ChapterDescription where
  uid : Nat
  start : Nat
  stop : Option Nat := none
  title : Option Label := none
  uid_ne : uid ≠ 0 := by decide
  start_le : (start : Int) ≤ maxInstant := by decide
  stop_le : ∀ n ∈ stop, (n : Int) ≤ maxInstant := by decide

/-- The atom that is described. -/
def ChapterDescription.atom (d : ChapterDescription) : Atom where
  uid := d.uid
  start := d.start
  stop := d.stop
  title := d.title.map Label.text

/-- The chapter that is described, in nanoseconds. -/
def ChapterDescription.chapter (d : ChapterDescription) : Chapter where
  start := d.start
  stop := d.stop.map Int.ofNat
  timeBase := ⟨1, 1000000000⟩
  metadata := (d.title.toList.filter (·.text ≠ "")).map fun title => ⟨"title", title.text⟩

structure FileDescription where
  tracks : List TrackDescription
  chapters : List ChapterDescription
  increasing : chapters.Pairwise (·.start < ·.start) := by decide

/-- What reading the file should give. -/
def FileDescription.info (d : FileDescription) : Info where
  tracks := d.tracks.map TrackDescription.track
  chapters := d.chapters.map ChapterDescription.chapter

namespace Node

/-- A number in at most eight bytes. -/
def WritesUint (n : Node) (value : Nat) : Prop :=
  n.payload.length ≤ 8 ∧ Bytes.bigEndian n.payload = value

instance (n : Node) (value : Nat) : Decidable (n.WritesUint value) :=
  inferInstanceAs (Decidable (_ ∧ _))

def WritesBytes (n : Node) (bs : List UInt8) : Prop :=
  n.payload = bs ∧ bs.length ≤ maxPayload

def WritesLabel (n : Node) (l : Label) : Prop := n.payload = Text.Utf8.encode l.text.toList

/-- The payload is made of nodes for which `P` holds. -/
def Contains (n : Node) (P : List Node → Prop) : Prop := ∃ ns, n.HasChildren ns ∧ P ns

structure ListsAudio (a : Track.Audio) (ns : List Node) : Prop where
  channels : Each id Id.channels WritesUint ns a.channels.toList
  bitDepth : Each id Id.bitDepth WritesUint ns a.bitDepth.toList
  samplingFrequency : ∀ m ∈ ns, m.id ≠ Id.samplingFrequency

def WritesAudio (n : Node) (a : Track.Audio) : Prop := n.Contains (ListsAudio a)

structure ListsTrack (d : TrackDescription) (ns : List Node) : Prop where
  number : Each id Id.trackNumber WritesUint ns [d.number]
  uid : Each id Id.trackUid WritesUint ns [d.uid]
  trackType : Each id Id.trackType WritesUint ns d.trackType.toList
  codecId : Each id Id.codecId WritesLabel ns [d.codecId]
  codecPrivate : Each id Id.codecPrivate WritesBytes ns d.codecPrivate.toList
  name : Each id Id.name WritesLabel ns d.name.toList
  audio : Each id Id.audio WritesAudio ns d.audio.toList

def WritesTrack (n : Node) (d : TrackDescription) : Prop := n.Contains (ListsTrack d)

def WritesTracks (n : Node) (d : FileDescription) : Prop :=
  n.Contains fun ns => Each id Id.trackEntry WritesTrack ns d.tracks

def WritesDisplay (n : Node) (title : Label) : Prop :=
  n.Contains fun ns => Each id Id.chapString WritesLabel ns [title]

/-- The flags may be left out. -/
structure ListsChapter (d : ChapterDescription) (ns : List Node) : Prop where
  uid : Each id Id.chapterUid WritesUint ns [d.uid]
  start : Each id Id.chapterTimeStart WritesUint ns [d.start]
  stop : Each id Id.chapterTimeEnd WritesUint ns d.stop.toList
  title : Each id Id.chapterDisplay WritesDisplay ns d.title.toList
  hidden : ∀ m ∈ ns, m.id = Id.chapterFlagHidden → m.WritesUint 0
  enabled : ∀ m ∈ ns, m.id = Id.chapterFlagEnabled →
    m.payload.length ≤ 8 ∧ Bytes.bigEndian m.payload ≠ 0

def WritesChapter (n : Node) (d : ChapterDescription) : Prop := n.Contains (ListsChapter d)

/-- An edition, which may say whether it is the default one. -/
structure ListsEdition (ds : List ChapterDescription) (ns : List Node) : Prop where
  atoms : Each id Id.chapterAtom WritesChapter ns ds
  isDefault : ∀ m ∈ ns, m.id = Id.editionFlagDefault → m.payload.length ≤ 8

def WritesEdition (n : Node) (ds : List ChapterDescription) : Prop := n.Contains (ListsEdition ds)

def WritesChapters (n : Node) (d : FileDescription) : Prop :=
  n.Contains fun ns => Each id Id.editionEntry WritesEdition ns [d.chapters]

/-- A segment with a section for tracks and one for chapters, and no other section. -/
structure ListsSegment (d : FileDescription) (ns : List Node) : Prop where
  tracks : Each id Id.tracks WritesTracks ns [d]
  chapters : Each id Id.chapters WritesChapters ns [d]
  others : ∀ m ∈ ns, m.id ∉ [Id.cluster, Id.seekHead, Id.info, Id.tags]

def WritesSegment (n : Node) (d : FileDescription) : Prop :=
  n.id = Id.segment ∧ n.Contains (ListsSegment d)

end Node

/-- A header of the format, and a segment behind it. -/
def Writes (file : Bytes) (d : FileDescription) : Prop :=
  ∃ head segment : Node, head.id = Id.ebml ∧ segment.WritesSegment d ∧
    file.toList = head.bytes ++ segment.bytes

end MediaTags.Matroska
