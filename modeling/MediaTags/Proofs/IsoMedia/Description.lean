import MediaTags.IsoMedia.Chapters
import MediaTags.Proofs.IsoMedia.SampleTable

/-!
# Files with a chapter track, as they are described

A description divides the titles of chapters into chunks and says where these lie. It leaves open
how a file writes its tables: in which runs it counts durations and chunks, how wide sizes and
offsets are, in which order atoms come, and what else lies between them.
-/

namespace MediaTags.IsoMedia

/-- An id, and the tracks that are referred to for their chapters. -/
structure TrackDescription where
  id : Nat
  refs : List Nat := []

/-- A track whose samples are the titles of chapters. -/
structure TextTrack extends TrackDescription where
  timescale : Nat
  chunks : List Chunk
  timescale_ne : timescale ≠ 0 := by decide
  chunks_ne : chunks ≠ [] := by simp
  length_le : (chunks.flatMap Chunk.samples).length ≤ maxSamples := by decide

namespace TextTrack

def samples (d : TextTrack) : List TextSample := d.chunks.flatMap Chunk.samples

def durations (d : TextTrack) : List Nat := d.samples.map TextSample.duration

def sizes (d : TextTrack) : List Nat := d.samples.map fun s => s.bytes.length

/-- How many samples each chunk has. -/
def counts (d : TextTrack) : List Nat := d.chunks.map fun c => c.samples.length

def offsets (d : TextTrack) : List Nat := d.chunks.map Chunk.offset

/-- The chapters of the track. Each one starts when all samples before it are over. -/
def chapters (d : TextTrack) : List Chapter :=
  d.samples.mapIdx fun i s =>
    let start := (d.durations.take i).sum
    { start := start
      stop := some (start + s.duration)
      timeBase := ⟨1, d.timescale⟩
      metadata := if s.title = "" then [] else [⟨"title", s.title⟩] }

end TextTrack

/-- The tracks of a movie in order. The first one that is referred to is that with chapters. -/
structure MovieDescription where
  before : List TrackDescription := []
  text : TextTrack
  after : List TrackDescription := []
  refers : ((before ++ text.toTrackDescription :: after).flatMap TrackDescription.refs).find?
    (· != 0) = some text.id := by decide
  first : ∀ t ∈ before, t.id ≠ text.id := by decide

namespace Node

/-- Those nodes with `p` write the values `vs`, in order. -/
def Each {α : Type} (p : Node → Bool) (W : Node → α → Prop) (ns : List Node) (vs : List α) : Prop :=
  List.Forall₂ W (ns.filter p) vs

/-- Those nodes with `p` write the values `vs` together, some of them each. -/
def Together {α : Type} (p : Node → Bool) (W : Node → List α → Prop) (ns : List Node)
    (vs : List α) : Prop :=
  ∃ parts, Each p W ns parts ∧ parts.flatten = vs

/-- A version and three bytes of flags, and a body. -/
def WritesFull (n : Node) (version : UInt8) (body : List UInt8) : Prop :=
  ∃ flags, flags.length = 3 ∧ n.payload = version :: flags ++ body

/-- Two times, which have eight bytes each in version one and four in any other, and a number
behind them. -/
def WritesTimed (n : Node) (value : Nat) : Prop :=
  n.Readable ∧ value < 256 ^ 4 ∧ ∃ version times rest,
    times.length = (if version.toNat = 1 then 16 else 8) ∧
    n.WritesFull version (times ++ (Bytes.ofNumber 4 value ++ rest))

/-- Ids of tracks, before fewer bytes than another one has. -/
def WritesIds (n : Node) (refs : List Nat) : Prop :=
  n.Readable ∧ (∀ id ∈ refs, id < 256 ^ 4) ∧
    ∃ rest, rest.length < 4 ∧ n.payload = refs.flatMap (Bytes.ofNumber 4) ++ rest

/-- References, of which those for chapters count. -/
def WritesReferences (n : Node) (refs : List Nat) : Prop :=
  n.Contains fun ns => Together (isKind "chap") WritesIds ns refs

/-- The number of rows, and the rows. -/
def WritesTable (n : Node) (columns : Nat) (table : List (List Nat)) : Prop :=
  (∀ row ∈ table, IsRow columns row) ∧ ∃ version,
    n.WritesFull version (Bytes.ofNumber 4 table.length ++ table.flatMap rowBytes)

/-- Runs of samples that last as long as each other. No run is empty, or there are few enough of
them to be read all the same. -/
def WritesDurations (n : Node) (durations : List Nat) : Prop :=
  ∃ runs : List (Nat × Nat), n.WritesTable 2 (runs.map fun r => [r.1, r.2]) ∧
    (runs.flatMap fun r => List.replicate r.1 r.2) = durations ∧
    ((∀ r ∈ runs, r.1 ≠ 0) ∨ n.Readable)

/-- One size that all samples have, or none and the size of each. -/
def WritesSizes (n : Node) (sizes : List Nat) : Prop :=
  ∃ version size rest, size < 256 ^ 4 ∧
    n.WritesFull version (Bytes.ofNumber 4 size ++ (Bytes.ofNumber 4 sizes.length ++ rest)) ∧
    (size = 0 ∧ rest = sizes.flatMap (Bytes.ofNumber 4) ∨
      size ≠ 0 ∧ rest = [] ∧ ∀ s ∈ sizes, s = size)

/-- Runs of chunks with as many samples as each other, of which one is in force at every chunk. No
run begins behind the last chunk, or there are few enough of them to be read all the same. -/
def WritesChunkRuns (n : Node) (counts : List Nat) : Prop :=
  ∃ runs : List ChunkRun, n.WritesTable 3 (runs.map ChunkRun.row) ∧
    runs.Pairwise (·.first < ·.first) ∧
    (∀ i (h : i < counts.length), ∃ r, ChunkRun.InForce runs (i + 1) r ∧
      r.perChunk = counts[i]) ∧
    ((∀ r ∈ runs, r.first ≤ counts.length) ∨ n.Readable)

/-- Where chunks begin, in four bytes or in eight. -/
def WritesOffsets (n : Node) (offsets : List Nat) : Prop :=
  ∃ width version, (n.isKind "stco" ∧ width = 4 ∨ n.isKind "co64" ∧ width = 8) ∧
    (∀ offset ∈ offsets, offset < 256 ^ width) ∧
    n.WritesFull version (Bytes.ofNumber 4 offsets.length ++ offsets.flatMap (Bytes.ofNumber width))

structure ListsTables (d : TextTrack) (ns : List Node) : Prop where
  durations : Each (isKind "stts") WritesDurations ns [d.durations]
  sizes : Each (isKind "stsz") WritesSizes ns [d.sizes]
  runs : Each (isKind "stsc") WritesChunkRuns ns [d.counts]
  offsets : Each (fun n => n.isKind "stco" || n.isKind "co64") WritesOffsets ns [d.offsets]

/-- The first sample table counts. -/
def WritesInformation (n : Node) (d : TextTrack) : Prop :=
  n.Contains fun ns => ∃ tables, ns.find? (isKind "stbl") = some tables ∧
    tables.Contains (ListsTables d)

structure ListsMedia (d : TextTrack) (ns : List Node) : Prop where
  header : Each (isKind "mdhd") WritesTimed ns [d.timescale]
  information : Each (isKind "minf") WritesInformation ns [d]

def WritesMedia (n : Node) (d : TextTrack) : Prop := n.Contains (ListsMedia d)

/-- Media of which nothing is said but that they can be read. -/
def ReadableMedia (n : Node) : Prop :=
  n.Contains fun ns => ∀ m ∈ ns, (m.isKind "mdhd" → m.Readable) ∧
    (m.isKind "minf" → m.Contains fun _ => True)

structure ListsTrack (d : TrackDescription) (ns : List Node) : Prop where
  header : Each (isKind "tkhd") WritesTimed ns [d.id]
  references : Together (isKind "tref") WritesReferences ns d.refs

def WritesTrack (n : Node) (d : TrackDescription) : Prop :=
  n.Contains fun ns => ListsTrack d ns ∧ ∀ m ∈ ns, m.isKind "mdia" → m.ReadableMedia

structure ListsTextTrack (d : TextTrack) (ns : List Node) : Prop
    extends ListsTrack d.toTrackDescription ns where
  media : Each (isKind "mdia") WritesMedia ns [d]

def WritesTextTrack (n : Node) (d : TextTrack) : Prop := n.Contains (ListsTextTrack d)

/-- User data that can be read. -/
def ReadableUserData (n : Node) : Prop :=
  n.Contains fun ns => ∀ list, ns.find? (isKind "chpl") = some list → list.Readable

/-- The tracks that are described, with anything between them. -/
structure ListsMovie (d : MovieDescription) (ns : List Node) : Prop where
  tracks : ∃ front text back, ns.filter (isKind "trak") = front ++ text :: back ∧
    List.Forall₂ WritesTrack front d.before ∧ text.WritesTextTrack d.text ∧
    List.Forall₂ WritesTrack back d.after
  userData : ∀ m ∈ ns, m.isKind "udta" → m.ReadableUserData

def WritesMovie (n : Node) (d : MovieDescription) : Prop := n.Contains (ListsMovie d)

end Node

/-- A file whose first movie is as described, with the chunks where they should be. Its size is a
64-bit number. -/
structure Writes (file : Bytes) (d : MovieDescription) : Prop where
  movie : ∃ ns movie, Node.Lays file.toList ns ∧ ns.find? (Node.isKind "moov") = some movie ∧
    movie.WritesMovie d
  chunks : ∀ c ∈ d.text.chunks, file.Holds c.offset c.bytes
  size_lt : file.size < UInt64.size

end MediaTags.IsoMedia
