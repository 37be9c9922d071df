import MediaTags.Container
import MediaTags.IsoMedia.TextSample

/-!
# Chapter tracks

A track can refer to another one whose samples are the titles of chapters, timed like any other
samples.
-/

namespace MediaTags.IsoMedia

structure Track where
  id : Nat := 0
  /-- The tracks that this one names as its chapters. -/
  chapterRefs : List Nat := []
  timescale : Nat := 0
  sampleTable : Option Atom := none
  deriving DecidableEq, Repr

namespace Track

/-- The number behind the two times of a header, which have eight bytes each in version one and
four in any other. -/
def afterTimes (payload : List UInt8) : Nat :=
  let (version, rest) := takeVersion payload
  (takeNumber 4 (skip (if version = some 1 then 16 else 8) rest)).1

def readMedia (file : Bytes) (t : Track) (a : Atom) : Except Fault Track :=
  if a.isKind "mdhd" then
    (a.payload file).map fun bs => { t with timescale := afterTimes bs }
  else if a.isKind "minf" then
    (a.children file).map fun found => { t with sampleTable := found.find? (Atom.isKind "stbl") }
  else .ok t

def readReference (file : Bytes) (t : Track) (a : Atom) : Except Fault Track :=
  if a.isKind "chap" then
    (a.payload file).map fun bs =>
      { t with chapterRefs := t.chapterRefs ++ numbers 4 bs.length bs }
  else .ok t

def readChild (file : Bytes) (t : Track) (a : Atom) : Except Fault Track := do
  if a.isKind "tkhd" then
    (a.payload file).map fun bs => { t with id := afterTimes bs }
  else if a.isKind "tref" then
    (← a.children file).foldlM (readReference file) t
  else if a.isKind "mdia" then
    (← a.children file).foldlM (readMedia file) t
  else return t

def read (file : Bytes) (trak : Atom) : Except Fault Track := do
  (← trak.children file).foldlM (readChild file) {}

/-- The title entry of a chapter, if it has a title. -/
def titleEntries (title : String) : List Entry :=
  if title.isEmpty then [] else [⟨"title", title⟩]

/-- One chapter per title, the first at `start`; a title without a duration has none. -/
def chaptersFrom (base : TimeBase) (start : Nat) : List String → List Nat → List Chapter
  | [], _ => []
  | title :: titles, durations =>
    let stop := start + durations.headD 0
    ⟨start, some stop, base, titleEntries title⟩ :: chaptersFrom base stop titles durations.tail

/-- The chapters that the samples of a track make. -/
def chapters (file : Bytes) (t : Track) : Except (Abort Fault) (List Chapter) := do
  match t.sampleTable with
  | none => return []
  | some stbl =>
    if t.timescale = 0 then return []
    let table ← (SampleTable.read file stbl).mapError .failure
    let samples ← table.samples
    let titles ← (samples.mapM (Sample.text file)).mapError .failure
    return chaptersFrom ⟨1, t.timescale⟩ 0 titles table.durations

end Track

end MediaTags.IsoMedia
