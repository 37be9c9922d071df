import MediaTags.IsoMedia.Atom
import MediaTags.IsoMedia.Fields

/-!
# Sample tables

A track's samples are described by runs of durations, by their sizes, and by the chunks that they
are stored in: each chunk has an offset, and runs of chunks say how many samples each holds.
-/

namespace MediaTags.IsoMedia

/-- No more samples than this are read. -/
def maxSamples : Nat := 4096

structure SampleTable where
  durations : List Nat := []
  sizes : List Nat := []
  /-- The first chunk of each run, counted from one, and the samples in each of its chunks. -/
  runs : List (Nat × Nat) := []
  chunkOffsets : List Nat := []
  deriving DecidableEq, Repr

/-- Where a sample lies in the file. -/
structure Sample where
  offset : Nat
  size : Nat
  deriving DecidableEq, Repr

namespace SampleTable

/-- The first two columns of each row. -/
def firstTwo : List Nat → Option (Nat × Nat)
  | a :: b :: _ => some (a, b)
  | _ => none

/-- Repeat each duration as often as its run says, for as long as there is room. `done` has those
before, latest first. -/
def expandFrom (room : Nat) (done : List Nat) : List (Nat × Nat) → List Nat
  | [] => done.reverse
  | (count, duration) :: rest =>
    let k := min count room
    expandFrom (room - k) (List.replicate k duration ++ done) rest

def expand (room : Nat) (runs : List (Nat × Nat)) : List Nat := expandFrom room [] runs

/-- Read one table of a track. -/
def readTable (t : SampleTable) (kind : String) (payload : List UInt8) : SampleTable :=
  let (first, rest) := takeNumber 4 (takeVersion payload).2
  match kind with
  | "stts" =>
    let runs := (rows 2 first rest).filterMap firstTwo
    { t with durations := t.durations ++ expand (maxSamples - t.durations.length) runs }
  | "stsz" =>
    let (second, rest) := takeNumber 4 rest
    let count := min second maxSamples
    { t with sizes := if first = 0 then numbers 4 count rest else List.replicate count first }
  | "stsc" => { t with runs := (rows 3 first rest).filterMap firstTwo }
  | "stco" => { t with chunkOffsets := numbers 4 first rest }
  | "co64" => { t with chunkOffsets := numbers 8 first rest }
  | _ => t

/-- The tables that are read. -/
def kinds : List String := ["stts", "stsz", "stsc", "stco", "co64"]

/-- Read a child of a sample table atom, if it is one of the tables. -/
def readChild (file : Bytes) (t : SampleTable) (a : Atom) : Except Fault SampleTable :=
  match kinds.find? (a.isKind ·) with
  | some kind => (a.payload file).map (t.readTable kind)
  | none => .ok t

/-- Read the tables among the children of a sample table atom. -/
def read (file : Bytes) (stbl : Atom) : Except Fault SampleTable := do
  (← stbl.children file).foldlM (readChild file) {}

/-- The number of samples in a chunk, by the last run that has begun. -/
def samplesIn (runs : List (Nat × Nat)) (chunk : Nat) : Nat :=
  ((runs.takeWhile fun r => r.1 ≤ chunk).getLast?.map Prod.snd).getD 0

/-- Samples that lie end to end from an offset. The end of each is computed, of the last one too,
and has to be a 64-bit number. -/
def layOut (offset : Nat) : List Nat → Except (Abort Fault) (List Sample)
  | [] => .ok []
  | size :: sizes =>
    if offset + size < UInt64.size then
      (layOut (offset + size) sizes).map fun samples => ⟨offset, size⟩ :: samples
    else .error .overflow

/-- Lay out the samples of the chunks from `chunk` on. `done` has those before, latest first. -/
def placeFrom (runs : List (Nat × Nat)) (done : List Sample) (chunk : Nat) :
    List Nat → List Nat → Except (Abort Fault) (List Sample)
  | [], _ => .ok done.reverse
  | _, [] => .ok done.reverse
  | offset :: offsets, sizes => do
    let count := samplesIn runs chunk
    let placed ← layOut offset (sizes.take count)
    placeFrom runs (placed.reverse ++ done) (chunk + 1) offsets (sizes.drop count)

/-- Where each sample lies, in order. Samples that no chunk has room for are left out. -/
def samples (t : SampleTable) : Except (Abort Fault) (List Sample) :=
  placeFrom t.runs [] 1 t.chunkOffsets t.sizes

end SampleTable

end MediaTags.IsoMedia
