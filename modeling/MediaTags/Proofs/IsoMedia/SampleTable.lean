import MediaTags.IsoMedia.SampleTable
import MediaTags.Proofs.Fallible
import MediaTags.Proofs.IsoMedia.Node
import MediaTags.Proofs.IsoMedia.TextSample

/-!
# What sample tables say

Durations are counted out run by run. A chunk has as many samples as the last run says that has
begun by then, and its samples lie end to end from its offset.
-/

namespace MediaTags.IsoMedia

/-- A run of chunks that hold the same number of samples each. -/
structure ChunkRun where
  /-- The number of its first chunk, counted from one. -/
  first : Nat
  perChunk : Nat
  description : Nat := 1
  deriving DecidableEq, Repr

namespace ChunkRun

def row (r : ChunkRun) : List Nat := [r.first, r.perChunk, r.description]

/-- Of the runs that have begun at a chunk, the last one. -/
def InForce (runs : List ChunkRun) (chunk : Nat) (r : ChunkRun) : Prop :=
  r ∈ runs ∧ r.first ≤ chunk ∧ ∀ other ∈ runs, other.first ≤ chunk → other.first ≤ r.first

instance (runs : List ChunkRun) (chunk : Nat) (r : ChunkRun) : Decidable (InForce runs chunk r) :=
  inferInstanceAs (Decidable (_ ∧ _))

/-- Runs that begin one after the other are begun up to the one in force. -/
theorem getLast?_takeWhile {runs : List ChunkRun} {chunk : Nat} {r : ChunkRun}
    (hsorted : runs.Pairwise (·.first < ·.first)) (h : InForce runs chunk r) :
    (runs.takeWhile (·.first ≤ chunk)).getLast? = some r := by
  obtain ⟨hmem, hbegun, hlast⟩ := h
  induction runs with
  | nil => cases hmem
  | cons run runs ih =>
    rw [List.pairwise_cons] at hsorted
    rw [List.forall_mem_cons] at hlast
    rcases List.mem_cons.1 hmem with rfl | hmem
    · -- All other runs begin behind this one, and so behind the chunk.
      have hnone : runs.takeWhile (·.first ≤ chunk) = [] := by
        cases runs with
        | nil => rfl
        | cons other _ =>
          have hbehind := hsorted.1 other (by simp)
          have hle := hlast.2 other (by simp)
          exact List.takeWhile_cons_of_neg (by simpa using by omega)
      rw [List.takeWhile_cons_of_pos (by simpa using hbegun), hnone]
      rfl
    · have hbefore := hsorted.1 r hmem
      rw [List.takeWhile_cons_of_pos (by simpa using by omega), List.getLast?_cons,
        ih hsorted.2 hmem hlast.2, Option.getD_some]

theorem samplesIn_eq {runs : List ChunkRun} {chunk : Nat} {r : ChunkRun}
    (hsorted : runs.Pairwise (·.first < ·.first)) (h : InForce runs chunk r) :
    SampleTable.samplesIn (runs.map fun r => (r.first, r.perChunk)) chunk = r.perChunk := by
  have hlast := getLast?_takeWhile hsorted h
  have hmap : ((runs.map fun r => (r.first, r.perChunk)).takeWhile fun r => r.1 ≤ chunk) =
      (runs.takeWhile (·.first ≤ chunk)).map fun r => (r.first, r.perChunk) :=
    List.takeWhile_map ..
  rw [SampleTable.samplesIn, hmap, List.getLast?_map, hlast]
  rfl

end ChunkRun

/-- Samples that are stored together, one after the other. -/
structure Chunk where
  offset : Nat
  samples : List TextSample
  samples_ne : samples ≠ [] := by simp

namespace Chunk

def bytes (c : Chunk) : List UInt8 := c.samples.flatMap TextSample.bytes

def sizes (c : Chunk) : List Nat := c.samples.map fun s => s.bytes.length

end Chunk

namespace SampleTable

theorem expandFrom_eq (room : Nat) (done : List Nat) (runs : List (Nat × Nat)) :
    expandFrom room done runs =
      done.reverse ++ (runs.flatMap fun r => List.replicate r.1 r.2).take room := by
  induction runs generalizing room done with
  | nil => simp [expandFrom]
  | cons run runs ih =>
    rw [expandFrom, ih, List.flatMap_cons, List.take_append, List.take_replicate,
      List.length_replicate, List.reverse_append, List.reverse_replicate, List.append_assoc]
    have hroom : room - min run.1 room = room - run.1 := by omega
    rw [hroom, Nat.min_comm]

theorem expand_eq (room : Nat) (runs : List (Nat × Nat)) :
    expand room runs = (runs.flatMap fun r => List.replicate r.1 r.2).take room :=
  expandFrom_eq room [] runs

/-! ## Where samples lie -/

/-- Samples that lie end to end from an offset, wherever they end. -/
def endToEnd (offset : Nat) : List Nat → List Sample
  | [] => []
  | size :: sizes => ⟨offset, size⟩ :: endToEnd (offset + size) sizes

@[simp] theorem length_endToEnd (offset : Nat) (sizes : List Nat) :
    (endToEnd offset sizes).length = sizes.length := by
  induction sizes generalizing offset with
  | nil => rfl
  | cons size sizes ih => rw [endToEnd, List.length_cons, List.length_cons, ih]

/-- The samples of a chunk, if it has any, end at a number of 64 bits. A chunk is given by its
offset and the sizes of its samples. -/
def ChunkFits (c : Nat × List Nat) : Prop := c.2 ≠ [] → c.1 + c.2.sum < UInt64.size

instance (c : Nat × List Nat) : Decidable (ChunkFits c) :=
  inferInstanceAs (Decidable (_ → _))

theorem chunkFits_cons {offset size : Nat} {sizes : List Nat} :
    ChunkFits (offset, size :: sizes) ↔
      offset + size < UInt64.size ∧ ChunkFits (offset + size, sizes) := by
  cases sizes with
  | nil => simp [ChunkFits]
  | cons next sizes =>
    simp only [ChunkFits, ne_eq, reduceCtorEq, not_false_eq_true, forall_const, List.sum_cons]
    omega

/-- The first end behind the last number stops the laying out. -/
theorem layOut_eq (offset : Nat) (sizes : List Nat) : layOut offset sizes =
    if ChunkFits (offset, sizes) then .ok (endToEnd offset sizes) else .error .overflow := by
  induction sizes generalizing offset with
  | nil => exact (if_pos fun h => absurd rfl h).symm
  | cons size sizes ih =>
    simp only [layOut, chunkFits_cons, ih, endToEnd]
    by_cases hnext : offset + size < UInt64.size
    · by_cases hrest : ChunkFits (offset + size, sizes) <;> simp [hnext, hrest, Except.map]
    · simp [hnext]

/-- The chunks from `chunk` on that samples are laid out in: the offset of each, and the sizes of its
samples. -/
def chunksFrom (runs : List (Nat × Nat)) (chunk : Nat) :
    List Nat → List Nat → List (Nat × List Nat)
  | [], _ => []
  | _, [] => []
  | offset :: offsets, sizes =>
    let count := samplesIn runs chunk
    (offset, sizes.take count) :: chunksFrom runs (chunk + 1) offsets (sizes.drop count)

def chunks (t : SampleTable) : List (Nat × List Nat) :=
  chunksFrom t.runs 1 t.chunkOffsets t.sizes

theorem chunksFrom_cons {runs : List (Nat × Nat)} {offsets sizes : List Nat} (h : sizes ≠ [])
    (chunk offset : Nat) : chunksFrom runs chunk (offset :: offsets) sizes =
      (offset, sizes.take (samplesIn runs chunk)) ::
        chunksFrom runs (chunk + 1) offsets (sizes.drop (samplesIn runs chunk)) := by
  cases sizes with
  | nil => exact absurd rfl h
  | cons => rfl

theorem placeFrom_cons {runs : List (Nat × Nat)} {done : List Sample} {chunk offset : Nat}
    {offsets sizes : List Nat} (h : sizes ≠ []) :
    placeFrom runs done chunk (offset :: offsets) sizes =
      layOut offset (sizes.take (samplesIn runs chunk)) >>= fun placed =>
        placeFrom runs (placed.reverse ++ done) (chunk + 1) offsets
          (sizes.drop (samplesIn runs chunk)) := by
  cases sizes with
  | nil => exact absurd rfl h
  | cons => rfl

theorem placeFrom_eq (runs : List (Nat × Nat)) (done : List Sample) (chunk : Nat)
    (offsets sizes : List Nat) : placeFrom runs done chunk offsets sizes =
      if ∀ c ∈ chunksFrom runs chunk offsets sizes, ChunkFits c then
        .ok (done.reverse ++
          (chunksFrom runs chunk offsets sizes).flatMap fun c => endToEnd c.1 c.2)
      else .error .overflow := by
  induction offsets generalizing done chunk sizes with
  | nil => simp [placeFrom, chunksFrom]
  | cons offset offsets ih =>
    by_cases hsizes : sizes = []
    · simp [hsizes, placeFrom, chunksFrom]
    rw [placeFrom_cons hsizes, chunksFrom_cons hsizes, layOut_eq,
      if_congr List.forall_mem_cons rfl rfl]
    by_cases hfits : ChunkFits (offset, sizes.take (samplesIn runs chunk))
    · rw [if_pos hfits]
      refine (ih ..).trans ?_
      by_cases hrest : ∀ c ∈ chunksFrom runs (chunk + 1) offsets
          (sizes.drop (samplesIn runs chunk)), ChunkFits c
      · rw [if_pos hrest, if_pos ⟨hfits, hrest⟩]
        simp
      · rw [if_neg hrest, if_neg fun h => hrest h.2]
    · rw [if_neg hfits, if_neg fun h => hfits h.1]
      rfl

/-- The samples lie in the chunks one after the other, and can be placed if those of each chunk end
at a number of 64 bits. -/
theorem samples_eq (t : SampleTable) : t.samples =
    if ∀ c ∈ t.chunks, ChunkFits c then .ok (t.chunks.flatMap fun c => endToEnd c.1 c.2)
    else .error .overflow :=
  placeFrom_eq t.runs [] 1 t.chunkOffsets t.sizes

theorem samples_eq_error_iff {t : SampleTable} {why : Abort Fault} :
    t.samples = .error why ↔ (∃ c ∈ t.chunks, ¬ ChunkFits c) ∧ why = .overflow := by
  rw [samples_eq]
  split
  · next hfits => simpa using fun offset sizes hc hnot => absurd (hfits _ hc) hnot
  · next hfits => simpa [eq_comm] using fun _ => hfits

/-- Where runs give each chunk as many samples as it has, the chunks have their own samples. -/
theorem chunksFrom_chunks {runs : List (Nat × Nat)} {chunks : List Chunk} {chunk : Nat}
    (h : ∀ i (hi : i < chunks.length), samplesIn runs (chunk + i) = chunks[i].samples.length) :
    chunksFrom runs chunk (chunks.map Chunk.offset) (chunks.flatMap Chunk.sizes) =
      chunks.map fun c => (c.offset, c.sizes) := by
  induction chunks generalizing chunk with
  | nil => rfl
  | cons c chunks ih =>
    have hcount : samplesIn runs chunk = c.sizes.length := by
      rw [Chunk.sizes, List.length_map]
      exact h 0 (by simp)
    have hsizes : (c :: chunks).flatMap Chunk.sizes = c.sizes ++ chunks.flatMap Chunk.sizes := rfl
    have hne : (c :: chunks).flatMap Chunk.sizes ≠ [] := by
      simp [Chunk.sizes, c.samples_ne]
    rw [List.map_cons, chunksFrom_cons hne, hcount, hsizes, List.take_left, List.drop_left,
      ih fun i hi => ?_]
    · rfl
    · rw [Nat.add_right_comm]
      exact h (i + 1) (by simpa using hi)

/-- The samples of a chunk in a file end within the file. -/
theorem chunkFits_of_holds {file : Bytes} (hsize : file.size < UInt64.size) {c : Chunk}
    (h : file.Holds c.offset c.bytes) : ChunkFits (c.offset, c.sizes) := by
  intro hne
  have hlen : c.bytes.length ≤ file.size - c.offset := by simpa using h.length_le
  have hsum : c.sizes.sum = c.bytes.length := (List.length_flatMap ..).symm
  have hpos : 0 < c.bytes.length := by
    obtain ⟨s, hs⟩ := List.exists_mem_of_ne_nil _ c.samples_ne
    have hle : s.bytes.length ≤ c.sizes.sum :=
      List.le_sum_of_mem (List.mem_map_of_mem hs)
    have hbytes := s.length_bytes
    omega
  dsimp only
  omega

/-- The samples of a chunk are read as their titles where a file holds the chunk. -/
theorem forall₂_endToEnd {file : Bytes} {samples : List TextSample} {offset : Nat}
    (h : file.Holds offset (samples.flatMap TextSample.bytes)) :
    List.Forall₂ (fun s title => Sample.text file s = .ok title)
      (endToEnd offset (samples.map fun s => s.bytes.length)) (samples.map TextSample.title) := by
  induction samples generalizing offset with
  | nil => exact .nil
  | cons s samples ih =>
    rw [List.flatMap_cons] at h
    exact .cons (TextSample.text_of_holds h.left) (ih h.right)

/-! ## Reading the tables -/

/-- What one table says, if it is of the kind: each value as it is in a file that says nothing
else about it. -/
def HasValue {β : Type} (get : SampleTable → β) (file : Bytes) (kind : String) (a : Atom) (v : β) :
    Prop :=
  (a.payload file).map (fun bs => get (readTable {} kind bs)) = .ok v

/-- Chunk offsets, in either of their two widths. -/
def HasOffsets (file : Bytes) (a : Atom) (v : List Nat) : Prop :=
  ∃ kind ∈ ["stco", "co64"], a.isKind kind ∧ HasValue chunkOffsets file kind a v

variable {file : Bytes} {t t' : SampleTable} {a : Atom}

theorem exists_readChild (h : ∀ kind ∈ kinds, a.isKind kind → ∃ bs, a.payload file = .ok bs)
    (t : SampleTable) : ∃ t', readChild file t a = .ok t' := by
  unfold readChild
  split
  · next kind hkind =>
    have hfound := List.find?_some hkind
    obtain ⟨bs, hbs⟩ := h kind (List.mem_of_find?_eq_some hkind) hfound
    exact ⟨_, map_eq_ok.2 ⟨bs, hbs, rfl⟩⟩
  · exact ⟨t, rfl⟩

/-- A child is the table of its kind, or nothing that is read. -/
theorem readChild_eq_ok (h : readChild file t a = .ok t') :
    (∃ kind ∈ kinds, a.isKind kind ∧ ∃ bs, a.payload file = .ok bs ∧ t' = t.readTable kind bs) ∨
      (∀ kind ∈ kinds, a.isKind kind = false) ∧ t' = t := by
  rw [readChild] at h
  split at h
  · next kind hkind =>
    obtain ⟨bs, hbs, rfl⟩ := map_eq_ok.1 h
    have hfound := List.find?_some hkind
    exact .inl ⟨kind, List.mem_of_find?_eq_some hkind, hfound, bs, hbs, rfl⟩
  · next hnone =>
    cases h
    exact .inr ⟨by simpa using hnone, rfl⟩

/-- What one child of a sample table atom does to the tables. Further durations are added to those
before while there is room; of all else, what comes later counts. -/
structure ChildStep (file : Bytes) (a : Atom) (t t' : SampleTable) : Prop where
  durations : Feeds (Atom.isKind "stts") (HasValue durations file "stts")
    (fun ds v => ds ++ v.take (maxSamples - ds.length)) a t.durations t'.durations
  sizes : Feeds (Atom.isKind "stsz") (HasValue sizes file "stsz") (fun _ v => v) a t.sizes t'.sizes
  runs : Feeds (Atom.isKind "stsc") (HasValue runs file "stsc") (fun _ v => v) a t.runs t'.runs
  chunkOffsets : Feeds (fun a => a.isKind "stco" || a.isKind "co64") (HasOffsets file)
    (fun _ v => v) a t.chunkOffsets t'.chunkOffsets

theorem readChild_step (h : readChild file t a = .ok t') : ChildStep file a t t' := by
  rcases readChild_eq_ok h with ⟨kind, hmem, hkind, bs, hbs, rfl⟩ | ⟨hnone, rfl⟩
  · replace hkind := Atom.kind_eq_of_isKind hkind
    simp only [kinds, List.mem_cons, List.not_mem_nil, or_false] at hmem
    rcases hmem with rfl | rfl | rfl | rfl | rfl <;>
    constructor <;>
    simp +decide [Feeds, HasValue, HasOffsets, Except.map, Atom.isKind, hkind, hbs, readTable,
      expand_eq, List.take_take]
  · simp only [kinds, List.forall_mem_cons] at hnone
    constructor <;> simp [Feeds, hnone]

end SampleTable

end MediaTags.IsoMedia
