import MediaTags.Proofs.IsoMedia.Checked
import MediaTags.Proofs.IsoMedia.Fallback

/-!
# Which sums can overflow

A table has no more samples than are read and no more chunks than a number of four bytes says, and
each number in it is bounded by its width. So the times of chapters and the numbers of chunks stay
in range. Only the offsets of samples do not: a chunk can begin at any number of 64 bits, and its
samples lie behind.
-/

namespace MediaTags.IsoMedia

namespace SampleTable

/-- The bounds of the durations, and how many samples and chunks there can be. -/
structure Bounded (t : SampleTable) : Prop where
  durations_lt : ∀ d ∈ t.durations, d < 256 ^ 4
  length_sizes : t.sizes.length ≤ maxSamples
  length_chunkOffsets : t.chunkOffsets.length < 256 ^ 4

theorem mem_expand {room d : Nat} {runs : List (Nat × Nat)} (h : d ∈ expand room runs) :
    ∃ r ∈ runs, d = r.2 := by
  rw [expand_eq] at h
  obtain ⟨r, hr, hd⟩ := List.mem_flatMap.1 (List.mem_of_mem_take h)
  exact ⟨r, hr, List.eq_of_mem_replicate hd⟩

theorem mem_of_firstTwo {row : List Nat} {r : Nat × Nat} (h : firstTwo row = some r) :
    r.2 ∈ row := by
  unfold firstTwo at h
  split at h
  · cases h
    simp
  · cases h

/-- The second column of a table is bounded like any number of four bytes. -/
theorem second_lt {columns limit : Nat} {bs : List UInt8} {r : Nat × Nat}
    (h : r ∈ (rows columns limit bs).filterMap firstTwo) : r.2 < 256 ^ 4 := by
  obtain ⟨row, hrow, hr⟩ := List.mem_filterMap.1 h
  exact rows_lt columns limit bs row hrow r.2 (mem_of_firstTwo hr)

theorem Bounded.readTable {t : SampleTable} (ht : t.Bounded) (kind : String)
    (payload : List UInt8) : (t.readTable kind payload).Bounded := by
  have hfirst := takeNumber_lt 4 (takeVersion payload).2
  unfold SampleTable.readTable
  generalize takeNumber 4 (takeVersion payload).2 = taken at hfirst ⊢
  obtain ⟨first, rest⟩ := taken
  dsimp only at hfirst ⊢
  split
  · refine { ht with durations_lt := List.forall_mem_append.2 ⟨ht.durations_lt, fun d hd => ?_⟩ }
    obtain ⟨r, hr, rfl⟩ := mem_expand hd
    exact second_lt hr
  · refine { ht with length_sizes := ?_ }
    split
    · exact (numbers_bounds ..).2.trans (Nat.min_le_right ..)
    · rw [List.length_replicate]
      exact Nat.min_le_right ..
  · exact { ht with }
  · exact { ht with length_chunkOffsets := (numbers_bounds 4 first rest).2.trans_lt hfirst }
  · exact { ht with length_chunkOffsets := (numbers_bounds 8 first rest).2.trans_lt hfirst }
  · exact ht

theorem bounded_of_read {file : Bytes} {stbl : Atom} {t : SampleTable}
    (h : SampleTable.read file stbl = .ok t) : t.Bounded := by
  obtain ⟨as, -, hfold⟩ := bind_eq_ok.1 h
  refine foldlM_invariant (fun t a t' _ ht hstep => ?_) hfold ⟨by simp, by simp, by simp⟩
  rcases readChild_eq_ok hstep with ⟨kind, -, -, bs, -, rfl⟩ | ⟨-, rfl⟩
  · exact ht.readTable kind bs
  · exact ht

/-- Chunks are counted by numbers that are far from the last one. -/
theorem Bounded.chunks_lt {t : SampleTable} (h : t.Bounded) :
    0 + t.chunkOffsets.length < UInt64.size := by
  rw [Nat.zero_add]
  exact h.length_chunkOffsets.trans (by decide)

/-! ## Chunks -/

theorem sum_length_chunksFrom_le (runs : List (Nat × Nat)) (chunk : Nat)
    (offsets sizes : List Nat) :
    ((chunksFrom runs chunk offsets sizes).map fun c => c.2.length).sum ≤ sizes.length := by
  induction offsets generalizing chunk sizes with
  | nil => simp [chunksFrom]
  | cons offset offsets ih =>
    by_cases hsizes : sizes = []
    · simp [hsizes, chunksFrom]
    · have hrest := ih (chunk + 1) (sizes.drop (samplesIn runs chunk))
      rw [List.length_drop] at hrest
      rw [chunksFrom_cons hsizes, List.map_cons, List.sum_cons, List.length_take]
      omega

theorem length_samples_le {t : SampleTable} {samples : List Sample} (h : t.samples = .ok samples) :
    samples.length ≤ t.sizes.length := by
  have hsum := sum_length_chunksFrom_le t.runs 1 t.chunkOffsets t.sizes
  rw [samples_eq] at h
  split at h
  · cases h
    rw [List.length_flatMap]
    simpa [chunks] using hsum
  · cases h

end SampleTable

theorem Movie.mem_of_chapterTrack? {m : Movie} {t : Track} (h : m.chapterTrack? = some t) :
    t ∈ m.tracks := by
  obtain ⟨-, before, after, htracks, -⟩ := Movie.chapterTrack?_eq_some_iff.1 h
  simp [htracks]

/-- The movie of a file can be read, and the offsets of its chapter track overflow. -/
def Overflows (file : Bytes) (len : Nat) : Prop :=
  ∃ top moov m t, atoms file 0 len = .ok top ∧ top.find? (Atom.isKind "moov") = some moov ∧
    Movie.read file moov = .ok m ∧ m.chapterTrack? = some t ∧ t.Overflows file

/-- Nothing else in a file makes its reading overflow. -/
theorem readChapters_eq_overflow_iff {file : Bytes} {len : Nat} :
    readChapters file len = .error .overflow ↔ Overflows file len := by
  constructor
  · intro h
    obtain hfails | ⟨top, htop, h⟩ := bind_eq_error.1 h
    · exact absurd hfails mapError_failure_ne_overflow
    split at h
    · cases h
    next moov hmoov =>
    obtain hfails | ⟨m, hm, h⟩ := bind_eq_error.1 h
    · exact absurd hfails mapError_failure_ne_overflow
    split at h
    · next t ht =>
      obtain hfails | ⟨cs, -, h⟩ := bind_eq_error.1 h
      · exact ⟨top, moov, m, t, mapError_eq_ok.1 htop, hmoov, mapError_eq_ok.1 hm, ht,
          Track.unreadable_overflow_iff.1 (Track.chapters_eq_error_iff.1 hfails)⟩
      · cases h
    · cases h
  · rintro ⟨top, moov, m, t, htop, hmoov, hm, ht, ho⟩
    have hchapters := Track.chapters_eq_error_iff.2 (.overflow ho)
    simp only [readChapters, htop, hmoov, hm, ht, hchapters, Except.mapError, bind, Except.bind]

namespace Checked

theorem layOut_agrees (offset : Nat) (sizes : List Nat) :
    MediaTags.Agrees Halt.ofAbort (layOut offset sizes) (SampleTable.layOut offset sizes) := by
  induction sizes generalizing offset with
  | nil => rfl
  | cons size sizes ih =>
    rw [layOut, SampleTable.layOut, add]
    split
    · exact (ih (offset + size)).map _
    · rfl

variable {runs : List (Nat × Nat)} {offsets sizes : List Nat} {index : Nat}

theorem placeFrom_cons (h : sizes ≠ []) (hindex : index + 1 < UInt64.size) (done : List Sample)
    (offset : Nat) : placeFrom runs done index (offset :: offsets) sizes =
      layOut offset (sizes.take (SampleTable.samplesIn runs (index + 1))) >>= fun placed =>
        placeFrom runs (placed.reverse ++ done) (index + 1) offsets
          (sizes.drop (SampleTable.samplesIn runs (index + 1))) := by
  cases sizes with
  | nil => exact absurd rfl h
  | cons size sizes =>
    rw [placeFrom, add_eq_ok.2 ⟨hindex, rfl⟩]
    · rfl
    · simp

/-- Samples are placed alike where the chunks can be counted. -/
theorem placeFrom_agrees (hindex : index + offsets.length < UInt64.size) (done : List Sample) :
    MediaTags.Agrees Halt.ofAbort (placeFrom runs done index offsets sizes)
      (SampleTable.placeFrom runs done (index + 1) offsets sizes) := by
  induction offsets generalizing index done sizes with
  | nil => rfl
  | cons offset offsets ih =>
    rw [List.length_cons] at hindex
    by_cases hsizes : sizes = []
    · subst hsizes
      rfl
    rw [placeFrom_cons hsizes (by omega), SampleTable.placeFrom_cons hsizes]
    exact (layOut_agrees ..).bind fun placed _ => ih (by omega) _

/-! ## Times -/

theorem addInstant_eq {m n : Nat} (h : ((m + n : Nat) : Int) ≤ maxInstant) :
    addInstant m n = .ok ((m + n : Nat) : Int) := by
  have hmin : minInstant ≤ ((m + n : Nat) : Int) := le_trans (by decide) (Int.natCast_nonneg _)
  rw [addInstant, ← Int.natCast_add, if_pos ⟨hmin, h⟩]

/-- Times stay in range where each chapter lasts less than `256 ^ 4` and there are not too many. -/
theorem chaptersFrom_agrees (file : Bytes) (base : TimeBase) (samples : List Sample)
    {durations : List Nat} (hdurations : ∀ d ∈ durations, d < 256 ^ 4) (start : Nat)
    (hstart : ((start + samples.length * 256 ^ 4 : Nat) : Int) ≤ maxInstant) :
    Agrees (chaptersFrom file base start samples durations)
      ((samples.mapM (Sample.text file)).map fun titles =>
        Track.chaptersFrom base start titles durations) := by
  induction samples generalizing start durations with
  | nil => rfl
  | cons s samples ih =>
    have hduration : durations.headD 0 < 256 ^ 4 := by
      cases durations with
      | nil => decide
      | cons d durations => exact hdurations d (.head durations)
    rw [List.length_cons, Nat.succ_mul] at hstart
    have hstop := addInstant_eq (m := start) (n := durations.headD 0) (by omega)
    have hrest := ih (fun d hd => hdurations d (List.mem_of_mem_tail hd))
      (start + durations.headD 0) (by omega)
    rw [chaptersFrom, readText, hstop, List.mapM_cons]
    cases s.text file with
    | error f => rfl
    | ok title =>
      simp only [Except.mapError, bind, Except.bind]
      rw [hrest]
      cases samples.mapM (Sample.text file) with
      | error f => rfl
      | ok titles => rfl

/-! ## Chapters -/

section Chapters

variable {file : Bytes} (hroom : file.size + 8 < UInt64.size) {t : Track}

theorem trackChapters_eq {stbl : Atom} (htable : t.sampleTable = some stbl)
    (hscale : t.timescale ≠ 0) : trackChapters file t = readTables file stbl >>= fun table =>
      placeFrom table.runs [] 0 table.chunkOffsets table.sizes >>= fun samples =>
        chaptersFrom file ⟨1, t.timescale⟩ 0 samples table.durations := by
  rw [trackChapters, htable]
  simp only [if_neg hscale]

theorem trackChapters_of_without (h : t.sampleTable = none ∨ t.timescale = 0) :
    trackChapters file t = .ok [] := by
  rw [trackChapters]
  cases htable : t.sampleTable with
  | none => rfl
  | some stbl => simp [(h.resolve_left (by simp [htable]) : t.timescale = 0), pure, Except.pure]

include hroom

/-- Where the samples can be placed, the times of the chapters do not overflow either. -/
theorem trackChapters_agrees (ht : TableWithin file t) :
    MediaTags.Agrees Halt.ofAbort (trackChapters file t) (t.chapters file) := by
  by_cases hwithout : t.sampleTable = none ∨ t.timescale = 0
  · rw [trackChapters_of_without hwithout, Track.chapters_of_without hwithout]
    rfl
  obtain ⟨hsome, hscale⟩ := not_or.1 hwithout
  obtain ⟨stbl, htable⟩ := Option.ne_none_iff_exists'.1 hsome
  rw [trackChapters_eq htable hscale, Track.chapters_eq htable hscale]
  refine (readTables_agrees hroom (ht stbl htable)).lift.bind fun table hread => ?_
  have hbounded := SampleTable.bounded_of_read (mapError_eq_ok.1 hread)
  refine (placeFrom_agrees hbounded.chunks_lt []).bind fun samples hsamples => ?_
  -- `maxSamples` chapters of less than `256 ^ 4` each end far below the largest instant.
  have hlength := (SampleTable.length_samples_le hsamples).trans hbounded.length_sizes
  have htimes := chaptersFrom_agrees file ⟨1, t.timescale⟩ samples hbounded.durations_lt 0 (by
    simp only [maxSamples, maxInstant] at hlength ⊢
    omega)
  rw [mapError_map]
  exact Agrees.lift htimes

theorem top_agrees : Agrees (atoms file 0 file.size) (IsoMedia.atoms file 0 file.size) :=
  atomsFrom_agrees hroom [] (Nat.zero_le _)

theorem readChapters_agrees :
    MediaTags.Agrees Halt.ofAbort (readChapters file file.size)
      (IsoMedia.readChapters file file.size) := by
  refine (top_agrees hroom).lift.bind fun top htop => ?_
  rw [mapError_eq_ok] at htop
  cases hmoov : top.find? (Atom.isKind "moov") with
  | none => rfl
  | some moov =>
    have hwithin := within_of_mem_atoms le_rfl htop (List.mem_of_find?_eq_some hmoov)
    refine (readMovie_agrees hroom hwithin).lift.bind fun m hm => ?_
    rw [mapError_eq_ok] at hm
    cases htrack : m.chapterTrack? with
    | none => rfl
    | some t =>
      have ht := tableWithin_of_readMovie hwithin hm t (Movie.mem_of_chapterTrack? htrack)
      exact (trackChapters_agrees hroom ht).bind fun cs _ => .ok _ _

end Chapters

/-- A cut never lies behind the end. -/
theorem takeBytes?_eq (count : Nat) (bs : List UInt8) :
    takeBytes? count bs = .ok (Bytes.takeBytes? count bs) := by
  rw [takeBytes?, Bytes.takeBytes?_eq]
  split
  · next h => rw [if_neg (Nat.not_le.2 h)]
  · next h =>
    have hle := Nat.le_of_not_lt h
    rw [splitAt, if_pos hle, if_pos hle]
    rfl

end Checked

/-- Whatever is wrong with a file, its chapters are read as they are with every number kept to its
type: no sum and no difference leaves it but where the samples of a chunk of the chapter track end
behind the last number of 64 bits, and no cut lies behind the end. The bytes of a field are as many
as are asked for. -/
theorem readChapters_checked {file : Bytes} (hroom : file.size + 8 < UInt64.size) :
    Checked.readChapters file file.size =
      (readChapters file file.size).mapError Halt.ofAbort ∧
    (readChapters file file.size = .error .overflow ↔ Overflows file file.size) ∧
    ∀ count bs, Checked.takeBytes? count bs = .ok (Bytes.takeBytes? count bs) ∧
      ∀ p ∈ Bytes.takeBytes? count bs, p.1.length = count := by
  refine ⟨Checked.readChapters_agrees hroom, readChapters_eq_overflow_iff,
    fun count bs => ⟨Checked.takeBytes?_eq count bs, fun p hp => ?_⟩⟩
  rw [Bytes.takeBytes?_eq] at hp
  split at hp
  · next hle =>
    cases hp
    exact List.length_take_of_le hle
  · cases hp

/-- The one sample of this file is followed by other bytes, and its offset does not overflow. -/
theorem readChapters_checked_listed : (Listed.file 2 8).size + 8 < UInt64.size ∧
    ¬ Overflows (Listed.file 2 8) (Listed.file 2 8).size ∧
    Checked.readChapters (Listed.file 2 8) (Listed.file 2 8).size =
      .ok [⟨0, some 5, ⟨1, 600⟩, [⟨"title", "A"⟩]⟩] := by
  have hroom : (Listed.file 2 8).size + 8 < UInt64.size := by decide +kernel
  have hread : readChapters (Listed.file 2 8) (Listed.file 2 8).size =
      .ok [⟨0, some 5, ⟨1, 600⟩, [⟨"title", "A"⟩]⟩] := by
    decide +kernel
  obtain ⟨hchecked, hoverflow, -⟩ := readChapters_checked hroom
  rw [hread] at hchecked hoverflow
  refine ⟨hroom, fun h => ?_, hchecked⟩
  cases hoverflow.2 h

/-! ## A file that overflows -/

namespace Overlong

open Bytes (ofNumber)
open Listed (atom table)

/-- Two samples in one chunk. The first is too long for a title and ends eight bytes behind the last
number. -/
def tables : List UInt8 :=
  atom "stsz" (table [0, 2, 70000, 3]) ++ atom "stsc" (table [1, 1, 2, 1]) ++
    atom "co64" (table [1] ++ ofNumber 8 (UInt64.size + 8 - 70000))

/-- A track that refers to itself. -/
def track : List UInt8 :=
  atom "tkhd" (Book.timed 1) ++ atom "tref" (atom "chap" (ofNumber 4 1)) ++
    atom "mdia" (atom "mdhd" (Book.timed 600) ++ atom "minf" (atom "stbl" tables))

def movie : List UInt8 := atom "moov" (atom "trak" track)

def file : Bytes := (atom "mdat" [0, 1, 65] ++ movie).toArray

end Overlong

/-- The offset of the second sample overflows where this file is read. -/
theorem sample_offset_overflows :
    readChapters Overlong.file Overlong.file.size = .error .overflow ∧
    Checked.readChapters Overlong.file Overlong.file.size = .error .overflow := by
  decide +kernel

end MediaTags.IsoMedia
