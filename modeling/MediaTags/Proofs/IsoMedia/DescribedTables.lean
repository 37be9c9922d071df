import MediaTags.Proofs.IsoMedia.Description

/-!
# Described numbers and sample tables

Numbers in headers are read as they were written. The nodes of a sample table are short enough to
be read, and the atoms that store them say what they write: how long each sample lasts, and where
it lies.
-/

namespace MediaTags.IsoMedia

open Bytes (ofNumber)

variable {file : Bytes} {a : Atom} {n : Node}

namespace Node

/-- What nodes write is what the atoms that store them say. -/
theorem Each.stored {α : Type} {p : Node → Bool} {W : Node → α → Prop} {ns : List Node}
    {vs : List α} (h : Each p W ns vs) {as : List Atom} (hs : List.Forall₂ (Stores file) as ns)
    {q : Atom → Bool} (hpq : ∀ a n, Stores file a n → q a = p n) {R : Atom → α → Prop}
    (hread : ∀ a n, ∀ v ∈ vs, Stores file a n → W n v → R a v) : List.Forall₂ R (as.filter q) vs :=
  forall₂_comp (filter_forall₂ hs hpq) h hread

theorem Each.exists_of_mem {α : Type} {p : Node → Bool} {W : Node → α → Prop} {ns : List Node}
    {vs : List α} (h : Each p W ns vs) (hn : n ∈ ns) (hp : p n) : ∃ v ∈ vs, W n v :=
  exists_of_mem_forall₂ h (List.mem_filter.2 ⟨hn, hp⟩)

theorem WritesFull.takeVersion_eq {version : UInt8} {body : List UInt8}
    (h : n.WritesFull version body) : takeVersion n.payload = (some version.toNat, body) := by
  obtain ⟨flags, hflags, hpayload⟩ := h
  rw [hpayload, takeVersion_append version hflags]

theorem WritesFull.length_payload {version : UInt8} {body : List UInt8}
    (h : n.WritesFull version body) : n.payload.length = 4 + body.length := by
  obtain ⟨flags, hflags, hpayload⟩ := h
  rw [hpayload, List.length_append, List.length_cons, hflags]

theorem WritesTimed.afterTimes_eq {value : Nat} (h : n.WritesTimed value) :
    Track.afterTimes n.payload = value := by
  obtain ⟨-, hlt, version, times, rest, htimes, hfull⟩ := h
  have hskip : (if some version.toNat = some 1 then 16 else 8) = times.length := by
    rw [htimes]
    simp
  rw [Track.afterTimes, hfull.takeVersion_eq]
  simp only [hskip, skip_append, takeNumber_ofNumber hlt]

theorem WritesIds.numbers_eq {refs : List Nat} (h : n.WritesIds refs) :
    numbers 4 n.payload.length n.payload = refs := by
  obtain ⟨-, hlt, rest, hrest, hpayload⟩ := h
  have hlen : refs.length ≤ n.payload.length := by
    rw [hpayload, List.length_append, length_flatMap_ofNumber]
    omega
  rw [hpayload] at hlen ⊢
  exact numbers_ofNumber_append hlt hrest hlen

end Node

/-! ## Sample tables -/

namespace Node

theorem WritesTable.rows_eq {columns : Nat} {table : List (List Nat)}
    (h : n.WritesTable columns table) (hlen : table.length < 256 ^ 4) :
    rows columns (takeNumber 4 (takeVersion n.payload).2).1
      (takeNumber 4 (takeVersion n.payload).2).2 = table := by
  obtain ⟨hrows, version, hfull⟩ := h
  rw [hfull.takeVersion_eq, takeNumber_ofNumber hlen]
  simpa using rows_rowBytes hrows []

theorem WritesTable.length_payload {columns : Nat} {table : List (List Nat)}
    (h : n.WritesTable columns table) : n.payload.length = 8 + 4 * columns * table.length := by
  obtain ⟨hrows, version, hfull⟩ := h
  rw [hfull.length_payload, List.length_append, Bytes.length_ofNumber,
    length_flatMap_rowBytes hrows]
  omega

/-- There are no more runs than samples if none is empty. -/
theorem length_le_of_runs {runs : List (Nat × Nat)} (h : ∀ r ∈ runs, r.1 ≠ 0) :
    runs.length ≤ (runs.flatMap fun r => List.replicate r.1 r.2).length := by
  induction runs with
  | nil => simp
  | cons run runs ih =>
    rw [List.forall_mem_cons] at h
    have := ih h.2
    rw [List.length_cons, List.flatMap_cons, List.length_append, List.length_replicate]
    omega

/-- There is not more than one run for each chunk, and one that may begin before the first. -/
theorem length_le_of_chunkRuns {runs : List ChunkRun} {count : Nat}
    (hsorted : runs.Pairwise (·.first < ·.first)) (h : ∀ r ∈ runs, r.first ≤ count) :
    runs.length ≤ count + 1 := by
  have hnodup : (runs.map ChunkRun.first).Nodup :=
    List.pairwise_map.2 (hsorted.imp fun hlt => hlt.ne)
  have hsub : runs.map ChunkRun.first ⊆ List.range (count + 1) := by
    intro first hfirst
    obtain ⟨r, hr, rfl⟩ := List.mem_map.1 hfirst
    exact List.mem_range.2 (Nat.lt_succ_of_le (h r hr))
  simpa using (hnodup.subperm hsub).length_le

theorem WritesDurations.readable {durations : List Nat} (h : n.WritesDurations durations)
    (hlen : durations.length ≤ maxSamples) : n.Readable := by
  obtain ⟨runs, htable, rfl, hne | hreadable⟩ := h
  · have hruns := (length_le_of_runs hne).trans hlen
    have hpayload := htable.length_payload
    rw [List.length_map] at hpayload
    simp only [Readable, maxPayload, maxSamples] at *
    omega
  · exact hreadable

theorem WritesSizes.readable {sizes : List Nat} (h : n.WritesSizes sizes)
    (hlen : sizes.length ≤ maxSamples) : n.Readable := by
  obtain ⟨version, size, rest, -, hfull, hrest⟩ := h
  have hpayload := hfull.length_payload
  have hshort : rest.length ≤ 4 * sizes.length := by
    rcases hrest with ⟨-, rfl⟩ | ⟨-, rfl, -⟩
    · exact (length_flatMap_ofNumber 4 sizes).le
    · simp
  simp only [List.length_append, Bytes.length_ofNumber] at hpayload
  simp only [Readable, maxPayload, maxSamples] at *
  omega

theorem WritesChunkRuns.readable {counts : List Nat} (h : n.WritesChunkRuns counts)
    (hlen : counts.length ≤ maxSamples) : n.Readable := by
  obtain ⟨runs, htable, hsorted, -, hwithin | hreadable⟩ := h
  · have hruns := length_le_of_chunkRuns hsorted hwithin
    have hpayload := htable.length_payload
    rw [List.length_map] at hpayload
    simp only [Readable, maxPayload, maxSamples] at *
    omega
  · exact hreadable

theorem WritesOffsets.readable {offsets : List Nat} (h : n.WritesOffsets offsets)
    (hlen : offsets.length ≤ maxSamples) : n.Readable := by
  obtain ⟨width, version, hwidth, -, hfull⟩ := h
  have hpayload := hfull.length_payload
  have hshort : width * offsets.length ≤ 8 * offsets.length :=
    Nat.mul_le_mul_right _ (by omega)
  simp only [List.length_append, Bytes.length_ofNumber, length_flatMap_ofNumber] at hpayload
  simp only [Readable, maxPayload, maxSamples] at *
  omega

end Node

namespace Stores

open SampleTable (HasValue HasOffsets)

theorem map_payload {β : Type} (h : Stores file a n) (hn : n.Readable) (f : List UInt8 → β) :
    (a.payload file).map f = .ok (f n.payload) := by
  rw [h.payload_eq hn]
  rfl

theorem hasDurations {durations : List Nat} (hlen : durations.length ≤ maxSamples)
    (h : Stores file a n) (hw : n.WritesDurations durations) :
    HasValue SampleTable.durations file "stts" a durations := by
  rw [HasValue, h.map_payload (hw.readable hlen)]
  have hreadable := hw.readable hlen
  obtain ⟨runs, htable, hexpand, -⟩ := hw
  have hpayload := htable.length_payload
  have hcount : (runs.map fun r => [r.1, r.2]).length < 256 ^ 4 := by
    simp only [Node.Readable, maxPayload] at hreadable
    omega
  have hrows : ((runs.map fun r => [r.1, r.2]).filterMap SampleTable.firstTwo) = runs := by
    simp [List.filterMap_map, Function.comp_def, SampleTable.firstTwo]
  simp only [SampleTable.readTable, htable.rows_eq hcount, hrows, SampleTable.expand_eq, hexpand]
  simp [List.take_of_length_le hlen]

theorem hasSizes {sizes : List Nat} (hlen : sizes.length ≤ maxSamples)
    (hlt : ∀ size ∈ sizes, size < 256 ^ 4) (h : Stores file a n) (hw : n.WritesSizes sizes) :
    HasValue SampleTable.sizes file "stsz" a sizes := by
  rw [HasValue, h.map_payload (hw.readable hlen)]
  obtain ⟨version, size, rest, hsize, hfull, hrest⟩ := hw
  have hcount : sizes.length < 256 ^ 4 := hlen.trans_lt (by decide)
  simp only [SampleTable.readTable, hfull.takeVersion_eq, takeNumber_ofNumber hsize,
    takeNumber_ofNumber hcount, Nat.min_eq_left hlen]
  rcases hrest with ⟨rfl, rfl⟩ | ⟨hne, rfl, hall⟩
  · simpa using numbers_ofNumber hlt []
  · rw [if_neg hne, ← List.eq_replicate_of_mem hall]

theorem hasChunkRuns {counts : List Nat} (hlen : counts.length ≤ maxSamples)
    (h : Stores file a n) (hw : n.WritesChunkRuns counts) :
    ∃ runs, HasValue SampleTable.runs file "stsc" a runs ∧
      ∀ i (hi : i < counts.length), SampleTable.samplesIn runs (i + 1) = counts[i] := by
  have hreadable := hw.readable hlen
  obtain ⟨runs, htable, hsorted, hforce, -⟩ := hw
  refine ⟨runs.map fun r => (r.first, r.perChunk), ?_, fun i hi => ?_⟩
  · have hpayload := htable.length_payload
    have hcount : (runs.map ChunkRun.row).length < 256 ^ 4 := by
      simp only [Node.Readable, maxPayload] at hreadable
      omega
    rw [HasValue, h.map_payload hreadable]
    simp only [SampleTable.readTable, htable.rows_eq hcount]
    simp [List.filterMap_map, Function.comp_def, SampleTable.firstTwo, ChunkRun.row]
  · obtain ⟨r, hr, hper⟩ := hforce i hi
    rw [ChunkRun.samplesIn_eq hsorted hr, hper]

theorem hasOffsets {offsets : List Nat} (hlen : offsets.length ≤ maxSamples)
    (h : Stores file a n) (hw : n.WritesOffsets offsets) : HasOffsets file a offsets := by
  have hreadable := hw.readable hlen
  obtain ⟨width, version, hwidth, hlt, hfull⟩ := hw
  have hcount : offsets.length < 256 ^ 4 := hlen.trans_lt (by decide)
  have hnumbers := numbers_ofNumber hlt []
  rw [List.append_nil] at hnumbers
  rcases hwidth with ⟨hkind, rfl⟩ | ⟨hkind, rfl⟩
  · refine ⟨"stco", by simp, (h.isKind_eq _).trans hkind, ?_⟩
    rw [HasValue, h.map_payload hreadable]
    simp only [SampleTable.readTable, hfull.takeVersion_eq, takeNumber_ofNumber hcount, hnumbers]
  · refine ⟨"co64", by simp, (h.isKind_eq _).trans hkind, ?_⟩
    rw [HasValue, h.map_payload hreadable]
    simp only [SampleTable.readTable, hfull.takeVersion_eq, takeNumber_ofNumber hcount, hnumbers]

end Stores

namespace TextTrack

variable (d : TextTrack)

theorem length_durations : d.durations.length = d.samples.length := List.length_map ..

theorem length_durations_le : d.durations.length ≤ maxSamples := d.length_durations ▸ d.length_le

theorem length_sizes_le : d.sizes.length ≤ maxSamples := by
  rw [sizes, List.length_map]
  exact d.length_le

/-- There are no more chunks than samples. -/
theorem length_chunks_le : d.chunks.length ≤ maxSamples := by
  have hle (chunks : List Chunk) : chunks.length ≤ (chunks.flatMap Chunk.samples).length := by
    induction chunks with
    | nil => simp
    | cons c chunks ih =>
      have hpos := List.length_pos_iff.2 c.samples_ne
      rw [List.length_cons, List.flatMap_cons, List.length_append]
      omega
  exact (hle d.chunks).trans d.length_le

theorem sizes_eq : d.sizes = d.chunks.flatMap Chunk.sizes := List.map_flatMap ..

theorem lt_of_mem_sizes : ∀ size ∈ d.sizes, size < 256 ^ 4 := by
  intro size hsize
  obtain ⟨s, -, rfl⟩ := List.mem_map.1 hsize
  exact s.length_bytes_le.trans_lt (by decide)

end TextTrack

namespace Node.ListsTables

variable {d : TextTrack} {ns : List Node}

/-- Every table that is read can be read. -/
theorem readable (h : ListsTables d ns) (hn : n ∈ ns) {kind : String}
    (hmem : kind ∈ SampleTable.kinds) (hkind : n.isKind kind) : n.Readable := by
  have hchunks := d.length_chunks_le
  simp only [SampleTable.kinds, List.mem_cons, List.not_mem_nil, or_false] at hmem
  rcases hmem with rfl | rfl | rfl | rfl | rfl
  · obtain ⟨v, hv, hw⟩ := h.durations.exists_of_mem hn hkind
    exact hw.readable (List.mem_singleton.1 hv ▸ d.length_durations_le)
  · obtain ⟨v, hv, hw⟩ := h.sizes.exists_of_mem hn hkind
    exact hw.readable (List.mem_singleton.1 hv ▸ d.length_sizes_le)
  · obtain ⟨v, hv, hw⟩ := h.runs.exists_of_mem hn hkind
    refine hw.readable (List.mem_singleton.1 hv ▸ ?_)
    rwa [TextTrack.counts, List.length_map]
  all_goals
    obtain ⟨v, hv, hw⟩ := h.offsets.exists_of_mem hn (by simp [hkind])
    refine hw.readable (List.mem_singleton.1 hv ▸ ?_)
    rwa [TextTrack.offsets, List.length_map]

end Node.ListsTables

/-- The tables of a track give the durations of its samples, and the chunks that they lie in. -/
theorem Stores.readTables {d : TextTrack} (h : Stores file a n)
    (hw : n.Contains (Node.ListsTables d)) :
    ∃ t, SampleTable.read file a = .ok t ∧ t.durations = d.durations ∧
      t.chunks = d.chunks.map fun c => (c.offset, c.sizes) := by
  obtain ⟨as, ns, has, hs, hlists⟩ := h.exists_children hw
  have hchunks := d.length_chunks_le
  have hok : ∀ a m, m ∈ ns → Stores file a m →
      ∀ t, ∃ t', SampleTable.readChild file t a = .ok t' := by
    intro a m hm hstored
    refine SampleTable.exists_readChild fun kind hmem hkind => ⟨m.payload, ?_⟩
    rw [hstored.isKind_eq] at hkind
    exact hstored.payload_eq (hlists.readable hm hmem hkind)
  have hdurations := hlists.durations.stored hs (fun _ _ h => h.isKind_eq "stts")
    fun a n v hv hstored => hstored.hasDurations (List.mem_singleton.1 hv ▸ d.length_durations_le)
  have hsizes := hlists.sizes.stored hs (fun _ _ h => h.isKind_eq "stsz")
    fun a n v hv hstored => hstored.hasSizes (List.mem_singleton.1 hv ▸ d.length_sizes_le)
      (List.mem_singleton.1 hv ▸ d.lt_of_mem_sizes)
  have hoffsets := hlists.offsets.stored hs
    (fun a n h => congrArg₂ or (h.isKind_eq "stco") (h.isKind_eq "co64"))
    fun a n v hv hstored => hstored.hasOffsets (by
      rw [List.mem_singleton.1 hv, TextTrack.offsets, List.length_map]
      exact hchunks)
  have hruns := hlists.runs.stored hs (fun _ _ h => h.isKind_eq "stsc")
    fun a n v hv hstored => hstored.hasChunkRuns (by
      rw [List.mem_singleton.1 hv, TextTrack.counts, List.length_map]
      exact hchunks)
  obtain ⟨runs, hrun, hcounts⟩ := exists_of_forall₂_singleton hruns
  obtain ⟨t, ht⟩ := exists_foldlM_stored hs hok {}
  have hstep {t t' : SampleTable} {a : Atom} (h : SampleTable.readChild file t a = .ok t') :=
    SampleTable.readChild_step h
  have durations : t.durations = d.durations := by
    refine (foldlM_put SampleTable.durations (fun _ _ _ h => (hstep h).durations) hdurations
      ht).trans ?_
    simpa using d.length_durations_le
  have sizes : t.sizes = d.sizes :=
    foldlM_put SampleTable.sizes (fun _ _ _ h => (hstep h).sizes) hsizes ht
  have offsets : t.chunkOffsets = d.offsets :=
    foldlM_put SampleTable.chunkOffsets (fun _ _ _ h => (hstep h).chunkOffsets) hoffsets ht
  have truns : t.runs = runs :=
    foldlM_put SampleTable.runs (fun _ _ _ h => (hstep h).runs) hrun ht
  refine ⟨t, bind_eq_ok.2 ⟨as, has, ht⟩, durations, ?_⟩
  rw [SampleTable.chunks, truns, offsets, sizes, d.sizes_eq, TextTrack.offsets]
  refine SampleTable.chunksFrom_chunks fun i hi => ?_
  have hi' : i < d.counts.length := by rwa [TextTrack.counts, List.length_map]
  rw [Nat.add_comm, hcounts i hi']
  simp [TextTrack.counts]

end MediaTags.IsoMedia
