import Mathlib.Data.List.ReduceOption
import MediaTags.Proofs.IsoMedia.RoundTrip

/-!
# Which chapters a movie has

A movie can have a chapter track and, in its user data, a list of chapters. The track goes first.
Without one, or where it has no chapters, the list counts; where it cannot be read, nothing does.
-/

namespace MediaTags.IsoMedia

section Reading

variable {file : Bytes} {a : Atom}

/-! ## What a movie holds -/

/-- The chapter list in user data, the first one if there are more. -/
def HasList (file : Bytes) (a : Atom) (list : Option (List Chapter)) : Prop :=
  ∃ found, a.children file = .ok found ∧
    Option.Rel (fun chpl chapters => ∃ bs, chpl.payload file = .ok bs ∧ chapters = Nero.chapters bs)
      (found.find? (Atom.isKind "chpl")) list

/-- The first movie of a file can be read, with these tracks and, for each part with user data, this
chapter list or none. -/
def HoldsMovie (file : Bytes) (len : Nat) (tracks : List Track)
    (lists : List (Option (List Chapter))) : Prop :=
  ∃ top moov parts, atoms file 0 len = .ok top ∧
    top.find? (Atom.isKind "moov") = some moov ∧ moov.children file = .ok parts ∧
    List.Forall₂ (fun a t => Track.read file a = .ok t) (parts.filter (Atom.isKind "trak")) tracks ∧
    List.Forall₂ (HasList file) (parts.filter (Atom.isKind "udta")) lists

namespace Movie

theorem readChild_userData (hkind : a.isKind "udta") {list : Option (List Chapter)}
    (h : HasList file a list) (m : Movie) :
    readChild file m a = .ok { m with listed := list.getD m.listed } := by
  obtain ⟨found, hfound, hlist⟩ := h
  have htrak : a.isKind "trak" = false := Atom.not_isKind hkind _ (by decide)
  simp only [readChild, htrak, hkind, hfound, bind, Except.bind, if_true, Bool.false_eq_true,
    if_false]
  generalize found.find? (Atom.isKind "chpl") = first at hlist
  cases hlist with
  | none => rfl
  | some hchpl =>
    obtain ⟨bs, hbs, rfl⟩ := hchpl
    simp only [hbs]
    rfl

/-- The list of chapters is that of the last user data that has one. -/
theorem readChild_listed {m m' : Movie} (h : readChild file m a = .ok m') :
    Feeds (Atom.isKind "udta") (HasList file) (fun old list => list.getD old) a
      m.listed m'.listed := by
  refine ⟨fun hkind list hlist => ?_, fun hkind => ?_⟩
  · rw [readChild_userData hkind hlist] at h
    cases h
    rfl
  · unfold readChild at h
    split at h
    · obtain ⟨t, -, h⟩ := bind_eq_ok.1 h
      cases h
      rfl
    · rw [if_neg (by simp [hkind])] at h
      cases h
      rfl

/-- A part is read where it can be, as the track or the user data that it is. -/
theorem exists_readChild (htrak : a.isKind "trak" → ∃ t, Track.read file a = .ok t)
    (hudta : a.isKind "udta" → ∃ list, HasList file a list) (m : Movie) :
    ∃ m', readChild file m a = .ok m' := by
  by_cases hkind : a.isKind "udta"
  · obtain ⟨list, hlist⟩ := hudta hkind
    exact ⟨_, readChild_userData hkind hlist m⟩
  · unfold readChild
    split
    · next h =>
      obtain ⟨t, ht⟩ := htrak h
      exact ⟨_, bind_eq_ok.2 ⟨t, ht, rfl⟩⟩
    · exact ⟨m, rfl⟩

theorem foldl_getD {α : Type} (lists : List (Option α)) (start : α) :
    lists.foldl (fun old list => list.getD old) start = lists.reduceOption.getLast?.getD start := by
  induction lists generalizing start with
  | nil => rfl
  | cons list lists ih =>
    rw [List.foldl_cons, ih]
    cases list with
    | none => rfl
    | some l =>
      rw [List.reduceOption_cons_of_some, List.getLast?_cons]
      rfl

/-- A movie that can be read is, with its tracks in order and the last list of chapters. -/
theorem exists_read {len : Nat} {tracks : List Track} {lists : List (Option (List Chapter))}
    (h : HoldsMovie file len tracks lists) :
    ∃ top moov m, atoms file 0 len = .ok top ∧ top.find? (Atom.isKind "moov") = some moov ∧
      Movie.read file moov = .ok m ∧ m.tracks = tracks ∧
      m.listed = lists.reduceOption.getLast?.getD [] := by
  obtain ⟨top, moov, parts, htop, hmoov, hparts, htracks, hlists⟩ := h
  have hok : ∀ a ∈ parts, ∀ m, ∃ m', readChild file m a = .ok m' := by
    intro a ha m
    refine exists_readChild (fun hkind => ?_) (fun hkind => ?_) m
    · obtain ⟨t, -, ht⟩ := exists_of_mem_forall₂ htracks (List.mem_filter.2 ⟨ha, hkind⟩)
      exact ⟨t, ht⟩
    · obtain ⟨list, -, hlist⟩ := exists_of_mem_forall₂ hlists (List.mem_filter.2 ⟨ha, hkind⟩)
      exact ⟨list, hlist⟩
  obtain ⟨m, hm⟩ := exists_foldlM hok {}
  refine ⟨top, moov, m, htop, hmoov, bind_eq_ok.2 ⟨parts, hparts, hm⟩, ?_, ?_⟩
  · refine (foldlM_put Movie.tracks (fun _ _ _ h => readChild_step h) htracks hm).trans ?_
    rw [List.foldl_append_eq_append, ← List.flatMap_def, List.flatMap_singleton']
    rfl
  · exact (foldlM_put Movie.listed (fun _ _ _ h => readChild_listed h) hlists hm).trans
      (foldl_getD lists [])

end Movie

/-! ## Which track has the chapters -/

/-- The first reference to a track that is not zero. -/
def FirstReference (tracks : List Track) (id : Nat) : Prop :=
  id ≠ 0 ∧ ∃ before after, tracks.flatMap Track.chapterRefs = before ++ id :: after ∧
    ∀ other ∈ before, other = 0

/-- The first of the tracks with the id that is referred to first. -/
def IsChapterTrack (tracks : List Track) (t : Track) : Prop :=
  FirstReference tracks t.id ∧ ∃ before after, tracks = before ++ t :: after ∧
    ∀ other ∈ before, other.id ≠ t.id

/-- Why there is no chapter track. -/
inductive NoChapterTrack (tracks : List Track) : Prop
  | unreferenced (h : ∀ t ∈ tracks, ∀ id ∈ t.chapterRefs, id = 0)
  | missing {id : Nat} (h : FirstReference tracks id) (hmissing : ∀ t ∈ tracks, t.id ≠ id)

namespace Movie

theorem find?_reference_eq_some_iff {tracks : List Track} {id : Nat} :
    (tracks.flatMap Track.chapterRefs).find? (· != 0) = some id ↔ FirstReference tracks id := by
  rw [List.find?_eq_some_iff_append, FirstReference]
  simp

theorem find?_reference_eq_none_iff {tracks : List Track} :
    (tracks.flatMap Track.chapterRefs).find? (· != 0) = none ↔
      ∀ t ∈ tracks, ∀ id ∈ t.chapterRefs, id = 0 := by
  simp [List.find?_eq_none]

theorem chapterTrack?_eq_some_iff {m : Movie} {t : Track} :
    m.chapterTrack? = some t ↔ IsChapterTrack m.tracks t := by
  have hfind (id : Nat) : m.tracks.find? (fun t => t.id == id) = some t ↔
      t.id = id ∧ ∃ before after, m.tracks = before ++ t :: after ∧
        ∀ other ∈ before, other.id ≠ id := by
    simp [List.find?_eq_some_iff_append]
  rw [chapterTrack?, IsChapterTrack, ← find?_reference_eq_some_iff]
  cases (m.tracks.flatMap Track.chapterRefs).find? (· != 0) with
  | none => simp
  | some id =>
    simp only [hfind, Option.some.injEq, eq_comm (a := id)]
    refine and_congr_right ?_
    rintro rfl
    exact Iff.rfl

theorem chapterTrack?_eq_none_iff {m : Movie} :
    m.chapterTrack? = none ↔ NoChapterTrack m.tracks := by
  rw [chapterTrack?]
  cases hfirst : (m.tracks.flatMap Track.chapterRefs).find? (· != 0) with
  | none => exact ⟨fun _ => .unreferenced (find?_reference_eq_none_iff.1 hfirst), fun _ => rfl⟩
  | some id =>
    have hid := find?_reference_eq_some_iff.1 hfirst
    have hfind : m.tracks.find? (fun t => t.id == id) = none ↔ ∀ t ∈ m.tracks, t.id ≠ id := by
      simp
    refine hfind.trans ⟨fun h => .missing hid h, fun h => ?_⟩
    cases h with
    | unreferenced h => simp [find?_reference_eq_none_iff.2 h] at hfirst
    | missing h hmissing =>
      rw [find?_reference_eq_some_iff.2 h] at hfirst
      cases hfirst
      exact hmissing

end Movie

/-! ## How a chapter track turns out -/

/-- One of the tables that are read. -/
def Atom.IsTable (a : Atom) : Prop := ∃ kind ∈ SampleTable.kinds, a.isKind kind

/-- Why the tables of a track cannot be read: they do not lie end to end, or one of them is too
large or does not lie in the file. -/
inductive BrokenTables (file : Bytes) (stbl : Atom) (f : Fault) : Prop
  | children (h : stbl.children file = .error f)
  | table {before after : List Atom} {a : Atom}
      (h : stbl.children file = .ok (before ++ a :: after))
      (hbefore : ∀ b ∈ before, b.IsTable → ∃ bs, b.payload file = .ok bs) (htable : a.IsTable)
      (hpayload : a.payload file = .error f)

/-- A sample that is long enough to have a text, and not too long, and does not lie in the file. -/
def Sample.Outside (file : Bytes) (s : Sample) : Prop :=
  2 ≤ s.size ∧ s.size ≤ maxTextSample ∧ file.size < s.offset + s.size

/-- Why a track that can be read has no chapters. -/
inductive Track.Empty (file : Bytes) (t : Track) : Prop
  | noTables (h : t.sampleTable = none)
  | noTimescale (h : t.timescale = 0)
  | noSamples {stbl : Atom} {table : SampleTable} (h : t.sampleTable = some stbl)
      (hread : SampleTable.read file stbl = .ok table) (hsamples : table.samples = .ok [])

/-- The samples in some chunk of a track end behind the last number of 64 bits. -/
def Track.Overflows (file : Bytes) (t : Track) : Prop :=
  ∃ stbl table, t.sampleTable = some stbl ∧ t.timescale ≠ 0 ∧
    SampleTable.read file stbl = .ok table ∧ ∃ c ∈ table.chunks, ¬ SampleTable.ChunkFits c

/-- Why the chapters of a track cannot be read. -/
inductive Track.Unreadable (file : Bytes) (t : Track) : Abort Fault → Prop
  | tables {stbl : Atom} {f : Fault} (h : t.sampleTable = some stbl) (hscale : t.timescale ≠ 0)
      (hbroken : BrokenTables file stbl f) : Unreadable file t (.failure f)
  | overflow (h : t.Overflows file) : Unreadable file t .overflow
  | sample {stbl : Atom} {table : SampleTable} {samples : List Sample} {s : Sample}
      (h : t.sampleTable = some stbl) (hscale : t.timescale ≠ 0)
      (hread : SampleTable.read file stbl = .ok table) (hsamples : table.samples = .ok samples)
      (hs : s ∈ samples) (houtside : s.Outside file) : Unreadable file t (.failure .endOfData)

namespace SampleTable

theorem readChild_eq_error {t : SampleTable} {f : Fault} :
    readChild file t a = .error f ↔ a.IsTable ∧ a.payload file = .error f := by
  unfold readChild
  split
  · next kind hkind =>
    have hfound := List.find?_some hkind
    rw [map_eq_error]
    exact ⟨fun h => ⟨⟨kind, List.mem_of_find?_eq_some hkind, hfound⟩, h⟩, fun h => h.2⟩
  · next hnone =>
    refine ⟨nofun, fun h => ?_⟩
    obtain ⟨⟨kind, hmem, hkind⟩, -⟩ := h
    exact absurd hkind (List.find?_eq_none.1 hnone kind hmem)

theorem read_eq_error_iff {stbl : Atom} {f : Fault} :
    SampleTable.read file stbl = .error f ↔ BrokenTables file stbl f := by
  have hread : SampleTable.read file stbl =
      stbl.children file >>= fun as => as.foldlM (readChild file) {} := rfl
  rw [hread, bind_eq_error]
  constructor
  · rintro (h | ⟨as, has, hfold⟩)
    · exact .children h
    · obtain ⟨before, a, after, t, rfl, hbefore, hstep⟩ := foldlM_eq_error.1 hfold
      obtain ⟨htable, hpayload⟩ := readChild_eq_error.1 hstep
      refine .table has (fun b hb hkind => ?_) htable hpayload
      obtain ⟨t, t', hb⟩ := exists_step_of_foldlM hbefore hb
      cases hpayload : b.payload file with
      | ok bs => exact ⟨bs, rfl⟩
      | error f' => simp [readChild_eq_error.2 ⟨hkind, hpayload⟩] at hb
  · rintro (h | ⟨h, hbefore, htable, hpayload⟩)
    · exact .inl h
    · next before after a =>
      have hok : ∀ b ∈ before, ∀ t, ∃ t', readChild file t b = .ok t' := fun b hb =>
        exists_readChild fun kind hmem hkind => hbefore b hb ⟨kind, hmem, hkind⟩
      obtain ⟨t, ht⟩ := exists_foldlM hok {}
      exact .inr ⟨_, h, foldlM_eq_error.2
        ⟨before, a, after, t, rfl, ht, readChild_eq_error.2 ⟨htable, hpayload⟩⟩⟩

end SampleTable

theorem Sample.text_eq_error_iff {s : Sample} {f : Fault} :
    s.text file = .error f ↔ s.Outside file ∧ f = .endOfData := by
  simp only [Sample.text, Sample.Outside, Bytes.slice?]
  split
  · next hsize =>
    by_cases hfits : s.offset + s.size ≤ file.size
    · simp [hfits]
    · simp [hfits, hsize, Nat.not_le.1 hfits, eq_comm]
  · next hsize =>
    simp only [reduceCtorEq, false_iff, not_and]
    exact fun h => absurd ⟨h.1, h.2.1⟩ hsize

namespace Track

variable {t : Track}

theorem chaptersFrom_eq_nil_iff {base : TimeBase} {start : Nat} {titles : List String}
    {durations : List Nat} : chaptersFrom base start titles durations = [] ↔ titles = [] := by
  cases titles <;> simp [chaptersFrom]

/-- A track with tables and a time scale has as many chapters as samples. -/
theorem chapters_eq {stbl : Atom} (h : t.sampleTable = some stbl) (hscale : t.timescale ≠ 0) :
    t.chapters file = (SampleTable.read file stbl).mapError .failure >>= fun table =>
      table.samples >>= fun samples =>
        ((samples.mapM (Sample.text file)).mapError .failure).map fun titles =>
          chaptersFrom ⟨1, t.timescale⟩ 0 titles table.durations := by
  rw [chapters, h]
  simp only [if_neg hscale]
  rfl

theorem chapters_of_without (h : t.sampleTable = none ∨ t.timescale = 0) :
    t.chapters file = .ok [] := by
  rw [chapters]
  cases htable : t.sampleTable with
  | none => rfl
  | some stbl => simp [(h.resolve_left (by simp [htable]) : t.timescale = 0), pure, Except.pure]

theorem mapM_text_eq_error {samples : List Sample} {s : Sample} (hs : s ∈ samples)
    (houtside : s.Outside file) : samples.mapM (Sample.text file) = .error .endOfData := by
  cases hmap : samples.mapM (Sample.text file) with
  | ok titles =>
    obtain ⟨title, -, htitle⟩ := exists_of_mem_forall₂ (mapM_eq_ok.1 hmap) hs
    rw [Sample.text_eq_error_iff.2 ⟨houtside, rfl⟩] at htitle
    cases htitle
  | error f =>
    obtain ⟨_, _, _, _, -, -, hfails⟩ := mapM_eq_error.1 hmap
    rw [(Sample.text_eq_error_iff.1 hfails).2]

theorem chapters_eq_error_iff {why : Abort Fault} :
    t.chapters file = .error why ↔ t.Unreadable file why := by
  constructor
  · intro h
    cases htable : t.sampleTable with
    | none =>
      rw [chapters_of_without (.inl htable)] at h
      cases h
    | some stbl =>
      have hscale : t.timescale ≠ 0 := fun hzero => by
        rw [chapters_of_without (.inr hzero)] at h
        cases h
      rw [chapters_eq htable hscale] at h
      obtain hread | ⟨table, hread, hplaced⟩ := bind_eq_error.1 h
      · obtain ⟨f, hf, rfl⟩ := mapError_eq_error.1 hread
        exact .tables htable hscale (SampleTable.read_eq_error_iff.1 hf)
      rw [mapError_eq_ok] at hread
      obtain hplace | ⟨samples, hsamples, hmap⟩ := bind_eq_error.1 hplaced
      · obtain ⟨hfits, rfl⟩ := SampleTable.samples_eq_error_iff.1 hplace
        exact .overflow ⟨stbl, table, htable, hscale, hread, hfits⟩
      · obtain ⟨f, hf, rfl⟩ := mapError_eq_error.1 (map_eq_error.1 hmap)
        obtain ⟨_, s, _, _, hs, -, htext⟩ := mapM_eq_error.1 hf
        obtain ⟨houtside, rfl⟩ := Sample.text_eq_error_iff.1 htext
        exact .sample htable hscale hread hsamples (by simp [hs]) houtside
  · intro h
    cases h with
    | tables htable hscale hbroken =>
      rw [chapters_eq htable hscale, SampleTable.read_eq_error_iff.2 hbroken]
      rfl
    | overflow h =>
      obtain ⟨stbl, table, htable, hscale, hread, hfits⟩ := h
      have hplace := SampleTable.samples_eq_error_iff.2 ⟨hfits, rfl⟩
      rw [chapters_eq htable hscale]
      exact bind_eq_error.2 (.inr ⟨_, mapError_eq_ok.2 hread, bind_eq_error.2 (.inl hplace)⟩)
    | sample htable hscale hread hsamples hs houtside =>
      have htitles := mapM_text_eq_error hs houtside
      rw [chapters_eq htable hscale]
      exact bind_eq_error.2 (.inr ⟨_, mapError_eq_ok.2 hread, bind_eq_error.2
        (.inr ⟨_, hsamples, map_eq_error.2 (mapError_eq_error.2 ⟨_, htitles, rfl⟩)⟩)⟩)

theorem unreadable_overflow_iff : t.Unreadable file .overflow ↔ t.Overflows file :=
  ⟨fun | .overflow h => h, .overflow⟩

theorem chapters_eq_nil_iff : t.chapters file = .ok [] ↔ t.Empty file := by
  constructor
  · intro h
    cases htable : t.sampleTable with
    | none => exact .noTables htable
    | some stbl =>
      by_cases hscale : t.timescale = 0
      · exact .noTimescale hscale
      rw [chapters_eq htable hscale] at h
      obtain ⟨table, hread, hplaced⟩ := bind_eq_ok.1 h
      obtain ⟨samples, hsamples, hmap⟩ := bind_eq_ok.1 hplaced
      obtain ⟨titles, htitles, hnil⟩ := map_eq_ok.1 hmap
      rw [chaptersFrom_eq_nil_iff.1 hnil, mapError_eq_ok, mapM_eq_ok] at htitles
      obtain rfl := List.forall₂_nil_right_iff.1 htitles
      exact .noSamples htable (mapError_eq_ok.1 hread) hsamples
  · intro h
    cases h with
    | noTables h => exact chapters_of_without (.inl h)
    | noTimescale h => exact chapters_of_without (.inr h)
    | noSamples h hread hsamples =>
      by_cases hscale : t.timescale = 0
      · exact chapters_of_without (.inr hscale)
      rw [chapters_eq h hscale]
      exact bind_eq_ok.2 ⟨_, mapError_eq_ok.2 hread, bind_eq_ok.2 ⟨[], hsamples, rfl⟩⟩

end Track

/-- The chapters of a file whose movie can be read, by what becomes of its chapter track. -/
theorem readChapters_eq {len : Nat} {tracks : List Track} {lists : List (Option (List Chapter))}
    {listed : List Chapter} (h : HoldsMovie file len tracks lists)
    (hlast : lists.reduceOption.getLast? = some listed) :
    (NoChapterTrack tracks ∧ readChapters file len = .ok listed) ∨
      ∃ t, IsChapterTrack tracks t ∧ readChapters file len =
        (t.chapters file).map fun cs => if cs.isEmpty then listed else cs := by
  obtain ⟨top, moov, m, htop, hmoov, hm, rfl, hlisted⟩ := Movie.exists_read h
  rw [hlast, Option.getD_some] at hlisted
  simp only [readChapters, htop, hmoov, hm, Except.mapError, bind, Except.bind]
  cases htrack : m.chapterTrack? with
  | none => exact .inl ⟨Movie.chapterTrack?_eq_none_iff.1 htrack, by rw [hlisted]; rfl⟩
  | some t =>
    refine .inr ⟨t, Movie.chapterTrack?_eq_some_iff.1 htrack, ?_⟩
    rw [hlisted]
    rfl

theorem IsChapterTrack.unique {tracks : List Track} {t u : Track} (ht : IsChapterTrack tracks t)
    (hu : IsChapterTrack tracks u) : t = u := by
  have hfound {v : Track} (hv : IsChapterTrack tracks v) :=
    (Movie.chapterTrack?_eq_some_iff (m := { tracks })).2 hv
  exact Option.some.inj ((hfound ht).symm.trans (hfound hu))

theorem IsChapterTrack.not_none {tracks : List Track} {t : Track} (h : IsChapterTrack tracks t) :
    ¬ NoChapterTrack tracks := fun hnone => by
  have hfound := (Movie.chapterTrack?_eq_some_iff (m := { tracks })).2 h
  rw [Movie.chapterTrack?_eq_none_iff.2 hnone] at hfound
  cases hfound

/-- The chapters of a movie with a list of chapters: those of the chapter track, and the list where
there is no such track or it is empty. A chapter track that cannot be read leaves none, although
there is a list. -/
theorem readChapters_of_listed {len : Nat} {tracks : List Track}
    {lists : List (Option (List Chapter))} {listed : List Chapter}
    (h : HoldsMovie file len tracks lists) (hlast : lists.reduceOption.getLast? = some listed)
    (hne : listed ≠ []) :
    (NoChapterTrack tracks → readChapters file len = .ok listed) ∧
    (∀ t, IsChapterTrack tracks t →
      (t.Empty file → readChapters file len = .ok listed) ∧
      (∀ cs, t.chapters file = .ok cs → cs ≠ [] → readChapters file len = .ok cs) ∧
      ∀ why, t.Unreadable file why → readChapters file len = .error why) ∧
    ((∃ cs, readChapters file len = .ok cs ∧ cs ≠ []) ↔
      ∀ t, IsChapterTrack tracks t → ∀ why, ¬ t.Unreadable file why) := by
  obtain ⟨hnone, hread⟩ | ⟨t, ht, hread⟩ := readChapters_eq h hlast
  · refine ⟨fun _ => hread, fun t ht => absurd hnone ht.not_none, fun _ t ht => ?_, fun _ => ?_⟩
    · exact absurd hnone ht.not_none
    · exact ⟨listed, hread, hne⟩
  · refine ⟨fun hnone => absurd hnone ht.not_none, fun u hu => ?_, fun hok u hu f hf => ?_,
      fun hreadable => ?_⟩
    · obtain rfl := ht.unique hu
      rw [hread]
      refine ⟨fun hempty => ?_, fun cs hcs hcs' => ?_, fun f hf => ?_⟩
      · rw [Track.chapters_eq_nil_iff.2 hempty]
        rfl
      · rw [hcs]
        simp [Except.map, hcs']
      · rw [Track.chapters_eq_error_iff.2 hf]
        rfl
    · obtain rfl := ht.unique hu
      obtain ⟨cs, hcs, -⟩ := hok
      rw [hread, Track.chapters_eq_error_iff.2 hf] at hcs
      cases hcs
    · cases hchapters : t.chapters file with
      | error f => exact absurd (Track.chapters_eq_error_iff.1 hchapters) (hreadable t ht f)
      | ok cs =>
        rw [hread, hchapters]
        refine ⟨_, rfl, ?_⟩
        cases cs <;> simp [hne]

end Reading

/-! ## A small file -/

namespace Listed

open Bytes (ofNumber)

def atom (kind : String) (payload : List UInt8) : List UInt8 :=
  ofNumber 4 (8 + payload.length) ++ kindOf kind ++ payload

/-- A version and flags, and numbers. -/
def table (numbers : List Nat) : List UInt8 := (0 :: numbers).flatMap (ofNumber 4)

/-- A list of one chapter. -/
def list : List UInt8 := [0, 0, 0, 0, 1] ++ ofNumber 8 0 ++ [3, 65, 108, 108]

/-- One sample of three bytes. -/
def tables (offset : Nat) : List UInt8 :=
  atom "stts" (table [1, 1, 5]) ++ atom "stsz" (table [3, 1]) ++ atom "stsc" (table [1, 1, 1, 1]) ++
    atom "stco" (table [1, offset])

def media (offset : Nat) : List UInt8 :=
  atom "mdhd" (Book.timed 600) ++ atom "minf" (atom "stbl" (tables offset))

def movie (reference offset : Nat) : List UInt8 :=
  atom "udta" (atom "chpl" list) ++
    atom "trak" (atom "tkhd" (Book.timed 1) ++ atom "tref" (atom "chap" (ofNumber 4 reference))) ++
    atom "trak" (atom "tkhd" (Book.timed 2) ++ atom "mdia" (media offset))

/-- The first track refers to another one for its chapters. The second track has the id 2, and its
sample lies at an offset of which only 8 is right. -/
def file (reference offset : Nat) : Bytes :=
  (atom "mdat" [0, 1, 65] ++ atom "moov" (movie reference offset)).toArray

def listed : List Chapter := [⟨0, none, Nero.timeBase, [⟨"title", "All"⟩]⟩]

def text : Track :=
  { id := 2, timescale := 600, sampleTable := some ⟨kindOf "stbl", 184, 276⟩ }

def tracks (reference : Nat) : List Track := [{ id := 1, chapterRefs := [reference] }, text]

def udta : Atom := ⟨kindOf "udta", 27, 52⟩

def audioTrak : Atom := ⟨kindOf "trak", 60, 104⟩

def textTrak : Atom := ⟨kindOf "trak", 112, 276⟩

def moov : Atom := ⟨kindOf "moov", 19, 276⟩

/-- What the file holds, also where its sample lies elsewhere or its reference leads nowhere. -/
theorem holdsMovie : ∀ p ∈ [(3, 8), (2, 1000)],
    HoldsMovie (file p.1 p.2) (file p.1 p.2).size (tracks p.1) [some listed] := by
  have htraks :
      [udta, audioTrak, textTrak].filter (Atom.isKind "trak") = [audioTrak, textTrak] := by
    decide
  have hudtas : [udta, audioTrak, textTrak].filter (Atom.isKind "udta") = [udta] := by decide
  rw [List.forall_mem_cons, List.forall_mem_singleton]
  constructor
  all_goals
    refine ⟨[⟨kindOf "mdat", 8, 11⟩, moov], moov, [udta, audioTrak, textTrak], by decide +kernel,
      by decide, by decide +kernel, ?_, ?_⟩
    · rw [htraks]
      exact .cons (by decide +kernel) (.cons (by decide +kernel) .nil)
    · rw [hudtas]
      refine .cons ⟨[⟨kindOf "chpl", 35, 52⟩], by decide +kernel, ?_⟩ .nil
      exact .some ⟨list, by decide +kernel, by decide +kernel⟩

end Listed

open Listed in
/-- The reference of this file names no track, so the list counts. -/
theorem readChapters_of_listed_missing :
    HoldsMovie (file 3 8) (file 3 8).size (tracks 3) [some listed] ∧
    [some listed].reduceOption.getLast? = some listed ∧ listed ≠ [] ∧
    NoChapterTrack (tracks 3) ∧ readChapters (file 3 8) (file 3 8).size = .ok listed := by
  have hmovie := holdsMovie (3, 8) (by simp)
  have hmissing : NoChapterTrack (tracks 3) :=
    .missing ⟨by decide, [], [], rfl, by simp⟩ (by decide)
  have hlisted : listed ≠ [] := by simp [listed]
  exact ⟨hmovie, rfl, hlisted, hmissing, (readChapters_of_listed hmovie rfl hlisted).1 hmissing⟩

open Listed in
/-- The sample of this file lies behind its end, and the list is lost with the track. -/
theorem unreadable_track_hides_list :
    HoldsMovie (file 2 1000) (file 2 1000).size (tracks 2) [some listed] ∧
    listed ≠ [] ∧ IsChapterTrack (tracks 2) text ∧
    readChapters (file 2 1000) (file 2 1000).size = .error (.failure .endOfData) :=
  ⟨holdsMovie (2, 1000) (by simp), by simp [listed],
    ⟨⟨by decide, [], [], rfl, by simp⟩, [{ id := 1, chapterRefs := [2] }], [], rfl, by decide⟩,
    by decide +kernel⟩

end MediaTags.IsoMedia
