import MediaTags.Proofs.IsoMedia.DescribedTables
import MediaTags.Proofs.IsoMedia.Track

/-!
# The chapters that a described file has

From the headers of a track up to the whole file, an atom that stores a node says what the node
writes.
-/

namespace MediaTags.IsoMedia

open Bytes (ofNumber)

section Reading

variable {file : Bytes} {a : Atom} {n : Node}

namespace Stores

theorem hasNumber {value : Nat} (h : Stores file a n) (hw : n.WritesTimed value) :
    Track.HasNumber file a value := by
  rw [Track.HasNumber, h.map_payload hw.1, hw.afterTimes_eq]

theorem hasNumbers {refs : List Nat} (h : Stores file a n) (hw : n.WritesIds refs) :
    Track.HasNumbers file a refs := by
  rw [Track.HasNumbers, h.map_payload hw.1, hw.numbers_eq]

theorem hasReferences {refs : List Nat} (h : Stores file a n) (hw : n.WritesReferences refs) :
    Track.HasReferences file a refs := by
  obtain ⟨as, ns, has, hs, parts, hparts, rfl⟩ := h.exists_children hw
  have hnumbers := hparts.stored hs (fun _ _ h => h.isKind_eq "chap") fun _ _ _ _ => hasNumbers
  have hok : ∀ a m, m ∈ ns → Stores file a m →
      ∀ t, ∃ t', Track.readReference file t a = .ok t' := by
    intro a m hm hstored t
    unfold Track.readReference
    split
    · next hkind =>
      obtain ⟨part, -, hpart⟩ := hparts.exists_of_mem hm (hstored.isKind_eq "chap" ▸ hkind)
      exact ⟨_, hstored.map_payload hpart.1 _⟩
    · exact ⟨t, rfl⟩
  intro t
  obtain ⟨t', ht⟩ := exists_foldlM_stored hs hok t
  have hrefs : t'.chapterRefs = t.chapterRefs ++ parts.flatten :=
    (foldlM_put Track.chapterRefs (fun _ _ _ h => (Track.readReference_step h).chapterRefs)
      hnumbers ht).trans (foldl_append_eq ..)
  refine bind_eq_ok.2 ⟨as, has, ht.trans ?_⟩
  rw [Track.frame_of_foldlM_readReference ht, hrefs]

/-- Media that can be read are read, whatever they say. -/
theorem exists_readMedia (h : Stores file a n) (hw : n.ReadableMedia) (t : Track) :
    ∃ t', (a.children file >>= fun as => as.foldlM (Track.readMedia file) t) = .ok t' := by
  obtain ⟨as, ns, has, hs, hreadable⟩ := h.exists_children hw
  have hok : ∀ a m, m ∈ ns → Stores file a m → ∀ t, ∃ t', Track.readMedia file t a = .ok t' := by
    intro a m hm hstored t
    obtain ⟨hheader, hinformation⟩ := hreadable m hm
    unfold Track.readMedia
    split
    · next hkind =>
      exact ⟨_, hstored.map_payload (hheader (hstored.isKind_eq "mdhd" ▸ hkind)) _⟩
    split
    · next hkind =>
      obtain ⟨found, -, hfound, -⟩ :=
        hstored.exists_children (hinformation (hstored.isKind_eq "minf" ▸ hkind))
      exact ⟨_, map_eq_ok.2 ⟨found, hfound, rfl⟩⟩
    · exact ⟨t, rfl⟩
  obtain ⟨t', ht⟩ := exists_foldlM_stored hs hok t
  exact ⟨t', bind_eq_ok.2 ⟨as, has, ht⟩⟩

/-- What was found are the tables of a track. -/
def HasTables (file : Bytes) (found : Option Atom) (d : TextTrack) : Prop :=
  ∃ tables m, found = some tables ∧ Stores file tables m ∧ m.Contains (Node.ListsTables d)

/-- Information leads to the tables that it holds. -/
theorem hasTable {d : TextTrack} (h : Stores file a n) (hw : n.WritesInformation d) :
    ∃ found, Track.HasTable file a found ∧ HasTables file found d := by
  obtain ⟨as, ns, has, hs, m, hm, hlists⟩ := h.exists_children hw
  obtain ⟨tables, hfind, hstored⟩ := exists_find?_stored hs hm
  exact ⟨some tables, map_eq_ok.2 ⟨as, has, hfind⟩, tables, m, rfl, hstored, hlists⟩

end Stores

theorem Node.WritesMedia.readable {d : TextTrack} (h : n.WritesMedia d) : n.ReadableMedia := by
  obtain ⟨ns, hns, hlists⟩ := h
  refine ⟨ns, hns, fun m hm => ⟨fun hkind => ?_, fun hkind => ?_⟩⟩
  · obtain ⟨value, -, hw⟩ := hlists.header.exists_of_mem hm hkind
    exact hw.1
  · obtain ⟨d', -, ms, hms, -⟩ := hlists.information.exists_of_mem hm hkind
    exact ⟨ms, hms, trivial⟩

/-- Media give the time scale, and lead to the tables that they hold. -/
theorem Stores.hasMedia {d : TextTrack} (h : Stores file a n) (hw : n.WritesMedia d) :
    ∃ m, Track.HasMedia file a m ∧ m.1 = d.timescale ∧ HasTables file m.2 d := by
  have hread := h.exists_readMedia hw.readable
  obtain ⟨as, ns, has, hs, hlists⟩ := h.exists_children hw
  have hscale := hlists.header.stored hs (fun _ _ h => h.isKind_eq "mdhd") fun _ _ _ _ => hasNumber
  have hinformation := hlists.information.stored hs (fun _ _ h => h.isKind_eq "minf")
    fun _ _ _ _ => hasTable
  obtain ⟨found, htable, hfound⟩ := exists_of_forall₂_singleton hinformation
  refine ⟨(d.timescale, found), fun t => ?_, rfl, hfound⟩
  obtain ⟨t', ht⟩ := hread t
  obtain ⟨as', has', hfold⟩ := bind_eq_ok.1 ht
  obtain rfl : as = as' := Except.ok.inj (has.symm.trans has')
  have timescale : t'.timescale = d.timescale :=
    foldlM_put Track.timescale (fun _ _ _ h => (Track.readMedia_step h).timescale) hscale hfold
  have sampleTable : t'.sampleTable = found :=
    foldlM_put Track.sampleTable (fun _ _ _ h => (Track.readMedia_step h).sampleTable) htable hfold
  rw [ht, Track.frame_of_foldlM_readMedia hfold, timescale, sampleTable]

/-- The children of a track give its id and its references, whatever media it has. -/
theorem Node.ListsTrack.exists_foldlM_readChild {d : TrackDescription} {ns : List Node}
    (h : ListsTrack d ns) (hmedia : ∀ m ∈ ns, m.isKind "mdia" → m.ReadableMedia) {as : List Atom}
    (hs : List.Forall₂ (Stores file) as ns) :
    ∃ t, as.foldlM (Track.readChild file) {} = .ok t ∧ t.id = d.id ∧ t.chapterRefs = d.refs := by
  obtain ⟨parts, hparts, hflat⟩ := h.references
  have hheader := h.header.stored hs (fun _ _ h => h.isKind_eq "tkhd")
    fun _ _ _ _ => Stores.hasNumber
  have hrefs := hparts.stored hs (fun _ _ h => h.isKind_eq "tref")
    fun _ _ _ _ => Stores.hasReferences
  have hok : ∀ a m, m ∈ ns → Stores file a m → ∀ t, ∃ t', Track.readChild file t a = .ok t' := by
    intro a m hm hstored t
    unfold Track.readChild
    split
    · next hkind =>
      obtain ⟨value, -, hw⟩ := h.header.exists_of_mem hm (hstored.isKind_eq "tkhd" ▸ hkind)
      exact ⟨_, hstored.map_payload hw.1 _⟩
    split
    · next hkind =>
      obtain ⟨part, -, hpart⟩ := hparts.exists_of_mem hm (hstored.isKind_eq "tref" ▸ hkind)
      exact ⟨_, hstored.hasReferences hpart t⟩
    split
    · next hkind =>
      exact hstored.exists_readMedia (hmedia m hm (hstored.isKind_eq "mdia" ▸ hkind)) t
    · exact ⟨t, rfl⟩
  obtain ⟨t, ht⟩ := exists_foldlM_stored hs hok {}
  have id : t.id = d.id :=
    foldlM_put Track.id (fun _ _ _ h => (Track.readChild_step h).id) hheader ht
  have chapterRefs : t.chapterRefs = d.refs := by
    refine (foldlM_put Track.chapterRefs (fun _ _ _ h => (Track.readChild_step h).chapterRefs)
      hrefs ht).trans ?_
    rw [foldl_append_eq, hflat]
    rfl
  exact ⟨t, ht, id, chapterRefs⟩

theorem Stores.readTrack {d : TrackDescription} (h : Stores file a n) (hw : n.WritesTrack d) :
    ∃ t, Track.read file a = .ok t ∧ t.id = d.id ∧ t.chapterRefs = d.refs := by
  obtain ⟨as, ns, has, hs, hlists, hmedia⟩ := h.exists_children hw
  obtain ⟨t, ht, hd⟩ := hlists.exists_foldlM_readChild hmedia hs
  exact ⟨t, bind_eq_ok.2 ⟨as, has, ht⟩, hd⟩

/-- A track with chapters leads to its tables. -/
theorem Stores.readTextTrack {d : TextTrack} (h : Stores file a n) (hw : n.WritesTextTrack d) :
    ∃ t, Track.read file a = .ok t ∧ t.id = d.id ∧ t.chapterRefs = d.refs ∧
      t.timescale = d.timescale ∧ HasTables file t.sampleTable d := by
  obtain ⟨as, ns, has, hs, hlists⟩ := h.exists_children hw
  have hreadable : ∀ m ∈ ns, m.isKind "mdia" → m.ReadableMedia := by
    intro m hm hkind
    obtain ⟨d', -, hw'⟩ := hlists.media.exists_of_mem hm hkind
    exact hw'.readable
  obtain ⟨t, ht, hid, hrefs⟩ := hlists.exists_foldlM_readChild hreadable hs
  have hall := hlists.media.stored hs (fun _ _ h => h.isKind_eq "mdia") fun _ _ _ _ => hasMedia
  obtain ⟨m, hmedia, hscale, htables⟩ := exists_of_forall₂_singleton hall
  have media : (t.timescale, t.sampleTable) = m :=
    foldlM_put (fun t : Track => (t.timescale, t.sampleTable))
      (fun _ _ _ h => (Track.readChild_step h).media) hmedia ht
  subst media
  exact ⟨t, bind_eq_ok.2 ⟨as, has, ht⟩, hid, hrefs, hscale, htables⟩

/-- Chapters are counted on from a start. -/
theorem chaptersFrom_eq (base : TimeBase) (start : Nat) (samples : List TextSample) :
    Track.chaptersFrom base start (samples.map TextSample.title)
        (samples.map TextSample.duration) =
      samples.mapIdx fun i s =>
        let start := start + ((samples.map TextSample.duration).take i).sum
        { start := start
          stop := some (start + s.duration)
          timeBase := base
          metadata := if s.title = "" then [] else [⟨"title", s.title⟩] } := by
  induction samples generalizing start with
  | nil => rfl
  | cons s samples ih =>
    rw [List.map_cons, List.map_cons, Track.chaptersFrom, List.mapIdx_cons]
    congr 1
    · simp [Track.titleEntries]
    · rw [List.headD_cons, List.tail_cons, ih]
      congr 1
      funext i s'
      simp [Nat.add_assoc, Int.add_assoc]

/-- A track with the tables and the time scale of a description has its chapters. -/
theorem TextTrack.chapters_eq {d : TextTrack} {t : Track}
    (hsize : file.size < UInt64.size) (hchunks : ∀ c ∈ d.chunks, file.Holds c.offset c.bytes)
    (hscale : t.timescale = d.timescale) (htables : Stores.HasTables file t.sampleTable d) :
    t.chapters file = .ok d.chapters := by
  obtain ⟨tables, m, htable, hstored, hm⟩ := htables
  obtain ⟨table, hread, hdurations, hplaces⟩ := hstored.readTables hm
  have hsamples :
      table.samples = .ok (d.chunks.flatMap fun c => SampleTable.endToEnd c.offset c.sizes) := by
    rw [SampleTable.samples_eq, hplaces, if_pos, List.flatMap_map]
    exact List.forall_mem_map.2 fun c hc => SampleTable.chunkFits_of_holds hsize (hchunks c hc)
  have htitles : (d.chunks.flatMap fun c => SampleTable.endToEnd c.offset c.sizes).mapM
      (Sample.text file) = .ok (d.samples.map TextSample.title) := by
    rw [mapM_eq_ok, TextTrack.samples, List.map_flatMap]
    refine List.rel_flatMap (R := fun c c' => c = c' ∧ c ∈ d.chunks) ?_ ?_
    · exact List.forall₂_same.2 fun c hc => ⟨rfl, hc⟩
    · rintro c _ ⟨rfl, hc⟩
      exact SampleTable.forall₂_endToEnd (hchunks c hc)
  rw [Track.chapters, htable]
  simp only [hscale, if_neg d.timescale_ne, hread, hsamples, htitles, hdurations, Except.mapError,
    bind, Except.bind, pure, Except.pure]
  rw [TextTrack.durations, chaptersFrom_eq]
  simp [TextTrack.chapters, TextTrack.durations]

/-! ## Movies -/

theorem Movie.readChild_step {m m' : Movie} (h : Movie.readChild file m a = .ok m') :
    Feeds (Atom.isKind "trak") (fun a t => Track.read file a = .ok t) (fun ts t => ts ++ [t]) a
      m.tracks m'.tracks := by
  unfold Movie.readChild at h
  split at h
  · next htrak =>
    obtain ⟨t, ht, h⟩ := bind_eq_ok.1 h
    cases h
    refine ⟨fun _ t' ht' => ?_, fun hnot => absurd htrak (by simp [hnot])⟩
    rw [Except.ok.inj (ht.symm.trans ht')]
  · next htrak =>
    refine ⟨fun hkind => absurd hkind htrak, fun _ => ?_⟩
    split at h
    · obtain ⟨found, hfound, h⟩ := bind_eq_ok.1 h
      split at h
      · obtain ⟨bs, hbs, h⟩ := bind_eq_ok.1 h
        cases h
        rfl
      · cases h
        rfl
    · cases h
      rfl

/-- What a description says about any track. -/
def Track.IsAs (t : Track) (d : TrackDescription) : Prop := t.id = d.id ∧ t.chapterRefs = d.refs

/-- The track that the first reference names is the one with chapters. -/
theorem Movie.chapterTrack?_eq {d : MovieDescription} {m : Movie} {front back : List Track}
    {t : Track} (hm : m.tracks = front ++ t :: back)
    (hfront : List.Forall₂ Track.IsAs front d.before) (ht : t.IsAs d.text.toTrackDescription)
    (hback : List.Forall₂ Track.IsAs back d.after) :
    m.chapterTrack? = some t := by
  have hall : List.Forall₂ Track.IsAs m.tracks
      (d.before ++ d.text.toTrackDescription :: d.after) :=
    hm ▸ List.rel_append hfront (.cons ht hback)
  have hrefs : (d.before ++ d.text.toTrackDescription :: d.after).flatMap TrackDescription.refs =
      m.tracks.flatMap Track.chapterRefs :=
    flatMap_eq_of_forall₂ hall fun _ _ h => h.2.symm
  have hnone : front.find? (fun t => t.id == d.text.id) = none := by
    rw [List.find?_eq_none]
    intro t' ht'
    obtain ⟨d', hd', hid, -⟩ := exists_of_mem_forall₂ hfront ht'
    simpa [hid] using d.first d' hd'
  have hid : (t.id == d.text.id) = true := beq_iff_eq.2 ht.1
  rw [Movie.chapterTrack?, ← hrefs, d.refers]
  simp only [hm, List.find?_append, hnone, Option.none_or, List.find?_cons, hid]

namespace Stores

/-- A child of a movie is read if it can be, whatever it is. -/
theorem exists_readMovieChild (h : Stores file a n)
    (htrak : a.isKind "trak" → ∃ t, Track.read file a = .ok t)
    (hudta : n.isKind "udta" → n.ReadableUserData) (m : Movie) :
    ∃ m', Movie.readChild file m a = .ok m' := by
  unfold Movie.readChild
  split
  · next hkind =>
    obtain ⟨t, ht⟩ := htrak hkind
    exact ⟨_, bind_eq_ok.2 ⟨t, ht, rfl⟩⟩
  split
  · next hkind =>
    obtain ⟨as, ns, has, hs, hlist⟩ := h.exists_children (hudta (h.isKind_eq "udta" ▸ hkind))
    have hfind := find?_stored hs "chpl"
    simp only [has, bind, Except.bind]
    generalize as.find? (Atom.isKind "chpl") = found at hfind ⊢
    generalize ns.find? (Node.isKind "chpl") = list at hfind hlist
    cases hfind with
    | none => exact ⟨m, rfl⟩
    | some hchpl =>
      simp only [hchpl.payload_eq (hlist _ rfl)]
      exact ⟨_, rfl⟩
  · exact ⟨m, rfl⟩

/-- Tracks are read one by one. -/
theorem exists_tracks {as : List Atom} {ns : List Node} {ds : List TrackDescription}
    (hs : List.Forall₂ (Stores file) as ns) (hw : List.Forall₂ Node.WritesTrack ns ds) :
    ∃ ts, List.Forall₂ (fun a t => Track.read file a = .ok t) as ts ∧
      List.Forall₂ Track.IsAs ts ds :=
  exists_of_forall₂_exists (forall₂_comp hs hw fun _ _ _ _ => readTrack)

/-- A movie leads to the track with chapters. -/
theorem readMovie {d : MovieDescription} (h : Stores file a n) (hw : n.WritesMovie d) :
    ∃ m t, Movie.read file a = .ok m ∧ m.chapterTrack? = some t ∧
      t.timescale = d.text.timescale ∧ HasTables file t.sampleTable d.text := by
  obtain ⟨as, ns, has, hs, ⟨front, text, back, hfilter, hfront, htext, hback⟩, hudta⟩ :=
    h.exists_children hw
  have htraks := filter_forall₂ hs fun _ _ h => h.isKind_eq "trak"
  rw [hfilter] at htraks
  obtain ⟨as₁, as₂, htrak, hs₁, hs₂⟩ := exists_of_forall₂_append htraks
  obtain ⟨b, as₃, hb, hs₃, rfl⟩ := List.forall₂_cons_right_iff.1 hs₂
  obtain ⟨ts₁, hread₁, his₁⟩ := exists_tracks hs₁ hfront
  obtain ⟨ts₃, hread₃, his₃⟩ := exists_tracks hs₃ hback
  obtain ⟨t, hread, hid, hrefs, hscale, htables⟩ := hb.readTextTrack htext
  have hreads : List.Forall₂ (fun a t => Track.read file a = .ok t)
      (as.filter (Atom.isKind "trak")) (ts₁ ++ t :: ts₃) :=
    htrak ▸ List.rel_append hread₁ (.cons hread hread₃)
  have hok : ∀ a ∈ as, ∀ m, ∃ m', Movie.readChild file m a = .ok m' := by
    intro a ha m
    obtain ⟨n, hn, hstored⟩ := exists_of_mem_forall₂ hs ha
    refine hstored.exists_readMovieChild (fun hkind => ?_) (hudta n hn) m
    obtain ⟨t, -, ht⟩ := exists_of_mem_forall₂ hreads (List.mem_filter.2 ⟨ha, hkind⟩)
    exact ⟨t, ht⟩
  obtain ⟨m, hm⟩ := exists_foldlM hok {}
  have tracks : m.tracks = ts₁ ++ t :: ts₃ := by
    refine (foldlM_put Movie.tracks (fun _ _ _ h => Movie.readChild_step h) hreads hm).trans ?_
    rw [List.foldl_append_eq_append, ← List.flatMap_def, List.flatMap_singleton']
    rfl
  exact ⟨m, t, bind_eq_ok.2 ⟨as, has, hm⟩, Movie.chapterTrack?_eq tracks his₁ ⟨hid, hrefs⟩ his₃,
    hscale, htables⟩

end Stores

theorem TextTrack.chapters_ne_nil (d : TextTrack) : d.chapters ≠ [] := by
  obtain ⟨c, hc⟩ := List.exists_mem_of_ne_nil _ d.chunks_ne
  obtain ⟨s, hs⟩ := List.exists_mem_of_ne_nil _ c.samples_ne
  have hsamples : d.samples ≠ [] := List.ne_nil_of_mem (List.mem_flatMap.2 ⟨c, hc, hs⟩)
  rwa [chapters, Ne, List.mapIdx_eq_nil_iff]

/-- The first chapter of a track starts at zero. -/
theorem TextTrack.start_eq_zero (d : TextTrack) : ∀ c ∈ d.chapters.head?, c.start = 0 := by
  rw [chapters]
  cases d.samples with
  | nil => simp
  | cons s samples => simp

/-- Each chapter of a track stops where the next one starts. -/
theorem TextTrack.isChain_chapters (d : TextTrack) :
    d.chapters.IsChain fun c c' => c.stop = some c'.start := by
  rw [List.isChain_iff_getElem]
  intro i hi
  have hlen : i + 1 < d.samples.length := by simpa [chapters] using hi
  have hdurations : i < d.durations.length := by
    rw [d.length_durations]
    omega
  have hnext : (d.durations.take (i + 1)).sum =
      (d.durations.take i).sum + d.samples[i].duration := by
    rw [List.sum_take_succ _ _ hdurations]
    simp [durations]
  simp only [chapters, List.getElem_mapIdx]
  rw [hnext, Nat.cast_add]

end Reading

/-- A file with a chapter track has the chapters that its samples make, one after the other and
without gaps. -/
theorem readChapters_of_writes {file : Bytes} {d : MovieDescription} (h : Writes file d) :
    readChapters file file.size = .ok d.text.chapters ∧
      (∀ c ∈ d.text.chapters.head?, c.start = 0) ∧
      d.text.chapters.IsChain fun c c' => c.stop = some c'.start := by
  obtain ⟨ns, movie, hns, hmovie, hw⟩ := h.movie
  have hfile : file.Holds 0 file.toList := by
    rw [Bytes.Holds, List.drop_zero]
  have hsize : file.size = 0 + file.toList.length := by simp
  obtain ⟨as, has, hs⟩ := exists_atoms hns hfile hsize
  obtain ⟨moov, hmoov, hstored⟩ := exists_find?_stored hs hmovie
  obtain ⟨m, t, hm, htrack, hscale, htables⟩ := hstored.readMovie hw
  have hchapters := TextTrack.chapters_eq h.size_lt h.chunks hscale htables
  have hne : d.text.chapters.isEmpty = false := by
    simpa using d.text.chapters_ne_nil
  refine ⟨?_, d.text.start_eq_zero, d.text.isChain_chapters⟩
  simp only [readChapters, has, hmoov, hm, htrack, hchapters, hne, Except.mapError, bind,
    Except.bind, pure, Except.pure]
  rfl

/-! ## A small file -/

namespace Book

def opening : TextSample where
  title := "One"
  duration := 3

def untitled : TextSample where
  title := ""
  duration := 4

/-- Something follows the text of this one. -/
def closing : TextSample where
  title := "Ö"
  duration := 4
  more := [0, 0, 0]

/-- The first chunk lies behind the second one. -/
def text : TextTrack where
  id := 2
  timescale := 600
  chunks :=
    [{ offset := 15, samples := [opening, untitled] }, { offset := 8, samples := [closing] }]

def description : MovieDescription where
  before := [{ id := 1, refs := [0, 2] }]
  text := text

/-- The payload of a header, which gives no times. -/
def timed (value : Nat) : List UInt8 := [0, 0, 0, 0] ++ (ofNumber 8 0 ++ (ofNumber 4 value ++ []))

def media : Node where
  kind := kindOf "mdat"
  payload := closing.bytes ++ (opening.bytes ++ untitled.bytes)

def durationRuns : List (Nat × Nat) := [(1, 3), (2, 4)]

def chunkRuns : List ChunkRun := [{ first := 1, perChunk := 2 }, { first := 2, perChunk := 1 }]

def durationTable : Node where
  kind := kindOf "stts"
  payload := [0, 0, 0, 0] ++
    (ofNumber 4 2 ++ (durationRuns.map fun r => [r.1, r.2]).flatMap rowBytes)

def sizeTable : Node where
  kind := kindOf "stsz"
  payload := [0, 0, 0, 0] ++
    (ofNumber 4 0 ++ (ofNumber 4 3 ++ [5, 2, 7].flatMap (ofNumber 4)))

def chunkTable : Node where
  kind := kindOf "stsc"
  payload := [0, 0, 0, 0] ++ (ofNumber 4 2 ++ (chunkRuns.map ChunkRun.row).flatMap rowBytes)

def offsetTable : Node where
  kind := kindOf "co64"
  payload := [0, 0, 0, 0] ++ (ofNumber 4 2 ++ [15, 8].flatMap (ofNumber 8))

def tables : List Node := [offsetTable, durationTable, sizeTable, chunkTable]

def information : List Node := [{ kind := kindOf "stbl", payload := tables.flatMap Node.bytes }]

def mediaParts : List Node :=
  [{ kind := kindOf "mdhd", payload := timed 600 },
    { kind := kindOf "minf", payload := information.flatMap Node.bytes }]

def textParts : List Node :=
  [{ kind := kindOf "mdia", payload := mediaParts.flatMap Node.bytes },
    { kind := kindOf "tkhd", payload := timed 2 }]

def references : List Node := [{ kind := kindOf "chap", payload := [0, 2].flatMap (ofNumber 4) }]

def audioParts : List Node :=
  [{ kind := kindOf "tkhd", payload := timed 1 },
    { kind := kindOf "tref", payload := references.flatMap Node.bytes }]

def movieParts : List Node :=
  [{ kind := kindOf "trak", payload := audioParts.flatMap Node.bytes },
    { kind := kindOf "trak", form := .long, payload := textParts.flatMap Node.bytes }]

/-- The last atom of the file, which does not say how long it is. -/
def movie : Node where
  kind := kindOf "moov"
  form := .toEnd
  payload := movieParts.flatMap Node.bytes

def file : Bytes := ([media, movie].flatMap Node.bytes).toArray

theorem writesFull {n : Node} {body : List UInt8} (h : n.payload = [0, 0, 0, 0] ++ body) :
    n.WritesFull 0 body :=
  ⟨[0, 0, 0], rfl, h⟩

theorem writesTimed {n : Node} {value : Nat} (h : n.payload = timed value)
    (hlt : value < 256 ^ 4) : n.WritesTimed value := by
  have hlen : n.payload.length = 16 := by simp [h, timed]
  exact ⟨hlen.trans_le (by decide), hlt, 0, ofNumber 8 0, [], rfl, writesFull h⟩

theorem listsTables : Node.ListsTables text tables := by
  have htwo : ∀ i (h : i < text.counts.length), ∃ r, ChunkRun.InForce chunkRuns (i + 1) r ∧
      r.perChunk = text.counts[i] := by
    intro i hi
    have hi' : i < 2 := hi
    interval_cases i
    · exact ⟨⟨1, 2, 1⟩, by decide, rfl⟩
    · exact ⟨⟨2, 1, 1⟩, by decide, rfl⟩
  refine ⟨.cons ?_ .nil, .cons ?_ .nil, .cons ?_ .nil, .cons ?_ .nil⟩
  · exact ⟨durationRuns, ⟨by decide, 0, writesFull rfl⟩, by decide, .inl (by decide)⟩
  · exact ⟨0, 0, [5, 2, 7].flatMap (ofNumber 4), by decide, writesFull rfl, .inl ⟨rfl, rfl⟩⟩
  · exact ⟨chunkRuns, ⟨by decide, 0, writesFull rfl⟩, by decide, htwo, .inl (by decide)⟩
  · exact ⟨8, 0, .inr ⟨by decide, rfl⟩, by decide, writesFull rfl⟩

theorem listsTextTrack : Node.ListsTextTrack text textParts := by
  have hinformation : Node.ListsMedia text mediaParts := by
    refine ⟨.cons ?_ .nil, .cons ⟨information, Node.lays_flatMap (by decide), ?_⟩ .nil⟩
    · exact writesTimed rfl (by decide)
    · exact ⟨_, rfl, tables, Node.lays_flatMap (by decide), listsTables⟩
  refine ⟨⟨.cons ?_ .nil, [], .nil, rfl⟩, .cons ?_ .nil⟩
  · exact writesTimed rfl (by decide)
  · exact ⟨mediaParts, Node.lays_flatMap (by decide), hinformation⟩

theorem listsTrack : Node.ListsTrack { id := 1, refs := [0, 2] } audioParts := by
  refine ⟨.cons ?_ .nil, [[0, 2]], .cons ⟨references, ?_, [[0, 2]], .cons ?_ .nil, rfl⟩ .nil, rfl⟩
  · exact writesTimed rfl (by decide)
  · exact Node.lays_flatMap (by decide)
  · exact ⟨by decide, by decide, [], by decide, rfl⟩

theorem writes : Writes file description := by
  have hmedia : ∀ m ∈ audioParts, ¬ m.isKind "mdia" := by decide
  have hudta : ∀ m ∈ movieParts, ¬ m.isKind "udta" := by decide
  have htracks : Node.ListsMovie description movieParts := by
    refine ⟨⟨[movieParts[0]], movieParts[1], [], rfl, .cons ?_ .nil, ?_, .nil⟩,
      fun m hm hkind => absurd hkind (hudta m hm)⟩
    · exact ⟨audioParts, Node.lays_flatMap (by decide), listsTrack,
        fun m hm hkind => absurd hkind (hmedia m hm)⟩
    · exact ⟨textParts, Node.lays_flatMap (by decide), listsTextTrack⟩
  refine ⟨⟨[media, movie], movie, ?_, rfl, movieParts, Node.lays_flatMap (by decide), htracks⟩,
    by decide +kernel, by decide +kernel⟩
  exact .cons (by decide) (.cons (fun _ => rfl) (.nil (by decide)))

end Book

open Book in
theorem readChapters_of_writes_book :
    Writes file description ∧ readChapters file file.size = .ok
      [⟨0, some 3, ⟨1, 600⟩, [⟨"title", "One"⟩]⟩, ⟨3, some 7, ⟨1, 600⟩, []⟩,
        ⟨7, some 11, ⟨1, 600⟩, [⟨"title", "Ö"⟩]⟩] :=
  ⟨writes, (readChapters_of_writes writes).1.trans (by decide)⟩

end MediaTags.IsoMedia
