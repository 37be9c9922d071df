import MediaTags.Proofs.Matroska.Description

/-!
# A described file is read as it was described

From the values up to the whole file, an element that stores a node says what the node writes.
-/

namespace MediaTags.Matroska

theorem exists_map_eq_ok {α σ : Type} {id : Nat} {read : Element → Except Fault α} {f : α → σ}
    {es : List Element} {vs : List α} (h : Each Element.id id (fun e v => read e = .ok v) es vs)
    {e : Element} (he : e ∈ es) (hid : e.id = id) : ∃ s, (read e).map f = .ok s := by
  obtain ⟨v, -, hv⟩ := h.exists_of_mem he hid
  exact ⟨f v, map_eq_ok.2 ⟨v, hv, rfl⟩⟩

theorem foldl_count? {o old : Option Nat} (h : ∀ n ∈ o, n ≤ Text.maxCount) :
    o.toList.foldl (fun _ n => Track.count? n) old = (o <|> old) := by
  cases o with
  | none => rfl
  | some n =>
    have hn : Track.count? n = some n := if_pos (h n rfl)
    simp [hn]

namespace Stores

variable {file : Bytes} {e : Element} {n : Node}

theorem hasUint {value : Nat} (h : Stores file e n) (hw : n.WritesUint value) :
    HasUint file e value := by
  obtain ⟨hlen, rfl⟩ := hw
  exact h.uint_eq hlen

theorem hasBytes {bs : List UInt8} (h : Stores file e n) (hw : n.WritesBytes bs) :
    HasBytes file e bs := by
  obtain ⟨rfl, hlen⟩ := hw
  exact h.payload_eq hlen

theorem hasText {l : Label} (h : Stores file e n) (hw : n.WritesLabel l) :
    HasText file e l.text := by
  have hlen : n.payload.length ≤ maxPayload := by
    rw [hw]
    exact l.length_le
  exact h.text_eq hw hlen l.plain

/-- The children of an element that stores a node store those of the node. -/
theorem contains {P : List Node → Prop} (h : Stores file e n) (hw : n.Contains P) :
    ∃ es ns, children file e = ⟨es, none⟩ ∧ List.Forall₂ (Stores file) es ns ∧ P ns := by
  obtain ⟨ns, hns, hP⟩ := hw
  obtain ⟨es, hes, hstored⟩ := h.exists_children hns
  exact ⟨es, ns, hes, hstored, hP⟩

/-- Reading an element changes a value into what the steps over its children make of it. -/
theorem foldlM_children {σ : Type} {es : List Element} {step : σ → Element → Except Fault σ}
    {s s' : σ} (hes : children file e = ⟨es, none⟩) (h : es.foldlM step s = .ok s') :
    (children file e).foldlM step s = .ok s' := by
  rw [hes]
  exact Children.foldlM_eq_ok.2 ⟨rfl, h⟩

theorem readAll_children {α : Type} {id : Nat} {es : List Element} {vs : List α}
    {read : Element → Except Fault α} (hes : children file e = ⟨es, none⟩)
    (h : Each Element.id id (fun e v => read e = .ok v) es vs) :
    (children file e).readAll id read = .ok vs := by
  rw [hes]
  exact Children.readAll_eq_ok.2 ⟨rfl, h⟩

theorem hasAudio {a : Track.Audio} (h : Stores file e n) (hw : n.WritesAudio a) :
    Track.HasAudio file e a := by
  obtain ⟨es, ns, hes, hstored, hlists⟩ := h.contains hw
  have hchannels := hlists.channels.stored hstored fun _ _ _ => hasUint
  have hdepth := hlists.bitDepth.stored hstored fun _ _ _ => hasUint
  have hrate : Each Element.id Id.samplingFrequency (HasFloat file) es [] :=
    Each.nil_of_forall_ne (forall_id_ne hstored hlists.samplingFrequency)
  have hok : ∀ e ∈ es, ∀ t, ∃ t', Track.readAudio file t e = .ok t' := by
    intro e he t
    unfold Track.readAudio
    split
    · next hid => exact exists_map_eq_ok hrate he hid
    · next hid => exact exists_map_eq_ok hchannels he hid
    · next hid => exact exists_map_eq_ok hdepth he hid
    · exact ⟨t, rfl⟩
  have hstep {t t' : Track} {e : Element} (h : Track.readAudio file t e = .ok t') :=
    Track.readAudio_step h
  intro t
  obtain ⟨t', ht'⟩ := exists_foldlM hok t
  have channels : t'.channels = (a.channels <|> t.channels) :=
    (get_foldlM _ (fun _ _ _ h => (hstep h).channels) hchannels ht').trans
      (foldl_count? a.channels_le)
  have bitDepth : t'.bitDepth = (a.bitDepth <|> t.bitDepth) :=
    (get_foldlM _ (fun _ _ _ h => (hstep h).bitDepth) hdepth ht').trans
      (foldl_count? a.bitDepth_le)
  have sampleRate : t'.sampleRate = t.sampleRate :=
    get_foldlM _ (fun _ _ _ h => (hstep h).sampleRate) hrate ht'
  rw [foldlM_children hes ht', Track.frame_of_foldlM_readAudio ht', channels, bitDepth, sampleRate]

theorem hasTitle {title : Label} (h : Stores file e n) (hw : n.WritesDisplay title) :
    Atom.HasTitle file e (some title.text) := by
  obtain ⟨es, ns, hes, hstored, hlists⟩ := h.contains hw
  have htext := Each.map_iff.2 (hlists.stored hstored fun _ _ _ => hasText)
  have hok : ∀ e ∈ es, ∀ a, ∃ a', Atom.readDisplay file a e = .ok a' := by
    intro e he a
    unfold Atom.readDisplay
    split
    · next hid => exact exists_map_eq_ok htext he hid.1
    · exact ⟨a, rfl⟩
  intro a
  obtain ⟨a', ha⟩ := exists_foldlM hok a
  have htitle : a'.title = (a.title <|> some title.text) :=
    get_foldlM _ (fun _ _ _ h => (Atom.readDisplay_step h).title) htext ha
  rw [foldlM_children hes ha, Atom.frame_of_foldlM_readDisplay ha, htitle]

end Stores

/-! ## Tracks -/

/-- The children of a track entry, as a description has them. -/
structure TrackDescription.SaidBy (d : TrackDescription) (file : Bytes) (es : List Element) :
    Prop where
  number : Each Element.id Id.trackNumber (HasUint file) es [d.number]
  uid : Each Element.id Id.trackUid (HasUint file) es [d.uid]
  trackType : Each Element.id Id.trackType (HasUint file) es d.trackType.toList
  codecId : Each Element.id Id.codecId (HasText file) es [d.codecId.text]
  codecPrivate : Each Element.id Id.codecPrivate (HasBytes file) es d.codecPrivate.toList
  name : Each Element.id Id.name (HasText file) es (d.name.toList.map Label.text)
  audio : Each Element.id Id.audio (Track.HasAudio file) es d.audio.toList

namespace TrackDescription.SaidBy

variable {d : TrackDescription} {file : Bytes} {es : List Element}

theorem of_lists {ns : List Node} (hstored : List.Forall₂ (Stores file) es ns)
    (h : Node.ListsTrack d ns) : d.SaidBy file es where
  number := h.number.stored hstored fun _ _ _ => Stores.hasUint
  uid := h.uid.stored hstored fun _ _ _ => Stores.hasUint
  trackType := h.trackType.stored hstored fun _ _ _ => Stores.hasUint
  codecId := Each.map_iff.2 (h.codecId.stored hstored fun _ _ _ => Stores.hasText)
  codecPrivate := h.codecPrivate.stored hstored fun _ _ _ => Stores.hasBytes
  name := Each.map_iff.2 (h.name.stored hstored fun _ _ _ => Stores.hasText)
  audio := h.audio.stored hstored fun _ _ _ => Stores.hasAudio

theorem exists_readChild (h : d.SaidBy file es) :
    ∀ e ∈ es, ∀ t, ∃ t', Track.readChild file t e = .ok t' := by
  intro e he t
  unfold Track.readChild
  split
  · next hid => exact exists_map_eq_ok h.number he hid
  · next hid => exact exists_map_eq_ok h.uid he hid
  · next hid => exact exists_map_eq_ok h.trackType he hid
  · next hid => exact exists_map_eq_ok h.codecId he hid
  · next hid => exact exists_map_eq_ok h.codecPrivate he hid
  · next hid => exact exists_map_eq_ok h.name he hid
  · next hid =>
    obtain ⟨a, -, ha⟩ := h.audio.exists_of_mem he hid
    exact ⟨_, ha t⟩
  · exact ⟨t, rfl⟩

theorem eq_track (h : d.SaidBy file es) {t : Track}
    (ht : es.foldlM (Track.readChild file) {} = .ok t) : t = d.track := by
  have hstep {t t' : Track} {e : Element} (h : Track.readChild file t e = .ok t') :=
    Track.readChild_step h
  have number : t.number = d.number := get_foldlM _ (fun _ _ _ h => (hstep h).number) h.number ht
  have uid : t.uid = d.uid := get_foldlM _ (fun _ _ _ h => (hstep h).uid) h.uid ht
  have trackType : t.trackType = d.trackType :=
    (get_foldlM _ (fun _ _ _ h => (hstep h).trackType) h.trackType ht).trans
      (by cases d.trackType <;> rfl)
  have codecId : t.codecId = d.codecId.text :=
    get_foldlM _ (fun _ _ _ h => (hstep h).codecId) h.codecId ht
  have codecPrivate : t.codecPrivate = d.codecPrivate.map List.toArray :=
    (get_foldlM _ (fun _ _ _ h => (hstep h).codecPrivate) h.codecPrivate ht).trans
      (by cases d.codecPrivate <;> rfl)
  have name : t.name = d.name.map Label.text :=
    (get_foldlM _ (fun _ _ _ h => (hstep h).name) h.name ht).trans (by cases d.name <;> rfl)
  have channels : t.channels = d.audio.bind Track.Audio.channels :=
    (get_foldlM _ (fun _ _ _ h => (hstep h).channels) h.audio ht).trans
      (by cases d.audio <;> simp)
  have bitDepth : t.bitDepth = d.audio.bind Track.Audio.bitDepth :=
    (get_foldlM _ (fun _ _ _ h => (hstep h).bitDepth) h.audio ht).trans
      (by cases d.audio <;> simp)
  have sampleRate : t.sampleRate = none :=
    (get_foldlM _ (fun _ _ _ h => (hstep h).sampleRate) h.audio ht).trans
      (by cases d.audio <;> rfl)
  have tags : t.tags = [] :=
    foldlM_rel (P := fun t t' : Track => t'.tags = t.tags) (fun _ => rfl)
      (fun _ _ _ h h' => h'.trans h) (fun _ _ _ h => (hstep h).tags) ht
  rw [track, ← number, ← uid, ← trackType, ← codecId, ← codecPrivate, ← name, ← channels,
    ← bitDepth, ← sampleRate, ← tags]

end TrackDescription.SaidBy

theorem Stores.readTrack {file : Bytes} {e : Element} {n : Node} {d : TrackDescription}
    (h : Stores file e n) (hw : n.WritesTrack d) : Track.read file e = .ok d.track := by
  obtain ⟨es, ns, hes, hstored, hlists⟩ := h.contains hw
  have hsaid := TrackDescription.SaidBy.of_lists hstored hlists
  obtain ⟨t, ht⟩ := exists_foldlM hsaid.exists_readChild {}
  rw [Track.read, foldlM_children hes ht, hsaid.eq_track ht]

theorem Stores.readTracks {file : Bytes} {e : Element} {n : Node} {d : FileDescription}
    (h : Stores file e n) (hw : n.WritesTracks d) :
    (children file e).readAll Id.trackEntry (Track.read file) =
      .ok (d.tracks.map TrackDescription.track) := by
  obtain ⟨es, ns, hes, hstored, hlists⟩ := h.contains hw
  exact readAll_children hes (Each.map_iff.2 (hlists.stored hstored fun _ _ _ => readTrack))

/-! ## Chapters -/

theorem foldl_eq_of_forall {α β : Type} {put : β → α → β} {b : β} {vs : List α}
    (h : ∀ v ∈ vs, put b v = b) : vs.foldl put b = b := by
  induction vs with
  | nil => rfl
  | cons v vs ih => rw [List.foldl_cons, h v (by simp), ih fun v hv => h v (by simp [hv])]

/-- The children of a chapter atom, as a description has them. -/
structure ChapterDescription.SaidBy (d : ChapterDescription) (file : Bytes) (es : List Element) :
    Prop where
  uid : Each Element.id Id.chapterUid (HasUint file) es [d.uid]
  start : Each Element.id Id.chapterTimeStart (HasUint file) es [d.start]
  stop : Each Element.id Id.chapterTimeEnd (HasUint file) es d.stop.toList
  hidden : ∃ vs, Each Element.id Id.chapterFlagHidden (HasUint file) es vs ∧ ∀ v ∈ vs, v = 0
  enabled : ∃ vs, Each Element.id Id.chapterFlagEnabled (HasUint file) es vs ∧ ∀ v ∈ vs, v ≠ 0
  title : Each Element.id Id.chapterDisplay (Atom.HasTitle file) es
    (d.title.toList.map fun title => some title.text)

namespace ChapterDescription.SaidBy

variable {d : ChapterDescription} {file : Bytes} {es : List Element}

theorem of_lists {ns : List Node} (hstored : List.Forall₂ (Stores file) es ns)
    (h : Node.ListsChapter d ns) : d.SaidBy file es where
  uid := h.uid.stored hstored fun _ _ _ => Stores.hasUint
  start := h.start.stored hstored fun _ _ _ => Stores.hasUint
  stop := h.stop.stored hstored fun _ _ _ => Stores.hasUint
  hidden := by
    obtain ⟨vs, heach, hzero⟩ := Each.exists_of_forall (P := (· = 0)) (R := Node.WritesUint)
      fun m hm hid => ⟨0, rfl, h.hidden m hm hid⟩
    exact ⟨vs, heach.stored hstored fun _ _ _ => Stores.hasUint, hzero⟩
  enabled := by
    obtain ⟨vs, heach, hne⟩ := Each.exists_of_forall (P := (· ≠ 0)) (R := Node.WritesUint)
      fun m hm hid => ⟨_, (h.enabled m hm hid).2, (h.enabled m hm hid).1, rfl⟩
    exact ⟨vs, heach.stored hstored fun _ _ _ => Stores.hasUint, hne⟩
  title := Each.map_iff.2 (h.title.stored hstored fun _ _ _ => Stores.hasTitle)

theorem exists_readChild (h : d.SaidBy file es) :
    ∀ e ∈ es, ∀ a, ∃ a', Atom.readChild file a e = .ok a' := by
  obtain ⟨_, hhidden, -⟩ := h.hidden
  obtain ⟨_, henabled, -⟩ := h.enabled
  intro e he a
  unfold Atom.readChild
  split
  · next hid => exact exists_map_eq_ok h.uid he hid
  · next hid => exact exists_map_eq_ok h.start he hid
  · next hid => exact exists_map_eq_ok h.stop he hid
  · next hid => exact exists_map_eq_ok hhidden he hid
  · next hid => exact exists_map_eq_ok henabled he hid
  · next hid =>
    obtain ⟨t, -, ht⟩ := h.title.exists_of_mem he hid
    split
    · exact ⟨_, ht a⟩
    · exact ⟨a, rfl⟩
  · exact ⟨a, rfl⟩

theorem eq_atom (h : d.SaidBy file es) {a : Atom}
    (ha : es.foldlM (Atom.readChild file) {} = .ok a) : a = d.atom := by
  have hstep {a a' : Atom} {e : Element} (h : Atom.readChild file a e = .ok a') :=
    Atom.readChild_step h
  obtain ⟨_, hhidden, hzero⟩ := h.hidden
  obtain ⟨_, henabled, hne⟩ := h.enabled
  have uid : a.uid = d.uid := get_foldlM _ (fun _ _ _ h => (hstep h).uid) h.uid ha
  have start : a.start = d.start := get_foldlM _ (fun _ _ _ h => (hstep h).start) h.start ha
  have stop : a.stop = d.stop :=
    (get_foldlM _ (fun _ _ _ h => (hstep h).stop) h.stop ha).trans (by cases d.stop <;> rfl)
  have hidden : a.hidden = false :=
    (get_foldlM _ (fun _ _ _ h => (hstep h).hidden) hhidden ha).trans
      (foldl_eq_of_forall fun v hv => by simp [hzero v hv])
  have enabled : a.enabled = true :=
    (get_foldlM _ (fun _ _ _ h => (hstep h).enabled) henabled ha).trans
      (foldl_eq_of_forall fun v hv => by simp [hne v hv])
  have title : a.title = d.title.map Label.text :=
    (get_foldlM _ (fun _ _ _ h => (hstep h).title) h.title ha).trans
      (by cases d.title <;> rfl)
  rw [atom, ← uid, ← start, ← stop, ← hidden, ← enabled, ← title]

end ChapterDescription.SaidBy

namespace Stores

variable {file : Bytes} {e : Element} {n : Node}

theorem readChapter {d : ChapterDescription} (h : Stores file e n) (hw : n.WritesChapter d) :
    Atom.read file e = .ok d.atom := by
  obtain ⟨es, ns, hes, hstored, hlists⟩ := h.contains hw
  have hsaid := ChapterDescription.SaidBy.of_lists hstored hlists
  obtain ⟨a, ha⟩ := exists_foldlM hsaid.exists_readChild {}
  rw [Atom.read, foldlM_children hes ha, hsaid.eq_atom ha]

/-- Whether an edition is the default one does not matter where there is no other. -/
theorem hasAtoms {ds : List ChapterDescription} (h : Stores file e n) (hw : n.WritesEdition ds) :
    HasAtoms file e (ds.map ChapterDescription.atom) := by
  obtain ⟨es, ns, hes, hstored, hlists⟩ := h.contains hw
  obtain ⟨vs, heach, -⟩ := Each.exists_of_forall (P := fun _ => True) (R := Node.WritesUint)
    fun m hm hid => ⟨_, trivial, hlists.isDefault m hm hid, rfl⟩
  have hflag := heach.stored hstored fun _ _ _ => hasUint
  have hok : ∀ e ∈ es, ∀ b : Bool, ∃ b' : Bool, Edition.readFlag file b e = .ok b' := by
    intro e he b
    unfold Edition.readFlag
    split
    · next hid => exact exists_map_eq_ok hflag he hid
    · exact ⟨b, rfl⟩
  obtain ⟨b, hb⟩ := exists_foldlM hok false
  refine ⟨⟨e, b⟩, ?_, ?_⟩
  · rw [Edition.read, foldlM_children hes hb]
    rfl
  · exact readAll_children hes
      (Each.map_iff.2 (hlists.atoms.stored hstored fun _ _ _ => readChapter))

theorem readChapters {d : FileDescription} (h : Stores file e n) (hw : n.WritesChapters d) :
    Edition.readAtoms file e = .ok (d.chapters.map ChapterDescription.atom) := by
  obtain ⟨es, ns, hes, hstored, hlists⟩ := h.contains hw
  have heach : Each Element.id Id.editionEntry (HasAtoms file) es
      [d.chapters.map ChapterDescription.atom] :=
    Each.map_iff.2 (hlists.stored hstored fun _ _ _ => hasAtoms)
  obtain ⟨edition, heditions, hatoms⟩ := heach.exists_of_singleton
  have husable : ∀ a ∈ d.chapters.map ChapterDescription.atom, a.isUsable := by
    intro a ha
    obtain ⟨c, -, rfl⟩ := List.mem_map.1 ha
    simp [Atom.isUsable, ChapterDescription.atom, c.uid_ne]
  have hkeep := Atom.keep_eq_self husable (List.pairwise_map.2 d.increasing)
  have hchoose : Edition.choose? [edition] = some edition := by
    cases hdefault : edition.isDefault <;> simp [Edition.choose?, hdefault]
  rw [Edition.readAtoms, readAll_children hes heditions]
  simp only [bind, Except.bind, pure, Except.pure, hchoose, hatoms, hkeep]

end Stores

/-! ## The whole file -/

theorem readSection_eq {α : Type} {id : Nat} {read : Element → Except Fault α}
    {es : List Element} {vs : List α}
    (h : Each Element.id id (fun e v => read e = .ok v) es vs) :
    readSection es id read = .ok vs.head? := by
  rw [readSection, ← List.head?_filter]
  cases h' : es.filter (fun e => e.id == id) with
  | nil =>
    rw [Each, h'] at h
    cases h
    rfl
  | cons e rest =>
    rw [Each, h'] at h
    cases h with
    | cons hv _ => simp [hv, Except.map]

/-- Without a cluster and a seek head, sections are looked for in all of a segment. -/
theorem exists_readSections {file : Bytes} {e : Element} {n : Node} {ns : List Node}
    (h : Stores file e n) (hns : n.HasChildren ns) (hcluster : ∀ m ∈ ns, m.id ≠ Id.cluster)
    (hseek : ∀ m ∈ ns, m.id ≠ Id.seekHead) :
    ∃ es, readSections file e = .ok es ∧ List.Forall₂ (Stores file) es ns := by
  have hstored := Node.stores_placeAll (hns ▸ h.holds)
  have hall : (Node.placeAll e.dataStart ns).takeWhile (fun e => !(e.id == Id.cluster)) =
      Node.placeAll e.dataStart ns := by
    rw [List.takeWhile_eq_self_iff]
    simpa using forall_id_ne hstored hcluster
  have hnone : Each Element.id Id.seekHead (fun e v => Seek.readHead file e = .ok v)
      (Node.placeAll e.dataStart ns) [] :=
    Each.nil_of_forall_ne (forall_id_ne hstored hseek)
  have hheads : Children.readAll ⟨Node.placeAll e.dataStart ns, none⟩ Id.seekHead
      (Seek.readHead file) = .ok [] :=
    Children.readAll_eq_ok.2 ⟨rfl, hnone⟩
  refine ⟨_, ?_, hstored⟩
  rw [readSections, h.childrenUntil_eq hns, hall]
  simp [hheads, bind, Except.bind, pure, Except.pure]

/-- The segment stands behind the header and ends with the file. -/
theorem exists_readSegment {file : Bytes} {head segment : Node} (hhead : head.id = Id.ebml)
    (hsegment : segment.id = Id.segment) (hfile : file.toList = head.bytes ++ segment.bytes) :
    ∃ e, readSegment file file.size = .ok e ∧ Stores file e segment := by
  have hholds : file.Holds 0 (head.bytes ++ segment.bytes) := by
    rw [Bytes.Holds, List.drop_zero, hfile]
  have hsize : file.size = head.bytes.length + segment.bytes.length := by
    rw [← Array.length_toList, hfile, List.length_append]
  have hfirst : header file 0 file.size = .ok (head.place 0) :=
    Node.header_place hholds.left (by omega)
  have hright : file.Holds (head.place 0).stop segment.bytes := hholds.right
  have hsecond : header file (head.place 0).stop file.size =
      .ok (segment.place (head.place 0).stop) :=
    Node.header_place hright (by simp only [Node.place]; omega)
  refine ⟨_, ?_, Node.stores_place hright⟩
  simp only [readSegment, hfirst, hsecond, bind, Except.bind, pure, Except.pure]
  simp [Node.place, hhead, hsegment]

theorem toChapter_atom (d : ChapterDescription) : d.atom.toChapter [] = d.chapter := by
  have hstart : min (d.start : Int) maxInstant = d.start := min_eq_left d.start_le
  have hstop : (d.stop.map Int.ofNat).filter (· ≤ maxInstant) = d.stop.map Int.ofNat := by
    cases hd : d.stop with
    | none => rfl
    | some n => simpa using d.stop_le n hd
  have htitle : d.atom.entries =
      (d.title.toList.filter (·.text ≠ "")).map fun title => ⟨"title", title.text⟩ := by
    cases hd : d.title with
    | none => simp [Atom.entries, ChapterDescription.atom, hd]
    | some title =>
      by_cases hempty : title.text = "" <;>
        simp [Atom.entries, ChapterDescription.atom, hd, hempty]
  rw [Atom.toChapter, htitle, List.append_nil]
  simp only [ChapterDescription.atom, ChapterDescription.chapter, hstart, hstop, Atom.timeBase]

/-- A file that writes a description is read as that description, however it writes it. -/
theorem readInfo_of_writes {file : Bytes} {d : FileDescription} (h : Writes file d) :
    readInfo file file.size = .ok d.info := by
  obtain ⟨head, segment, hhead, ⟨hid, ns, hns, hlists⟩, hfile⟩ := h
  obtain ⟨e, hsegment, hstored⟩ := exists_readSegment hhead hid hfile
  have hothers (id : Nat) (hmem : id ∈ [Id.cluster, Id.seekHead, Id.info, Id.tags]) :
      ∀ m ∈ ns, m.id ≠ id :=
    fun m hm heq => hlists.others m hm (heq ▸ hmem)
  obtain ⟨es, hsections, hes⟩ :=
    exists_readSections hstored hns (hothers _ (by simp)) (hothers _ (by simp))
  have hinfo : readSection es Id.info (readDuration file) = .ok none :=
    readSection_eq (Each.nil_of_forall_ne (forall_id_ne hes (hothers _ (by simp))))
  have htags : readSection es Id.tags (fun e =>
      (children file e).readAll Id.tag (TagElement.read file)) = .ok none :=
    readSection_eq (Each.nil_of_forall_ne (forall_id_ne hes (hothers _ (by simp))))
  have htracks : readSection es Id.tracks (fun e =>
      (children file e).readAll Id.trackEntry (Track.read file)) =
        .ok (some (d.tracks.map TrackDescription.track)) :=
    readSection_eq (Each.map_iff.2 (hlists.tracks.stored hes fun _ _ _ => Stores.readTracks))
  have hchapters : readSection es Id.chapters (Edition.readAtoms file) =
      .ok (some (d.chapters.map ChapterDescription.atom)) :=
    readSection_eq (Each.map_iff.2 (hlists.chapters.stored hes fun _ _ _ => Stores.readChapters))
  simp only [readInfo, hsegment, hsections, hinfo, htags, htracks, hchapters, bind, Except.bind,
    pure, Except.pure]
  simp [FileDescription.info, Function.comp_def, toChapter_atom, TrackDescription.track]

/-! ## A small file -/

namespace Clip

/-- Padding, which says nothing. -/
def void : Node where
  id := 0xEC
  sizeWidth := 3
  payload := [0, 0, 0]

def audioParts : List Node := [void, { id := Id.channels, sizeWidth := 1, payload := [2] }]

def trackParts : List Node :=
  [void, { id := Id.codecId, sizeWidth := 2, payload := [65, 95, 79, 80, 85, 83] },
    { id := Id.trackUid, sizeWidth := 1, payload := [0, 0, 7] },
    { id := Id.audio, sizeWidth := 4, payload := audioParts.flatMap Node.bytes },
    { id := Id.trackNumber, sizeWidth := 8, payload := [1] }]

def trackEntries : List Node :=
  [{ id := Id.trackEntry, sizeWidth := 4, payload := trackParts.flatMap Node.bytes }]

def display : List Node :=
  [void, { id := Id.chapString, sizeWidth := 1, payload := [0xC3, 0x89] }]

def firstParts : List Node :=
  [{ id := Id.chapterUid, sizeWidth := 1, payload := [5] },
    { id := Id.chapterDisplay, sizeWidth := 2, payload := display.flatMap Node.bytes },
    { id := Id.chapterTimeStart, sizeWidth := 5, payload := [] }]

def secondParts : List Node :=
  [{ id := Id.chapterTimeStart, sizeWidth := 1, payload := [1, 0] },
    { id := Id.chapterFlagEnabled, sizeWidth := 1, payload := [1] }, void,
    { id := Id.chapterUid, sizeWidth := 6, payload := [0, 6] }]

def atoms : List Node :=
  [{ id := Id.chapterAtom, sizeWidth := 1, payload := firstParts.flatMap Node.bytes }, void,
    { id := Id.chapterAtom, sizeWidth := 2, payload := secondParts.flatMap Node.bytes }]

def editions : List Node :=
  [{ id := Id.editionEntry, sizeWidth := 3, payload := atoms.flatMap Node.bytes }]

/-- The chapters stand in front of the tracks. -/
def sections : List Node :=
  [{ id := Id.chapters, sizeWidth := 7, payload := editions.flatMap Node.bytes }, void,
    { id := Id.tracks, sizeWidth := 2, payload := trackEntries.flatMap Node.bytes }]

def head : Node where
  id := Id.ebml
  sizeWidth := 1
  payload := []

def segment : Node where
  id := Id.segment
  sizeWidth := 8
  payload := sections.flatMap Node.bytes
  length_lt := by decide +kernel

def file : Bytes := (head.bytes ++ segment.bytes).toArray

def opus : TrackDescription where
  number := 1
  uid := 7
  codecId := { text := "A_OPUS" }
  audio := some { channels := some 2 }

def first : ChapterDescription where
  uid := 5
  start := 0
  title := some { text := "É" }

def second : ChapterDescription where
  uid := 6
  start := 256

def description : FileDescription where
  tracks := [opus]
  chapters := [first, second]

theorem listsTrack : Node.ListsTrack opus trackParts := by
  have haudio : Node.ListsAudio { channels := some 2 } audioParts := by
    refine ⟨.cons ?_ .nil, .nil, ?_⟩ <;> decide
  refine ⟨.cons ?_ .nil, .cons ?_ .nil, .nil, .cons rfl .nil, .nil, .nil, .cons ?_ .nil⟩
  · decide
  · decide
  · exact ⟨audioParts, rfl, haudio⟩

theorem listsChapter_first : Node.ListsChapter first firstParts := by
  refine ⟨.cons ?_ .nil, .cons ?_ .nil, .nil, .cons ?_ .nil, ?_, ?_⟩
  case refine_3 => exact ⟨display, rfl, .cons rfl .nil⟩
  all_goals decide

theorem listsChapter_second : Node.ListsChapter second secondParts := by
  refine ⟨.cons ?_ .nil, .cons ?_ .nil, .nil, .nil, ?_, ?_⟩ <;> decide

theorem writes : Writes file description := by
  refine ⟨head, segment, rfl, ⟨rfl, sections, rfl, .cons ?_ .nil, .cons ?_ .nil, by decide⟩, rfl⟩
  · exact ⟨trackEntries, rfl, .cons ⟨trackParts, rfl, listsTrack⟩ .nil⟩
  · refine ⟨editions, rfl, .cons ⟨atoms, rfl, .cons ?_ (.cons ?_ .nil), by decide⟩ .nil⟩
    · exact ⟨firstParts, rfl, listsChapter_first⟩
    · exact ⟨secondParts, rfl, listsChapter_second⟩

end Clip

open Clip in
theorem readInfo_of_writes_clip :
    Writes file description ∧ readInfo file file.size = .ok
      { tracks := [{ number := 1, uid := 7, codecId := "A_OPUS", channels := some 2 }]
        chapters := [⟨0, none, ⟨1, 1000000000⟩, [⟨"title", "É"⟩]⟩,
          ⟨256, none, ⟨1, 1000000000⟩, []⟩] } :=
  ⟨writes, (readInfo_of_writes writes).trans (by decide)⟩

end MediaTags.Matroska
