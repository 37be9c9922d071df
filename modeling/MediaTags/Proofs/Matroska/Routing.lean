import MediaTags.Matroska.Info
import MediaTags.Proofs.Lists
import MediaTags.Proofs.Matroska.Track

/-!
# Where the entries of tags go

A tag of a file names ids of tracks, chapters, editions and attachments, or none at all. Its
entries go to the tracks that it names; if it names no track, to the chapters that it names; and
if it names nothing, to the file. The views below read these ids, the target type and the entries
off a tag element one by one.
-/

namespace MediaTags.Matroska

section Views

variable (file : Bytes)

def childrenWith (id : Nat) (e : Element) : List Element :=
  (children file e).elements.filter (·.id == id)

/-- The text of an element, if it has the right id. -/
def textIn (id : Nat) (e : Element) : Option String :=
  if e.id = id then (text file e).toOption else none

/-- The last text among the children with an id. -/
def lastText? (id : Nat) (e : Element) : Option String :=
  ((children file e).elements.filterMap (textIn file id)).getLast?

/-- What the target lists of a tag hold, one list after the other. -/
def targetsOf (tag : Element) : List Element :=
  (childrenWith file Id.targets tag).flatMap fun e => (children file e).elements

/-- The id that an element names, if it is of one of the kinds. Zero names nothing. -/
def uidIn (kinds : List Nat) (e : Element) : Option Nat :=
  if e.id ∈ kinds then (uint file e).toOption.filter (· ≠ 0) else none

def targetUids (kinds : List Nat) (tag : Element) : List Nat :=
  (targetsOf file tag).filterMap (uidIn file kinds)

/-- The last target type that a tag names, unless it is empty. -/
def targetType? (tag : Element) : Option String :=
  ((targetsOf file tag).filterMap (textIn file Id.targetType)).getLast?.filter (!·.isEmpty)

/-- The entry that a simple tag holds, if it has a text and a name that is not empty. -/
def entryOf? (simple : Element) : Option Entry :=
  match lastText? file Id.tagName simple, lastText? file Id.tagString simple with
  | some name, some value => if name = "" then none else some ⟨name, value⟩
  | _, _ => none

def entriesOf (tag : Element) : List Entry :=
  (childrenWith file Id.simpleTag tag).filterMap (entryOf? file)

/-- The entries of a tag under the name of its target type. -/
def labelledEntriesOf (tag : Element) : List Entry :=
  match targetType? file tag with
  | some name => (entriesOf file tag).map fun e => ⟨name ++ "/" ++ e.key, e.value⟩
  | none => entriesOf file tag

/-- The tags of the section for tags, the first one of its kind. -/
def tagsIn (sections : List Element) : List Element :=
  match sections.find? (·.id == Id.tags) with
  | some e => childrenWith file Id.tag e
  | none => []

end Views

section Reading

variable {file : Bytes}

theorem toOption_of_map_eq_ok {α β : Type} {x : Except Fault α} {f : α → β} {b : β}
    (h : x.map f = .ok b) : ∃ a, x.toOption = some a ∧ f a = b := by
  obtain ⟨a, rfl, rfl⟩ := map_eq_ok.1 h
  exact ⟨a, rfl, rfl⟩

/-! ## Simple tags -/

theorem readSimplePart_step {s s' : Option String × Option String} {e : Element}
    (h : TagElement.readSimplePart file s e = .ok s') :
    s'.1 = (textIn file Id.tagName e <|> s.1) ∧ s'.2 = (textIn file Id.tagString e <|> s.2) := by
  obtain ⟨name, value⟩ := s
  simp only [TagElement.readSimplePart] at h
  split at h
  · next hid =>
    obtain ⟨t, ht, rfl⟩ := toOption_of_map_eq_ok h
    simp +decide [textIn, hid, ht]
  · next hid =>
    obtain ⟨t, ht, rfl⟩ := toOption_of_map_eq_ok h
    simp +decide [textIn, hid, ht]
  · next hname hvalue =>
    cases h
    simp_all [textIn, Id.tagName, Id.tagString]

theorem entryOf?_of_readSimple {e : Element} {o : Option Entry}
    (h : TagElement.readSimple file e = .ok o) : entryOf? file e = o := by
  obtain ⟨⟨name, value⟩, hfold, hout⟩ := bind_eq_ok.1 h
  have hes := (Children.foldlM_eq_ok.1 hfold).2
  have hname := foldlM_last hes Prod.fst fun _ _ _ h => (readSimplePart_step h).1
  have hvalue := foldlM_last hes Prod.snd fun _ _ _ h => (readSimplePart_step h).2
  simp only [Option.orElse_eq_orElse, Option.orElse_eq_or, Option.or_none] at hname hvalue
  rw [entryOf?, lastText?, lastText?, ← hname, ← hvalue]
  cases name with
  | none => exact Except.ok.inj hout
  | some name =>
    cases value with
    | none => exact Except.ok.inj hout
    | some value => simpa using Except.ok.inj hout

/-! ## Target lists -/

theorem views_of_readTarget {e : Element} {p : TargetPart} (h : TargetPart.read file e = .ok p) :
    p.trackUid? = uidIn file [Id.tagTrackUid] e ∧
    p.chapterUid? = uidIn file [Id.tagChapterUid] e ∧
    p.isOther = (uidIn file [Id.tagEditionUid, Id.tagAttachmentUid] e).isSome ∧
    p.typeName? = textIn file Id.targetType e := by
  unfold TargetPart.read at h
  split at h
  case h_6 =>
    cases h
    simp_all [uidIn, textIn, TargetPart.trackUid?, TargetPart.chapterUid?, TargetPart.isOther,
      TargetPart.typeName?, Id.targetType, Id.tagTrackUid, Id.tagChapterUid, Id.tagEditionUid,
      Id.tagAttachmentUid]
  all_goals
    next hid =>
    obtain ⟨n, hn, rfl⟩ := toOption_of_map_eq_ok h
    simp +decide [uidIn, textIn, TargetPart.trackUid?, TargetPart.chapterUid?,
      TargetPart.isOther, TargetPart.typeName?, hid, hn] <;>
    cases n <;> rfl

theorem any_isOther {es : List Element} {ps : List TargetPart}
    (h : List.Forall₂ (fun e p => TargetPart.read file e = .ok p) es ps) :
    ps.any TargetPart.isOther =
      !(es.filterMap (uidIn file [Id.tagEditionUid, Id.tagAttachmentUid])).isEmpty := by
  induction h with
  | nil => rfl
  | @cons e p es ps hR _ ih =>
    rw [List.any_cons, (views_of_readTarget hR).2.2.1, ih, List.filterMap_cons]
    cases uidIn file [Id.tagEditionUid, Id.tagAttachmentUid] e <;> rfl

/-- The target that the ids of a tag make, tracks before chapters and these before others. -/
def targetOf (file : Bytes) (tag : Element) : Target :=
  if targetUids file [Id.tagTrackUid] tag ≠ [] then
    .tracks (targetUids file [Id.tagTrackUid] tag)
  else if targetUids file [Id.tagChapterUid] tag ≠ [] then
    .chapters (targetUids file [Id.tagChapterUid] tag)
  else if targetUids file [Id.tagEditionUid, Id.tagAttachmentUid] tag ≠ [] then .other
  else .global (targetType? file tag)

theorem targetOf_eq {tag : Element} {ps : List TargetPart}
    (h : List.Forall₂ (fun e p => TargetPart.read file e = .ok p) (targetsOf file tag) ps) :
    Target.ofParts ps = targetOf file tag := by
  have htracks : ps.filterMap TargetPart.trackUid? = targetUids file [Id.tagTrackUid] tag :=
    filterMap_eq_of_forall₂ h fun _ _ hR => (views_of_readTarget hR).1
  have hchapters : ps.filterMap TargetPart.chapterUid? = targetUids file [Id.tagChapterUid] tag :=
    filterMap_eq_of_forall₂ h fun _ _ hR => (views_of_readTarget hR).2.1
  have htypes : ps.filterMap TargetPart.typeName? =
      (targetsOf file tag).filterMap (textIn file Id.targetType) :=
    filterMap_eq_of_forall₂ h fun _ _ hR => (views_of_readTarget hR).2.2.2
  rw [Target.ofParts, htracks, hchapters, htypes, any_isOther h, ← targetUids, targetOf,
    targetType?]
  simp

/-! ## Tags -/

def TagPart.targetParts : TagPart → List TargetPart
  | .targets ps => ps
  | _ => []

def TagPart.entry? : TagPart → Option Entry
  | .entry e => e
  | _ => none

theorem views_of_readPart {e : Element} {p : TagPart} (h : TagElement.readPart file e = .ok p) :
    List.Forall₂ (fun e p => TargetPart.read file e = .ok p)
      (if e.id == Id.targets then (children file e).elements else []) p.targetParts ∧
    p.entry? = if e.id == Id.simpleTag then entryOf? file e else none := by
  unfold TagElement.readPart at h
  split at h
  · next hid =>
    obtain ⟨ps, hps, rfl⟩ := map_eq_ok.1 h
    simp only [hid]
    exact ⟨(Children.mapM_eq_ok.1 hps).2, rfl⟩
  · next hid =>
    obtain ⟨o, ho, rfl⟩ := map_eq_ok.1 h
    simp only [hid]
    exact ⟨.nil, (entryOf?_of_readSimple ho).symm⟩
  · next htargets hsimple =>
    cases h
    have htargets' : (e.id == Id.targets) = false := beq_eq_false_iff_ne.2 htargets
    have hsimple' : (e.id == Id.simpleTag) = false := beq_eq_false_iff_ne.2 hsimple
    rw [htargets', hsimple']
    exact ⟨.nil, rfl⟩

theorem views_of_readTag {tag : Element} {t : TagElement} (h : TagElement.read file tag = .ok t) :
    t.target = targetOf file tag ∧ t.entries = entriesOf file tag := by
  obtain ⟨parts, hparts, rfl⟩ := map_eq_ok.1 h
  have hread := (Children.mapM_eq_ok.1 hparts).2
  constructor
  · have htargets : List.Forall₂ (fun e p => TargetPart.read file e = .ok p) (targetsOf file tag)
        (parts.flatMap TagPart.targetParts) := by
      rw [targetsOf, childrenWith, flatMap_filter]
      exact List.rel_flatMap hread fun _ _ hR => (views_of_readPart hR).1
    exact targetOf_eq htargets
  · have hentries := filterMap_eq_of_forall₂ hread fun _ _ hR => (views_of_readPart hR).2
    rw [entriesOf, childrenWith, List.filterMap_filter]
    exact hentries

/-! ## Where they go -/

/-- A tag that names no track, chapter, edition or attachment is about the file. -/
def IsGlobal (file : Bytes) (tag : Element) : Prop :=
  targetUids file [Id.tagTrackUid, Id.tagChapterUid, Id.tagEditionUid, Id.tagAttachmentUid] tag = []

instance (file : Bytes) (tag : Element) : Decidable (IsGlobal file tag) :=
  inferInstanceAs (Decidable (_ = _))

def NamesTrack (file : Bytes) (uid : Nat) (tag : Element) : Prop :=
  uid ∈ targetUids file [Id.tagTrackUid] tag

/-- A tag names a chapter where it names no track. -/
def NamesChapter (file : Bytes) (uid : Nat) (tag : Element) : Prop :=
  targetUids file [Id.tagTrackUid] tag = [] ∧ uid ∈ targetUids file [Id.tagChapterUid] tag

theorem uidIn_eq_none_append {kinds more : List Nat} {e : Element} :
    uidIn file (kinds ++ more) e = none ↔ uidIn file kinds e = none ∧ uidIn file more e = none := by
  simp only [uidIn, List.mem_append]
  split <;> grind

theorem targetUids_append_eq_nil {kinds more : List Nat} {tag : Element} :
    targetUids file (kinds ++ more) tag = [] ↔
      targetUids file kinds tag = [] ∧ targetUids file more tag = [] := by
  simp only [targetUids, List.filterMap_eq_nil_iff, uidIn_eq_none_append]
  grind

theorem isGlobal_iff {tag : Element} :
    IsGlobal file tag ↔ targetUids file [Id.tagTrackUid] tag = [] ∧
      targetUids file [Id.tagChapterUid] tag = [] ∧
      targetUids file [Id.tagEditionUid, Id.tagAttachmentUid] tag = [] := by
  rw [← targetUids_append_eq_nil, ← targetUids_append_eq_nil]
  rfl

instance (file : Bytes) (uid : Nat) (tag : Element) : Decidable (NamesTrack file uid tag) :=
  inferInstanceAs (Decidable (_ ∈ _))

instance (file : Bytes) (uid : Nat) (tag : Element) : Decidable (NamesChapter file uid tag) :=
  inferInstanceAs (Decidable (_ ∧ _))

section Entries

variable {tag : Element} {t : TagElement}

theorem globalEntries_eq (h : TagElement.read file tag = .ok t) :
    t.globalEntries = if IsGlobal file tag then labelledEntriesOf file tag else [] := by
  obtain ⟨htarget, hentries⟩ := views_of_readTag h
  rw [TagElement.globalEntries, htarget, hentries, labelledEntriesOf, targetOf]
  simp only [isGlobal_iff]
  split_ifs <;> simp_all
  cases targetType? file tag <;> rfl

theorem trackEntries_eq (h : TagElement.read file tag = .ok t) (uid : Nat) :
    t.trackEntries uid = if NamesTrack file uid tag then entriesOf file tag else [] := by
  obtain ⟨htarget, hentries⟩ := views_of_readTag h
  rw [TagElement.trackEntries, htarget, hentries, targetOf]
  simp only [NamesTrack]
  split_ifs <;> simp_all

theorem chapterEntries_eq (h : TagElement.read file tag = .ok t) (uid : Nat) :
    t.chapterEntries uid = if NamesChapter file uid tag then entriesOf file tag else [] := by
  obtain ⟨htarget, hentries⟩ := views_of_readTag h
  rw [TagElement.chapterEntries, htarget, hentries, targetOf]
  simp only [NamesChapter]
  split_ifs <;> simp_all

end Entries

theorem forall₂_tagsIn {sections : List Element} {tags : Option (List TagElement)}
    (h : readSection sections Id.tags (fun e =>
      (children file e).readAll Id.tag (TagElement.read file)) = .ok tags) :
    List.Forall₂ (fun e t => TagElement.read file e = .ok t) (tagsIn file sections)
      (tags.getD []) := by
  cases hfind : sections.find? (fun e => e.id == Id.tags) with
  | some e =>
    simp only [readSection, hfind] at h
    obtain ⟨ts, hts, rfl⟩ := map_eq_ok.1 h
    simp only [tagsIn, hfind]
    exact (Children.readAll_eq_ok.1 hts).2
  | none =>
    simp only [readSection, hfind] at h
    cases h
    simp only [tagsIn, hfind]
    exact .nil

/-- What a successful reading was put together from. -/
theorem parts_of_readInfo {len : Nat} {info : Info} (h : readInfo file len = .ok info) :
    ∃ (segment : Element) (sections : List Element) (tracks : List Track)
        (tags : Option (List TagElement)) (atoms : Option (List Atom)),
      readSegment file len = .ok segment ∧
      readSections file segment = .ok sections ∧
      readSection sections Id.tags (fun e =>
        (children file e).readAll Id.tag (TagElement.read file)) = .ok tags ∧
      readSection sections Id.chapters (Edition.readAtoms file) = .ok atoms ∧
      info.tracks = tracks.map (fun t =>
        { t with tags := (tags.getD []).flatMap (TagElement.trackEntries t.uid) }) ∧
      info.chapters = (atoms.getD []).map (fun a =>
        a.toChapter ((tags.getD []).flatMap (TagElement.chapterEntries a.uid))) ∧
      info.tags = (tags.getD []).flatMap TagElement.globalEntries := by
  obtain ⟨segment, hsegment, h⟩ := bind_eq_ok.1 h
  obtain ⟨sections, hsections, h⟩ := bind_eq_ok.1 h
  obtain ⟨_, -, h⟩ := bind_eq_ok.1 h
  obtain ⟨tracks, -, h⟩ := bind_eq_ok.1 h
  obtain ⟨tags, htags, h⟩ := bind_eq_ok.1 h
  obtain ⟨atoms, hatoms, h⟩ := bind_eq_ok.1 h
  cases h
  exact ⟨segment, sections, tracks.getD [], tags, atoms, hsegment, hsections, htags, hatoms,
    rfl, rfl, rfl⟩

/-- The tags of a track are those of the file that name its uid. -/
theorem tags_of_readInfo {len : Nat} {info : Info} (h : readInfo file len = .ok info) :
    ∃ segment sections, readSegment file len = .ok segment ∧
      readSections file segment = .ok sections ∧
      ∀ t ∈ info.tracks,
        t.tags = ((tagsIn file sections).filter (NamesTrack file t.uid ·)).flatMap
          (entriesOf file) := by
  obtain ⟨segment, sections, tracks, ts, atoms, hsegment, hsections, htags, -, htracks, -⟩ :=
    parts_of_readInfo h
  have hts := forall₂_tagsIn htags
  refine ⟨segment, sections, hsegment, hsections, ?_⟩
  rw [htracks, List.forall_mem_map]
  intro t _
  rw [flatMap_filter, flatMap_eq_of_forall₂ hts fun _ _ ht => trackEntries_eq ht t.uid]
  simp

/-- A file is said to have tags if a section for them was found. -/
theorem hasTags_of_readInfo {len : Nat} {info : Info} (h : readInfo file len = .ok info) :
    ∃ segment sections, readSegment file len = .ok segment ∧
      readSections file segment = .ok sections ∧
      (info.hasTags = true ↔ ∃ e ∈ sections, e.id = Id.tags) := by
  obtain ⟨segment, hsegment, h⟩ := bind_eq_ok.1 h
  obtain ⟨sections, hsections, h⟩ := bind_eq_ok.1 h
  obtain ⟨_, -, h⟩ := bind_eq_ok.1 h
  obtain ⟨_, -, h⟩ := bind_eq_ok.1 h
  obtain ⟨tags, htags, h⟩ := bind_eq_ok.1 h
  obtain ⟨_, -, h⟩ := bind_eq_ok.1 h
  cases h
  refine ⟨segment, sections, hsegment, hsections, ?_⟩
  have hfound : tags.isSome = (sections.find? (·.id == Id.tags)).isSome := by
    rw [readSection] at htags
    split at htags
    · next e he =>
      obtain ⟨ts, -, rfl⟩ := map_eq_ok.1 htags
      rw [he]
      rfl
    · next hnone =>
      cases htags
      rw [hnone]
      rfl
  simp [hfound, List.find?_isSome]

end Reading

/-- Where a file can be read, each tag of its first section for tags goes where it should, as a
whole and once: to the file under the name of its target type, to the tracks that it names, or to
the chapters that it names, behind their titles. One that names only editions or attachments goes
nowhere. -/
theorem readInfo_routes {file : Bytes} {len : Nat} {info : Info}
    (h : readInfo file len = .ok info) :
    ∃ segment sections atoms, readSegment file len = .ok segment ∧
      readSections file segment = .ok sections ∧
      readSection sections Id.chapters (Edition.readAtoms file) = .ok atoms ∧
      let tags := tagsIn file sections
      info.tags = (tags.filter (IsGlobal file ·)).flatMap (labelledEntriesOf file) ∧
      (∀ t ∈ info.tracks,
        t.tags = (tags.filter (NamesTrack file t.uid ·)).flatMap (entriesOf file)) ∧
      List.Forall₂ (fun a c => c.start = min (a.start : Int) maxInstant ∧
        c.metadata = (a.title.toList.filter (· ≠ "")).map (⟨"title", ·⟩) ++
          (tags.filter (NamesChapter file a.uid ·)).flatMap (entriesOf file))
        (atoms.getD []) info.chapters ∧
      ∀ tag ∈ tags, targetUids file [Id.tagTrackUid] tag = [] →
        targetUids file [Id.tagChapterUid] tag = [] →
        targetUids file [Id.tagEditionUid, Id.tagAttachmentUid] tag ≠ [] →
        ¬ IsGlobal file tag ∧ ∀ uid, ¬ NamesTrack file uid tag ∧ ¬ NamesChapter file uid tag := by
  obtain ⟨segment, sections, tracks, ts, atoms, hsegment, hsections, htags, hatoms,
    htracks, hchapters, hglobal⟩ := parts_of_readInfo h
  have hts := forall₂_tagsIn htags
  refine ⟨segment, sections, atoms, hsegment, hsections, hatoms, ?_, ?_, ?_, ?_⟩
  · rw [hglobal, flatMap_filter, flatMap_eq_of_forall₂ hts fun _ _ ht => globalEntries_eq ht]
    simp
  · rw [htracks, List.forall_mem_map]
    intro t _
    rw [flatMap_filter, flatMap_eq_of_forall₂ hts fun _ _ ht => trackEntries_eq ht t.uid]
    simp
  · rw [hchapters, List.forall₂_map_right_iff, List.forall₂_same]
    intro a _
    refine ⟨rfl, ?_⟩
    rw [flatMap_filter, flatMap_eq_of_forall₂ hts fun _ _ ht => chapterEntries_eq ht a.uid]
    have htitle : a.entries = (a.title.toList.filter (· ≠ "")).map (⟨"title", ·⟩) := by
      unfold Atom.entries
      cases a.title with
      | none => rfl
      | some title => by_cases hempty : title = "" <;> simp [hempty]
    rw [Atom.toChapter, htitle]
    simp
  · intro tag _ htracks hchapters hothers
    refine ⟨fun h => hothers (isGlobal_iff.1 h).2.2, fun uid => ⟨fun h => ?_, fun h => ?_⟩⟩
    · simp [NamesTrack, htracks] at h
    · simp [NamesChapter, hchapters] at h

/-! ## A small file -/

namespace LiveSet

/-- An element with a size of one byte. -/
def element (id : Nat) (payload : List UInt8) : List UInt8 :=
  idBytes id ++ sizeBytes 1 payload.length ++ payload

def simpleTag (name value : String) : List UInt8 :=
  element Id.simpleTag (element Id.tagName (Text.Utf8.encode name.toList) ++
    element Id.tagString (Text.Utf8.encode value.toList))

/-- One tag for the file, one for track 7 that names it twice, one for chapter 5 that spreads over
two target lists, and one for an edition. -/
def tags : List UInt8 :=
  element Id.tag (element Id.targets (element Id.targetType [65]) ++ simpleTag "T" "Live") ++
  element Id.tag (simpleTag "E" "x" ++ element Id.targets
    (element Id.tagTrackUid [7] ++ element Id.tagTrackUid [7] ++ element Id.tagChapterUid [5])) ++
  element Id.tag (element Id.targets (element Id.tagTrackUid [0]) ++
    element Id.targets (element Id.tagChapterUid [5]) ++ simpleTag "A" "Guest" ++
      simpleTag "" "z") ++
  element Id.tag (element Id.targets (element Id.tagEditionUid [9]) ++ simpleTag "N" "y")

def sections : List UInt8 :=
  element Id.tracks (element Id.trackEntry
    (element Id.trackNumber [1] ++ element Id.trackUid [7])) ++
  element Id.tags tags ++
  element Id.chapters (element Id.editionEntry (element Id.chapterAtom
    (element Id.chapterUid [5] ++ element Id.chapterTimeStart [] ++
      element Id.chapterDisplay (element Id.chapString [73]))))

def file : Bytes :=
  (element Id.ebml [] ++ idBytes Id.segment ++ sizeBytes 2 sections.length ++ sections).toArray

def info : Info where
  tracks := [{ number := 1, uid := 7, tags := [⟨"E", "x"⟩] }]
  chapters := [⟨0, none, ⟨1, 1000000000⟩, [⟨"title", "I"⟩, ⟨"A", "Guest"⟩]⟩]
  tags := [⟨"A/T", "Live"⟩]
  hasTags := true

end LiveSet

open LiveSet in
theorem readInfo_routes_liveSet :
    readInfo file file.size = .ok info ∧ ∃ segment sections,
      readSegment file file.size = .ok segment ∧ readSections file segment = .ok sections ∧
      info.tags = ((tagsIn file sections).filter (IsGlobal file ·)).flatMap
        (labelledEntriesOf file) := by
  have hread : readInfo file file.size = .ok info := by decide +kernel
  obtain ⟨segment, sections, -, hsegment, hsections, -, htags, -⟩ := readInfo_routes hread
  exact ⟨hread, segment, sections, hsegment, hsections, htags⟩

end MediaTags.Matroska
