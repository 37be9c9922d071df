import MediaTags.Proofs.Matroska.Chapter
import MediaTags.Proofs.Matroska.Routing
import MediaTags.Proofs.Timeline

/-!
# The chapters come from one edition

Of the editions of a file one is chosen, and of its atoms those are kept that can be played and
start after the ones kept before. What an edition or an atom says is read off its children below,
one field at a time: a field has the last value that was given for it, but a title the first one.
-/

namespace MediaTags.Matroska

section Views

variable (file : Bytes)

/-- The number in an element, if it has the right id. -/
def uintIn (id : Nat) (e : Element) : Option Nat :=
  if e.id = id then (uint file e).toOption else none

/-- The last number among the children with an id. -/
def lastUint? (id : Nat) (e : Element) : Option Nat :=
  ((children file e).elements.filterMap (uintIn file id)).getLast?

/-- The first string among the displays of an atom. -/
def stringOf? (atom : Element) : Option Element :=
  ((childrenWith file Id.chapterDisplay atom).flatMap (childrenWith file Id.chapString)).head?

/-- What an atom says. It is enabled and shown unless it says otherwise. -/
def atomAt (atom : Element) : Atom where
  uid := (lastUint? file Id.chapterUid atom).getD 0
  start := (lastUint? file Id.chapterTimeStart atom).getD 0
  stop := lastUint? file Id.chapterTimeEnd atom
  hidden := (lastUint? file Id.chapterFlagHidden atom).getD 0 != 0
  enabled := (lastUint? file Id.chapterFlagEnabled atom).getD 1 != 0
  title := (stringOf? file atom).bind fun e => (text file e).toOption

/-- An edition is a default one if it says so. -/
def IsDefault (edition : Element) : Prop :=
  (lastUint? file Id.editionFlagDefault edition).getD 0 ≠ 0

instance (edition : Element) : Decidable (IsDefault file edition) :=
  inferInstanceAs (Decidable (_ ≠ _))

/-- The chosen edition is the first default one, or the first of all if there is none. -/
def IsChosen (editions : List Element) (edition : Element) : Prop :=
  ∃ before after, editions = before ++ edition :: after ∧
    ((IsDefault file edition ∧ ∀ e ∈ before, ¬ IsDefault file e) ∨
      (before = [] ∧ ∀ e ∈ editions, ¬ IsDefault file e))

end Views

section Reading

variable {file : Bytes}

/-! ## Numbers -/

/-- A field that is fed by the numbers with an id, in a reading that fails where one of them cannot
be read, says what the last of them does. -/
theorem field_eq_lastUint? {σ β : Type} {step : σ → Element → Except Fault σ} {id : Nat}
    {f : Nat → β} (get : σ → β)
    (hstep : ∀ s e s', step s e = .ok s' →
      Feeds id (HasUint file) (fun _ n => f n) e (get s) (get s') ∧
      (e.id = id → ∃ n, uint file e = .ok n))
    {parent : Element} {s s' : σ} (h : (children file parent).foldlM step s = .ok s') :
    get s' = ((lastUint? file id parent).map f).getD (get s) := by
  have hlast : some (get s') = (((children file parent).elements.filterMap fun e =>
      (uintIn file id e).map f).getLast? <|> some (get s)) :=
    foldlM_last (Children.foldlM_eq_ok.1 h).2 (fun s => some (get s)) fun s e s' h => by
      obtain ⟨hfeeds, hread⟩ := hstep s e s' h
      by_cases hid : e.id = id
      · obtain ⟨n, hn⟩ := hread hid
        simp [uintIn, hid, hn, Except.toOption, (feeds_iff.1 hfeeds).1 hid n hn]
      · simp [uintIn, hid, hfeeds.eq_of_ne hid]
  rw [← List.map_filterMap, List.getLast?_map, ← lastUint?] at hlast
  cases hn : lastUint? file id parent with
  | none => simpa [hn] using hlast
  | some n => simpa [hn] using hlast

/-! ## Atoms -/

namespace Atom

variable {a a' : Atom} {e : Element}

theorem exists_uint_of_readChild (h : readChild file a e = .ok a')
    (hid : e.id ∈ [Id.chapterUid, Id.chapterTimeStart, Id.chapterTimeEnd, Id.chapterFlagHidden,
      Id.chapterFlagEnabled]) : ∃ n, uint file e = .ok n := by
  unfold readChild at h
  split at h
  case h_6 hdisplay => simp +decide [hdisplay] at hid
  case h_7 =>
    simp only [List.mem_cons, List.not_mem_nil, or_false] at hid
    exact absurd hid (by tauto)
  all_goals
    obtain ⟨n, hn, -⟩ := map_eq_ok.1 h
    exact ⟨n, hn⟩

theorem readChild_display (hid : e.id = Id.chapterDisplay) :
    readChild file a e =
      if a.title = none then (children file e).foldlM (readDisplay file) a else .ok a := by
  unfold readChild
  rw [hid]
  rfl

/-- What a display does to the title of an atom that has none. -/
theorem title_foldlM_readDisplay (h : (children file e).foldlM (readDisplay file) a = .ok a')
    (ha : a.title = none) :
    Option.Rel (HasText file) (childrenWith file Id.chapString e).head? a'.title := by
  rw [childrenWith, List.head?_filter, ← List.findSome?_guard]
  refine foldlM_first title ?_ ?_ (Children.foldlM_eq_ok.1 h).2 ha
  · intro s c s' hstep t ht
    simp only [readDisplay, ht, reduceCtorEq, and_false, if_false, Except.ok.injEq] at hstep
    rwa [← hstep]
  · intro s c s' hstep hs
    have htitle := (readDisplay_step hstep).title
    by_cases hid : c.id = Id.chapString
    · simp only [readDisplay, hid, hs, and_self, if_true] at hstep
      obtain ⟨t, ht, rfl⟩ := map_eq_ok.1 hstep
      rw [show Option.guard (·.id == Id.chapString) c = some c by simp [Option.guard, hid]]
      exact .some ht
    · simp [Option.guard, hid, htitle.eq_of_ne hid, hs]

theorem title_readChild_of_some (h : readChild file a e = .ok a') {t : String}
    (ha : a.title = some t) : a'.title = some t := by
  by_cases hid : e.id = Id.chapterDisplay
  · rw [readChild_display hid, ha, if_neg (by simp), Except.ok.injEq] at h
    rw [← h, ha]
  · rw [(readChild_step h).title.eq_of_ne hid, ha]

theorem title_readChild_of_none (h : readChild file a e = .ok a') (ha : a.title = none) :
    Option.Rel (HasText file)
      (if e.id == Id.chapterDisplay then childrenWith file Id.chapString e else []).head?
      a'.title := by
  by_cases hid : e.id = Id.chapterDisplay
  · rw [readChild_display hid, if_pos ha] at h
    simpa [hid] using title_foldlM_readDisplay h ha
  · simp [hid, (readChild_step h).title.eq_of_ne hid, ha]

theorem title_of_read (h : read file e = .ok a) :
    a.title = (stringOf? file e).bind fun s => (text file s).toOption := by
  have hnone : ({} : Atom).title = none := rfl
  have hrel := foldlM_first title (fun s c s' (h : readChild file s c = .ok s') _ ht =>
    title_readChild_of_some h ht) (fun _ _ _ h ht => title_readChild_of_none h ht)
    (Children.foldlM_eq_ok.1 h).2 hnone
  rw [← List.head?_flatMap, ← flatMap_filter, ← childrenWith, ← stringOf?] at hrel
  exact eq_bind_toOption_of_rel hrel

theorem eq_atomAt_of_read (h : read file e = .ok a) : a = atomAt file e := by
  have hread (id : Nat) (hid : id ∈ [Id.chapterUid, Id.chapterTimeStart, Id.chapterTimeEnd,
      Id.chapterFlagHidden, Id.chapterFlagEnabled]) (s : Atom) (c : Element) (s' : Atom)
      (hstep : readChild file s c = .ok s') (hc : c.id = id) : ∃ n, uint file c = .ok n :=
    exists_uint_of_readChild hstep (hc ▸ hid)
  have huid := field_eq_lastUint? uid (fun s c s' h =>
    ⟨(readChild_step h).uid, hread Id.chapterUid (by simp) s c s' h⟩) h
  have hstart := field_eq_lastUint? start (fun s c s' h =>
    ⟨(readChild_step h).start, hread Id.chapterTimeStart (by simp) s c s' h⟩) h
  have hstop := field_eq_lastUint? stop (fun s c s' h =>
    ⟨(readChild_step h).stop, hread Id.chapterTimeEnd (by simp) s c s' h⟩) h
  have hhidden := field_eq_lastUint? hidden (fun s c s' h =>
    ⟨(readChild_step h).hidden, hread Id.chapterFlagHidden (by simp) s c s' h⟩) h
  have henabled := field_eq_lastUint? enabled (fun s c s' h =>
    ⟨(readChild_step h).enabled, hread Id.chapterFlagEnabled (by simp) s c s' h⟩) h
  calc a = ⟨a.uid, a.start, a.stop, a.hidden, a.enabled, a.title⟩ := rfl
    _ = atomAt file e := by
      rw [huid, hstart, hstop, hhidden, henabled, title_of_read h, atomAt]
      cases lastUint? file Id.chapterTimeEnd e <;>
        cases lastUint? file Id.chapterFlagHidden e <;>
        cases lastUint? file Id.chapterFlagEnabled e <;> simp

end Atom

/-! ## Editions -/

/-- An edition together with what it says about being a default one. -/
def editionAt (file : Bytes) (e : Element) : Edition := ⟨e, decide (IsDefault file e)⟩

theorem eq_editionAt_of_read {e : Element} {edition : Edition}
    (h : Edition.read file e = .ok edition) : edition = editionAt file e := by
  obtain ⟨isDefault, hfold, rfl⟩ := map_eq_ok.1 h
  have hlast : isDefault = ((lastUint? file Id.editionFlagDefault e).map (· != 0)).getD false := by
    refine field_eq_lastUint? (fun isDefault : Bool => isDefault) (fun s c s' hstep => ?_) hfold
    unfold Edition.readFlag at hstep
    split at hstep
    · next hid =>
      obtain ⟨n, hn, rfl⟩ := map_eq_ok.1 hstep
      simp [feeds_iff, HasUint, hid, hn]
    · next hid =>
      cases hstep
      simp [feeds_iff, hid]
  cases hn : lastUint? file Id.editionFlagDefault e <;>
    simp [editionAt, IsDefault, hn] at hlast ⊢ <;> grind

theorem isChosen_of_choose? {es : List Element} {edition : Edition}
    (h : Edition.choose? (es.map (editionAt file)) = some edition) :
    IsChosen file es edition.element := by
  rw [Edition.choose?, List.find?_map, List.head?_map, Option.orElse_eq_orElse,
    Option.orElse_eq_or] at h
  cases hfind : es.find? (Edition.isDefault ∘ editionAt file) with
  | some e =>
    obtain ⟨hdefault, before, after, rfl, hbefore⟩ := List.find?_eq_some_iff_append.1 hfind
    rw [hfind, Option.map_some, Option.some_or, Option.some.injEq] at h
    subst h
    exact ⟨before, after, rfl, .inl ⟨by simpa [editionAt] using hdefault,
      by simpa [editionAt] using hbefore⟩⟩
  | none =>
    rw [hfind, Option.map_none, Option.none_or] at h
    obtain ⟨e, hhead, rfl⟩ := Option.map_eq_some_iff.1 h
    obtain ⟨after, rfl⟩ := List.head?_eq_some_iff.1 hhead
    exact ⟨[], after, rfl, .inr ⟨rfl, by simpa [editionAt] using hfind⟩⟩

theorem eq_nil_of_choose? {es : List Element}
    (h : Edition.choose? (es.map (editionAt file)) = none) : es = [] := by
  rw [Edition.choose?, Option.orElse_eq_orElse, Option.orElse_eq_or, Option.or_eq_none_iff] at h
  simpa using h.2

/-! ## The atoms that are kept -/

/-- An atom comes next if it has an id, is shown and enabled, and starts after all that were kept
before. -/
def Atom.IsNext (kept : List Atom) (a : Atom) : Prop :=
  a.uid ≠ 0 ∧ a.hidden = false ∧ a.enabled = true ∧ ∀ k ∈ kept, k.start < a.start

/-- The atoms that are kept of a list. -/
inductive Kept : List Atom → List Atom → Prop
  | nil : Kept [] []
  | keep {atoms kept : List Atom} {a : Atom} (before : Kept atoms kept) (next : a.IsNext kept) :
      Kept (atoms ++ [a]) (kept ++ [a])
  | leave {atoms kept : List Atom} {a : Atom} (before : Kept atoms kept)
      (not_next : ¬ a.IsNext kept) : Kept (atoms ++ [a]) kept

namespace Kept

variable {atoms kept : List Atom}

theorem pairwise (h : Kept atoms kept) : kept.Pairwise (·.start < ·.start) := by
  induction h with
  | nil => exact .nil
  | keep _ next ih =>
    rw [List.pairwise_append]
    exact ⟨ih, List.pairwise_singleton .., by simpa using next.2.2.2⟩
  | leave _ _ ih => exact ih

/-- It is enough to look at the atom that was kept last. -/
theorem isNext_iff (h : Kept atoms kept.reverse) (a : Atom) :
    a.IsNext kept.reverse ↔ (a.isUsable && kept.head?.all (·.start < a.start)) = true := by
  have hall : (∀ k ∈ kept, k.start < a.start) ↔ kept.head?.all (·.start < a.start) = true := by
    have hpairwise := h.pairwise
    rw [List.pairwise_reverse] at hpairwise
    cases kept with
    | nil => simp
    | cons k kept =>
      -- The head was kept last, so the others start before it.
      have hlast := (List.pairwise_cons.1 hpairwise).1
      simp only [List.forall_mem_cons, List.head?_cons, Option.all_some, decide_eq_true_eq]
      exact ⟨And.left, fun hk => ⟨hk, fun k' hk' => (hlast k' hk').trans hk⟩⟩
  simp [Atom.IsNext, Atom.isUsable, hall, and_assoc]

/-- What the recursion holds, latest first, is what is kept of the atoms it has passed. -/
theorem keepFrom (h : Kept atoms kept.reverse) (more : List Atom) :
    Kept (atoms ++ more) (Atom.keepFrom kept more) := by
  induction more generalizing atoms kept with
  | nil => simpa [Atom.keepFrom] using h
  | cons a more ih =>
    rw [Atom.keepFrom, List.append_cons]
    split
    · next hnext =>
      refine ih ?_
      rw [List.reverse_cons]
      exact h.keep ((h.isNext_iff a).2 hnext)
    · next hnot => exact ih (h.leave fun hnext => hnot ((h.isNext_iff a).1 hnext))

end Kept

theorem kept_keep (atoms : List Atom) : Kept atoms (Atom.keep atoms) := by
  have hnil : Kept [] ([] : List Atom).reverse := .nil
  exact hnil.keepFrom atoms

/-- What a chapter takes over from an atom, `tags` being those of the file. -/
structure IsChapterOf (file : Bytes) (tags : List Element) (a : Atom) (c : Chapter) : Prop where
  start : c.start = min (a.start : Int) maxInstant
  stop : c.stop = (a.stop.map Int.ofNat).filter (· ≤ maxInstant)
  timeBase : c.timeBase = ⟨1, 1000000000⟩
  metadata : c.metadata = (a.title.toList.filter (· ≠ "")).map (⟨"title", ·⟩) ++
    (tags.filter (NamesChapter file a.uid ·)).flatMap (entriesOf file)

theorem Atom.entries_eq (a : Atom) :
    a.entries = (a.title.toList.filter (· ≠ "")).map (⟨"title", ·⟩) := by
  unfold Atom.entries
  cases a.title with
  | none => rfl
  | some title => by_cases hempty : title = "" <;> simp [hempty]

theorem kept_of_readAtoms {body : Element} {atoms : List Atom}
    (h : Edition.readAtoms file body = .ok atoms) :
    (childrenWith file Id.editionEntry body = [] ∧ atoms = []) ∨
      ∃ edition, IsChosen file (childrenWith file Id.editionEntry body) edition ∧
        Kept ((childrenWith file Id.chapterAtom edition).map (atomAt file)) atoms := by
  obtain ⟨editions, heditions, h⟩ := bind_eq_ok.1 h
  obtain rfl : editions = (childrenWith file Id.editionEntry body).map (editionAt file) :=
    eq_map_of_forall₂ (Children.readAll_eq_ok.1 heditions).2 fun _ _ => eq_editionAt_of_read
  split at h
  · next hnone =>
    cases h
    exact .inl ⟨eq_nil_of_choose? hnone, rfl⟩
  · next edition hchosen =>
    obtain ⟨all, hall, h⟩ := bind_eq_ok.1 h
    cases h
    obtain rfl : all = (childrenWith file Id.chapterAtom edition.element).map (atomAt file) :=
      eq_map_of_forall₂ (Children.readAll_eq_ok.1 hall).2 fun _ _ => Atom.eq_atomAt_of_read
    exact .inr ⟨edition.element, isChosen_of_choose? hchosen, kept_keep _⟩

theorem isChapterOf_toChapter {sections : List Element} {tags : List TagElement}
    (h : List.Forall₂ (fun e t => TagElement.read file e = .ok t) (tagsIn file sections) tags)
    (a : Atom) :
    IsChapterOf file (tagsIn file sections) a
      (a.toChapter (tags.flatMap (TagElement.chapterEntries a.uid))) := by
  refine ⟨rfl, rfl, rfl, ?_⟩
  rw [flatMap_filter, flatMap_eq_of_forall₂ h fun _ _ ht => chapterEntries_eq ht a.uid,
    Atom.toChapter, Atom.entries_eq]
  simp

/-! ## The times of chapters -/

theorem times_toChapter (a : Atom) (extra : List Entry) :
    0 ≤ (a.toChapter extra).start ∧ (a.toChapter extra).start ≤ maxInstant ∧
      ∀ stop, (a.toChapter extra).stop = some stop → 0 ≤ stop ∧ stop ≤ maxInstant := by
  refine ⟨?_, min_le_right .., fun stop hstop => ?_⟩
  · simp only [Atom.toChapter, maxInstant]
    omega
  · obtain ⟨hmap, hle⟩ := Option.filter_eq_some_iff.1 hstop
    obtain ⟨n, -, rfl⟩ := Option.map_eq_some_iff.1 hmap
    exact ⟨Int.natCast_nonneg n, by simpa using hle⟩

theorem start_toChapter_lt {a b : Atom} (h : a.start < b.start) (extra more : List Entry) :
    (a.toChapter extra).start ≤ (b.toChapter more).start ∧
      ((a.toChapter extra).start < maxInstant →
        (a.toChapter extra).start < (b.toChapter more).start) := by
  simp only [Atom.toChapter]
  omega

end Reading

/-- The chapters of a file with a section for them are those of one edition, the first default one
or else the first: its atoms that have an id, are shown and enabled, and start after the ones kept
before, each with its first title. No time of theirs is negative, and each starts after the one
before, as far as times go. -/
theorem readInfo_chapters {file : Bytes} {len : Nat} {info : Info}
    (h : readInfo file len = .ok info) :
    ∃ segment sections, readSegment file len = .ok segment ∧
      readSections file segment = .ok sections ∧
      ∀ body, sections.find? (·.id == Id.chapters) = some body →
        let editions := childrenWith file Id.editionEntry body
        ((editions = [] ∧ info.chapters = []) ∨
          ∃ edition kept, IsChosen file editions edition ∧
            Kept ((childrenWith file Id.chapterAtom edition).map (atomAt file)) kept ∧
            List.Forall₂ (IsChapterOf file (tagsIn file sections)) kept info.chapters) ∧
        (∀ c ∈ info.chapters, 0 ≤ c.start ∧ c.start ≤ maxInstant ∧
          ∀ stop, c.stop = some stop → 0 ≤ stop ∧ stop ≤ maxInstant) ∧
        info.chapters.Pairwise fun a b =>
          a.start ≤ b.start ∧ (a.start < maxInstant → a.start < b.start) := by
  obtain ⟨segment, sections, -, tags, atoms, hsegment, hsections, htags, hatoms, -, hchapters,
    -⟩ := parts_of_readInfo h
  refine ⟨segment, sections, hsegment, hsections, ?_⟩
  intro body hbody editions
  simp only [readSection, hbody] at hatoms
  obtain ⟨kept, hkept, rfl⟩ := map_eq_ok.1 hatoms
  rw [Option.getD_some] at hchapters
  refine ⟨?_, ?_, ?_⟩
  · rcases kept_of_readAtoms hkept with ⟨hnone, rfl⟩ | ⟨edition, hchosen, hkeep⟩
    · exact .inl ⟨hnone, hchapters⟩
    · refine .inr ⟨edition, kept, hchosen, hkeep, ?_⟩
      rw [hchapters, List.forall₂_map_right_iff, List.forall₂_same]
      exact fun a _ => isChapterOf_toChapter (forall₂_tagsIn htags) a
  · rw [hchapters, List.forall_mem_map]
    exact fun a _ => times_toChapter a _
  · have hstarts : kept.Pairwise (·.start < ·.start) := by
      rcases kept_of_readAtoms hkept with ⟨-, rfl⟩ | ⟨_, -, hkeep⟩
      · exact .nil
      · exact hkeep.pairwise
    rw [hchapters, List.pairwise_map]
    exact hstarts.imp fun hlt => start_toChapter_lt hlt _ _

namespace TwoEditions

open LiveSet (element)

/-- An element with a size of two bytes. -/
def wide (id : Nat) (payload : List UInt8) : List UInt8 :=
  idBytes id ++ sizeBytes 2 payload.length ++ payload

def atom (uid start : Nat) (more : List UInt8) : List UInt8 :=
  element Id.chapterAtom (element Id.chapterUid (Bytes.ofNumber 1 uid) ++
    element Id.chapterTimeStart (Bytes.ofNumber 8 start) ++ more)

/-- The default edition has an empty display before the one with two titles, and atoms that are
repeated, hidden, backward, without an id, disabled, and beyond the last instant. -/
def defaultEdition : List UInt8 :=
  element Id.editionFlagDefault [1] ++
  atom 5 10 (element Id.chapterDisplay [] ++
    element Id.chapterDisplay (element Id.chapString [73] ++ element Id.chapString [74])) ++
  atom 6 10 [] ++
  atom 7 20 (element Id.chapterFlagHidden [1]) ++
  atom 8 15 (element Id.chapterTimeEnd [18]) ++
  atom 9 12 [] ++
  atom 0 30 [] ++
  atom 10 30 (element Id.chapterFlagEnabled [0]) ++
  atom 11 (2 ^ 63) (element Id.chapterTimeEnd (Bytes.ofNumber 8 (2 ^ 63))) ++
  atom 12 (2 ^ 64 - 1) []

def file : Bytes :=
  (element Id.ebml [] ++ wide Id.segment (wide Id.chapters
    (element Id.editionEntry (atom 1 3 []) ++ wide Id.editionEntry defaultEdition))).toArray

/-- The element with the editions. -/
def body : Element := ⟨Id.chapters, 17, file.size⟩

def info : Info where
  chapters := [⟨10, none, ⟨1, 1000000000⟩, [⟨"title", "I"⟩]⟩, ⟨15, some 18, ⟨1, 1000000000⟩, []⟩,
    ⟨maxInstant, none, ⟨1, 1000000000⟩, []⟩, ⟨maxInstant, none, ⟨1, 1000000000⟩, []⟩]

end TwoEditions

open TwoEditions in
theorem readInfo_chapters_twoEditions :
    readInfo file file.size = .ok info ∧
    (readSegment file file.size).bind (readSections file) = .ok [body] ∧
    ∃ edition kept, IsChosen file (childrenWith file Id.editionEntry body) edition ∧
      Kept ((childrenWith file Id.chapterAtom edition).map (atomAt file)) kept ∧
      List.Forall₂ (IsChapterOf file []) kept info.chapters := by
  have hread : readInfo file file.size = .ok info := by decide +kernel
  have hbody : (readSegment file file.size).bind (readSections file) = .ok [body] := by
    decide +kernel
  obtain ⟨segment, sections, hsegment, hsections, hall⟩ := readInfo_chapters hread
  obtain rfl : sections = [body] := by
    simpa [hsegment, Except.bind, hsections] using hbody
  obtain ⟨hchosen, -, -⟩ := hall body rfl
  exact ⟨hread, hbody, hchosen.resolve_left fun hnone => absurd hnone.2 (by decide)⟩

end MediaTags.Matroska
