import MediaTags.Proofs.Normalize.Override
import MediaTags.Proofs.Tag.Editing

/-!
# Reading the same entries twice

What is fed last is fed last again, and whoever was credited is credited already. A date that was
put together from its parts is no longer missing. So the same entries change nothing when they are
read into a tag once more, whatever was in it before.
-/

namespace MediaTags

theorem lastFed_lastFed {α β : Type} (feeds : α → Option β) (entries : List α) (start : β) :
    lastFed feeds entries (lastFed feeds entries start) = lastFed feeds entries start := by
  unfold lastFed
  cases (entries.filterMap feeds).getLast? <;> rfl

namespace Credit

/-- Everyone who would be credited with a role is credited with it. -/
def Credited (credits : List Credit) (role : String) (names : List String) : Prop :=
  ∀ r, Text.present? role = some r → ∀ n ∈ names.filterMap Text.present?, n ∈ namesOf r credits

theorem appendNew_eq_self {names more : List String} (h : ∀ n ∈ more, n ∈ names) :
    appendNew names more = names := by
  induction more with
  | nil => rfl
  | cons m more ih =>
    rw [List.forall_mem_cons] at h
    rw [appendNew, if_pos h.1, ih h.2]

theorem namesOf_merge (role : String) (names : List String) (credits : List Credit) :
    namesOf role (merge role names credits) = appendNew (namesOf role credits) names := by
  induction credits with
  | nil => simp [merge, namesOf]
  | cons c cs ih =>
    rw [merge]
    split
    · next hrole => rw [namesOf_cons, namesOf_cons, if_pos hrole, if_pos hrole]
    · next hrole => rw [namesOf_cons, namesOf_cons, if_neg hrole, if_neg hrole, ih]

/-- Somebody is credited with the role, so there is a credit to merge with. -/
theorem merge_eq_self {role : String} {names : List String} {credits : List Credit}
    (hne : names ≠ []) (h : ∀ n ∈ names, n ∈ namesOf role credits) :
    merge role names credits = credits := by
  induction credits with
  | nil =>
    obtain ⟨n, hn⟩ := List.exists_mem_of_ne_nil names hne
    exact absurd (h n hn) (by simp [namesOf])
  | cons c cs ih =>
    rw [merge]
    split
    · next hrole =>
      simp only [namesOf_cons, if_pos hrole] at h
      rw [appendNew_eq_self h]
    · next hrole =>
      simp only [namesOf_cons, if_neg hrole] at h
      rw [ih h]

theorem add_eq_self {credits : List Credit} {role : String} {names : List String}
    (h : Credited credits role names) : add role names credits = credits := by
  rw [add]
  split
  · next r n more hrole hnames =>
    refine merge_eq_self (by simp) ?_
    rw [← hnames]
    exact h r hrole
  · rfl

theorem credited_add (role : String) (names : List String) (credits : List Credit) :
    Credited (add role names credits) role names := by
  intro r hrole n hn
  obtain ⟨m, more, hnames⟩ := List.exists_cons_of_ne_nil (List.ne_nil_of_mem hn)
  rw [add, hrole, hnames]
  simp only [namesOf_merge]
  exact mem_appendNew.2 (.inr (hnames ▸ hn))

/-- Credits only grow, so nobody is lost. -/
theorem Credited.mono {old new : List Credit} {role : String} {names : List String}
    (h : Credited old role names) (hgrows : Grows old new) : Credited new role names :=
  fun r hrole n hn => (hgrows.names r).subset (h r hrole n hn)

theorem credited_addAll {pairs : List (String × List String)} (credits : List Credit) :
    ∀ p ∈ pairs, Credited (addAll pairs credits) p.1 p.2 := by
  induction pairs generalizing credits with
  | nil => simp
  | cons p pairs ih =>
    rw [List.forall_mem_cons]
    simp only [addAll_cons]
    exact ⟨(credited_add p.1 p.2 credits).mono (grows_addAll pairs _), ih _⟩

theorem addAll_eq_self {pairs : List (String × List String)} {credits : List Credit}
    (h : ∀ p ∈ pairs, Credited credits p.1 p.2) : addAll pairs credits = credits := by
  induction pairs with
  | nil => rfl
  | cons p pairs ih =>
    rw [List.forall_mem_cons] at h
    rw [addAll_cons, add_eq_self h.1, ih h.2]

theorem addAll_addAll (pairs : List (String × List String)) (credits : List Credit) :
    addAll pairs (addAll pairs credits) = addAll pairs credits :=
  addAll_eq_self (credited_addAll credits)

end Credit

attribute [ext] MusicBrainz Tag

namespace Tag

/-- A tag is what its fields hold. -/
theorem ext_fields {t u : Tag} (text : ∀ f, t.text f = u.text f) (list : ∀ f, t.list f = u.list f)
    (number : ∀ f, t.number f = u.number f) (compilation : t.compilation = u.compilation)
    (credits : t.credits = u.credits) (facts : t.SameFacts u) : t = u := by
  have ids : t.musicBrainz = u.musicBrainz :=
    MusicBrainz.ext (list .musicBrainzArtistIds) (text .musicBrainzAlbumId)
      (list .musicBrainzAlbumArtistIds) (text .musicBrainzReleaseGroupId) (text .musicBrainzTrackId)
      (text .musicBrainzReleaseType) (text .musicBrainzReleaseStatus)
  exact Tag.ext (text .title) (text .album) (text .artist) (text .albumArtist) (text .artistSort)
    (text .albumArtistSort) (text .composerSort) (list .artistHints) (list .albumArtistHints)
    (list .genres) (text .mood) (text .comment) (text .recordLabel) (text .discSubtitle)
    (text .releaseDate) (text .originalDate) ids (number .track) (number .disc) (number .bpm)
    facts.duration facts.bitRate facts.sampleRate facts.bitsPerSample facts.channels facts.codec
    credits compilation facts.loaded facts.art

section Updates

variable (t : Tag) (us : List Update)

theorem credits_applyAll :
    (t.applyAll us).credits = Credit.addAll (us.filterMap Update.credits?).flatten t.credits := by
  rw [← credits_foldl_apply, applyAll, fillDate_eq]

theorem sameFacts_applyAll : (t.applyAll us).SameFacts t := by
  rw [applyAll, fillDate_eq]
  exact .trans (by constructor <;> rfl) (sameFacts_foldl_apply t us)

/-- A date that is not missing any more stays as it is. -/
theorem releaseDate_applyAll_applyAll :
    ((t.applyAll us).applyAll us).releaseDate = (t.applyAll us).releaseDate := by
  rw [releaseDate_applyAll, releaseDate_applyAll]
  set date := lastFed (Update.text? .releaseDate) us t.releaseDate with hdate
  by_cases h : date = ""
  · rw [if_pos h]
    unfold lastFed at hdate ⊢
    cases hlast : (us.filterMap (Update.text? .releaseDate)).getLast? with
    | none => simp
    | some whole =>
      have hwhole : whole = "" := by rw [← h, hdate, hlast, Option.getD_some]
      rw [Option.getD_some, if_pos hwhole]
  · rw [if_neg h, hdate, lastFed_lastFed, ← hdate, if_neg h]

theorem applyAll_applyAll : (t.applyAll us).applyAll us = t.applyAll us := by
  refine ext_fields (fun f => ?_) (fun f => ?_) (fun f => ?_) ?_ ?_ (sameFacts_applyAll _ us)
  · by_cases hf : f = .releaseDate
    · subst hf
      exact releaseDate_applyAll_applyAll t us
    · rw [text_applyAll _ _ hf, text_applyAll _ _ hf, lastFed_lastFed]
  · rw [list_applyAll, list_applyAll, lastFed_lastFed]
  · rw [number_applyAll, number_applyAll, lastFed_lastFed]
  · rw [compilation_applyAll, compilation_applyAll, lastFed_lastFed]
  · rw [credits_applyAll, credits_applyAll, Credit.addAll_addAll]

end Updates

/-- Entries that were read into a tag change nothing in it when they are read again. -/
theorem normalize_normalize (t : Tag) (s : Separators) (scope : Scope) (entries : List Entry) :
    (t.normalize s scope entries).normalize s scope entries = t.normalize s scope entries :=
  applyAll_applyAll t (s.updates scope entries)

end Tag

end MediaTags
