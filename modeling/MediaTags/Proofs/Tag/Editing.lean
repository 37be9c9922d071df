import MediaTags.Proofs.Normalize.LastValue
import MediaTags.Proofs.Tag.Credits
import MediaTags.Proofs.Text.LeadingNumber

/-!
# Tags stay in order while they are edited

Whatever is done to an empty tag, its texts are trimmed and its credits in order, and it counts as
loaded only with a title. No edit takes anything back: a text that is there is only replaced by
another one, and credits only grow at their ends.
-/

namespace MediaTags

open Text (IsTrimmed isBlank_of_isDigit isTrimmed_of_present? isTrimmed_of_forall
  present?_eq_some_iff)

/-! ## Dates in parts -/

theorem not_blank_of_yearOf? {value y : String} (h : yearOf? value = some y) :
    y ≠ "" ∧ ∀ c ∈ y.toList, Text.isBlank c = false := by
  simp only [yearOf?, Option.ite_none_right_eq_some, Option.some.injEq, List.all_eq_true] at h
  obtain ⟨⟨hlen, hdigits⟩, rfl⟩ := h
  refine ⟨fun hempty => ?_, fun c hc => isBlank_of_isDigit (hdigits c (by simpa using hc))⟩
  rw [← String.ofList_nil, String.ofList_inj] at hempty
  rw [hempty] at hlen
  cases hlen

theorem not_blank_of_dayMonthOf? {value d m : String} (h : dayMonthOf? value = some (d, m)) :
    (∀ c ∈ d.toList, Text.isBlank c = false) ∧ ∀ c ∈ m.toList, Text.isBlank c = false := by
  simp only [dayMonthOf?, Option.ite_none_right_eq_some, Option.some.injEq, Prod.mk.injEq,
    List.all_eq_true] at h
  obtain ⟨⟨-, hdigits⟩, rfl, rfl⟩ := h
  constructor
  · intro c hc
    exact isBlank_of_isDigit (hdigits c (List.mem_of_mem_take (by simpa using hc)))
  · intro c hc
    exact isBlank_of_isDigit (hdigits c (List.mem_of_mem_drop (by simpa using hc)))

/-- A date that is put together from its parts is trimmed, and there is something to it. -/
theorem isName_of_dateFed? {scope : Scope} {entries : List Entry} {date : String}
    (h : Separators.dateFed? scope entries = some date) : Credit.IsName date := by
  obtain ⟨y, hy, rfl⟩ := Option.map_eq_some_iff.1 h
  obtain ⟨e, -, he⟩ := List.mem_filterMap.1 (List.mem_of_getLast? hy)
  simp only [Separators.yearFed?, Option.ite_none_right_eq_some] at he
  obtain ⟨hne, hyear⟩ := not_blank_of_yearOf? he.2
  split
  · next d m hdm =>
    obtain ⟨e', -, he'⟩ := List.mem_filterMap.1 (List.mem_of_getLast? hdm)
    simp only [Separators.dayMonthFed?, Option.ite_none_right_eq_some] at he'
    obtain ⟨hday, hmonth⟩ := not_blank_of_dayMonthOf? he'.2
    refine ⟨isTrimmed_of_forall ?_, by simp [hne]⟩
    have hdash : Text.isBlank '-' = false := by decide
    intro c hc
    simp only [String.toList_append, List.mem_append] at hc
    grind
  · exact ⟨isTrimmed_of_forall hyear, hne⟩

namespace Credit

theorem addAll_cons (p : String × List String) (pairs : List (String × List String))
    (credits : List Credit) : addAll (p :: pairs) credits = addAll pairs (add p.1 p.2 credits) := by
  rw [addAll, addAll, List.foldl_cons]

theorem Sound.addAll {credits : List Credit} (h : Sound credits)
    (pairs : List (String × List String)) : Sound (Credit.addAll pairs credits) := by
  induction pairs generalizing credits with
  | nil => exact h
  | cons p pairs ih =>
    rw [addAll_cons]
    exact ih (h.add p.1 p.2)

theorem grows_addAll (pairs : List (String × List String)) (credits : List Credit) :
    Grows credits (addAll pairs credits) := by
  induction pairs generalizing credits with
  | nil => exact .refl credits
  | cons p pairs ih =>
    rw [addAll_cons]
    exact (grows_add p.1 p.2 credits).trans (ih _)

end Credit

theorem Update.isName_of_text? {f : TextField} {u : Update} {s : String}
    (h : u.text? f = some s) : Credit.IsName s := by
  cases u with
  | text g value => exact Credit.isName_of_present? (Option.ite_none_right_eq_some.1 h).2
  | list | number | compilation | credits | year | dayMonth => cases h

namespace Tag

/-! ## What holds of a tag -/

/-- A tag whose texts and credits are in order, and which counts as loaded only with a title that
is not blank. -/
structure Tidy (t : Tag) : Prop where
  credits : Credit.Sound t.credits
  text : ∀ f, IsTrimmed (t.text f)
  codec : IsTrimmed t.codec
  loaded : t.loaded = true → ∃ c ∈ t.title.toList, Text.isBlank c = false

/-- A later tag has a text where the earlier one has, and its credits with more behind them. -/
structure Grows (old new : Tag) : Prop where
  credits : Credit.Grows old.credits new.credits
  text : ∀ f, old.text f ≠ "" → new.text f ≠ ""
  codec : old.codec ≠ "" → new.codec ≠ ""

theorem Grows.refl (t : Tag) : t.Grows t := ⟨.refl _, fun _ h => h, fun h => h⟩

theorem Grows.trans {t u v : Tag} (h : t.Grows u) (g : u.Grows v) : t.Grows v :=
  ⟨h.credits.trans g.credits, fun f hf => g.text f (h.text f hf), fun hc => g.codec (h.codec hc)⟩

theorem tidy_empty : empty.Tidy where
  credits := Credit.sound_nil
  text f := by cases f <;> exact isTrimmed_of_forall (by simp [Tag.text, empty])
  codec := isTrimmed_of_forall (by simp [empty])
  loaded h := by cases h

/-- A change that keeps a tag in order and takes nothing back. -/
structure Advances (t u : Tag) : Prop where
  tidy : t.Tidy → u.Tidy
  grows : t.Grows u

theorem Advances.refl (t : Tag) : t.Advances t := ⟨fun h => h, .refl t⟩

theorem Advances.trans {t u v : Tag} (h : t.Advances u) (g : u.Advances v) : t.Advances v :=
  ⟨fun ht => g.tidy (h.tidy ht), h.grows.trans g.grows⟩

/-- A title that is not empty stays one that is not blank. -/
theorem Grows.exists_not_blank {t u : Tag} (h : t.Grows u) (htitle : IsTrimmed u.title)
    (hne : t.title ≠ "") : ∃ c ∈ u.title.toList, Text.isBlank c = false :=
  htitle.exists_not_blank (h.text .title hne)

/-- A text is kept or replaced by one that is trimmed and not empty. -/
def Replaced (old new : String) : Prop := new = old ∨ Credit.IsName new

theorem Replaced.isTrimmed {old new : String} (h : Replaced old new) (hold : IsTrimmed old) :
    IsTrimmed new := by
  rcases h with rfl | hname
  · exact hold
  · exact hname.1

theorem Replaced.ne_empty {old new : String} (h : Replaced old new) (hold : old ≠ "") :
    new ≠ "" := by
  rcases h with rfl | hname
  · exact hold
  · exact hname.2

/-- A change advances a tag if it replaces texts, adds credits and leaves alone whether the tag
counts as loaded. -/
theorem advances_of_replaced {t u : Tag} (hgrows : Credit.Grows t.credits u.credits)
    (hsound : Credit.Sound t.credits → Credit.Sound u.credits)
    (htext : ∀ f, Replaced (t.text f) (u.text f)) (hcodec : Replaced t.codec u.codec)
    (hloaded : u.loaded = t.loaded) : t.Advances u := by
  have grows : t.Grows u := ⟨hgrows, fun f => (htext f).ne_empty, hcodec.ne_empty⟩
  refine ⟨fun ht => ?_, grows⟩
  have htrimmed (f : TextField) : IsTrimmed (u.text f) := (htext f).isTrimmed (ht.text f)
  refine ⟨hsound ht.credits, htrimmed, hcodec.isTrimmed ht.codec, fun hu => ?_⟩
  obtain ⟨c, hc, -⟩ := ht.loaded (hloaded ▸ hu)
  refine grows.exists_not_blank (htrimmed .title) fun hempty => ?_
  rw [hempty] at hc
  cases hc

/-! ## What each change does -/

theorem advances_apply (t : Tag) (u : Update) : t.Advances (t.apply u) := by
  have hfacts := sameFacts_apply t u
  refine advances_of_replaced ?_ ?_ (fun f => ?_) (.inl hfacts.codec) hfacts.loaded
  · rw [credits_apply]
    exact Credit.grows_addAll ..
  · rw [credits_apply]
    exact fun h => h.addAll _
  · rw [text_apply]
    cases hu : u.text? f with
    | none => exact .inl rfl
    | some s => exact .inr (Update.isName_of_text? hu)

theorem advances_foldl_apply (t : Tag) (us : List Update) : t.Advances (us.foldl apply t) := by
  induction us generalizing t with
  | nil => exact .refl t
  | cons u us ih => exact (advances_apply t u).trans (ih _)

theorem advances_fillDate {t : Tag} {date : Option String} (h : ∀ d ∈ date, Credit.IsName d) :
    t.Advances (t.fillDate date) := by
  cases date with
  | none => exact .refl t
  | some d =>
    rw [fillDate]
    split
    · refine advances_of_replaced (.refl _) (fun h => h) (fun f => ?_) (.inl rfl) rfl
      cases f
      case releaseDate => exact .inr (h d rfl)
      all_goals exact .inl rfl
    · exact .refl t

theorem advances_normalize (t : Tag) (s : Separators) (scope : Scope) (entries : List Entry) :
    t.Advances (t.normalize s scope entries) := by
  refine (advances_foldl_apply t _).trans (advances_fillDate fun d hd => ?_)
  rw [s.splitDate?_updates] at hd
  exact isName_of_dateFed? hd

/-- Setting a text is applying an update. -/
theorem advances_setText (t : Tag) (f : TextField) (value : String) :
    t.Advances (t.setText f value) := by
  simpa only [apply] using advances_apply t (.text f value)

theorem advances_credit (t : Tag) (role : String) (names : List String) :
    t.Advances (t.credit role names) := by
  simpa only [apply, List.foldl_cons, List.foldl_nil] using
    advances_apply t (.credits [(role, names)])

theorem text_applyFacts (t : Tag) (facts : CodecFacts) (f : TextField) :
    (t.applyFacts facts).text f = t.text f := by
  cases f <;> simp only [applyFacts, text]

theorem text_finish (t : Tag) (f : TextField) : t.finish.text f = t.text f := by
  cases f <;> simp only [finish, text]

theorem advances_applyFacts (t : Tag) (facts : CodecFacts) : t.Advances (t.applyFacts facts) := by
  have hcodec : Replaced t.codec (t.applyFacts facts).codec := by
    simp only [applyFacts]
    cases hname : Text.present? facts.codecName with
    | none => exact .inl rfl
    | some s => exact .inr (Credit.isName_of_present? hname)
  have hcredits : (t.applyFacts facts).credits = t.credits := by simp only [applyFacts]
  have hloaded : (t.applyFacts facts).loaded = t.loaded := by simp only [applyFacts]
  refine advances_of_replaced ?_ ?_ (fun f => .inl (text_applyFacts t facts f)) hcodec hloaded
  · rw [hcredits]
    exact .refl _
  · rw [hcredits]
    exact fun h => h

theorem advances_finish (t : Tag) : t.Advances t.finish := by
  have hcredits : t.finish.credits = t.credits := by simp only [finish]
  have hcodec : t.finish.codec = t.codec := by simp only [finish]
  have htitle : t.finish.title = t.title := by simp only [finish]
  have hloaded : t.finish.loaded = (Text.present? t.title).isSome := by simp only [finish]
  constructor
  · intro ht
    refine ⟨by rw [hcredits]; exact ht.credits, fun f => by rw [text_finish]; exact ht.text f,
      by rw [hcodec]; exact ht.codec, ?_⟩
    rw [hloaded, htitle]
    intro hpresent
    obtain ⟨title, hsome⟩ := Option.isSome_iff_exists.1 hpresent
    obtain ⟨rfl, hne⟩ := present?_eq_some_iff.1 hsome
    refine (ht.text .title).exists_not_blank fun hempty => hne ?_
    have hblank : t.title = "" := hempty
    rw [hblank]
    rfl
  · refine ⟨?_, fun f hf => ?_, fun hc => ?_⟩
    · rw [hcredits]
      exact .refl _
    · rwa [text_finish]
    · rwa [hcodec]

/-! ## Any number of changes -/

/-- What can be done to a tag. -/
inductive Edit where
  | title (value : String)
  | album (value : String)
  | artist (value : String)
  | albumArtist (value : String)
  | comment (value : String)
  | credit (role : String) (names : List String)
  | normalize (s : Separators) (scope : Scope) (entries : List Entry)
  | facts (facts : CodecFacts)
  | finish

def edit (t : Tag) : Edit → Tag
  | .title value => t.setTitle value
  | .album value => t.setAlbum value
  | .artist value => t.setArtist value
  | .albumArtist value => t.setAlbumArtist value
  | .comment value => t.setComment value
  | .credit role names => t.credit role names
  | .normalize s scope entries => t.normalize s scope entries
  | .facts facts => t.applyFacts facts
  | .finish => t.finish

def editAll (t : Tag) (edits : List Edit) : Tag := edits.foldl edit t

theorem advances_edit (t : Tag) (e : Edit) : t.Advances (t.edit e) := by
  cases e with
  | title value => exact advances_setText t .title value
  | album value => exact advances_setText t .album value
  | artist value => exact advances_setText t .artist value
  | albumArtist value => exact advances_setText t .albumArtist value
  | comment value => exact advances_setText t .comment value
  | credit role names => exact advances_credit t role names
  | normalize s scope entries => exact advances_normalize t s scope entries
  | facts facts => exact advances_applyFacts t facts
  | finish => exact advances_finish t

theorem advances_editAll (t : Tag) (edits : List Edit) : t.Advances (t.editAll edits) := by
  induction edits generalizing t with
  | nil => exact .refl t
  | cons e edits ih => exact (advances_edit t e).trans (ih _)

/-- However an empty tag was edited, it is in order; and whatever is done to it then, it keeps its
roles, the people in them and its texts, of which it may only have more or other ones. -/
theorem editAll_tidy_grows (edits more : List Edit) :
    (empty.editAll edits).Tidy ∧ (empty.editAll edits).Grows (empty.editAll (edits ++ more)) := by
  have happend : empty.editAll (edits ++ more) = (empty.editAll edits).editAll more := by
    simp only [editAll, List.foldl_append]
  rw [happend]
  exact ⟨(advances_editAll empty edits).tidy tidy_empty, (advances_editAll _ more).grows⟩

end Tag

end MediaTags
