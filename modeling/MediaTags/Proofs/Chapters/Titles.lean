import MediaTags.Proofs.Chapters.Ordered
import MediaTags.Proofs.Normalize.Override
import MediaTags.Proofs.Text.LeadingNumber
import MediaTags.Proofs.Text.Search

/-!
# Every item has a title

An item is called what its chapter is called last. A chapter without a name gets one with its number
in it, whatever the table of texts says, so that no two of them are called the same. The album's
title is never taken.
-/

namespace MediaTags

/-! ## Default titles -/

namespace Text

theorem toString_injective : Function.Injective (toString : Nat → String) := by
  intro m n h
  have hchars : Nat.toDigits 10 m = Nat.toDigits 10 n := by
    simpa [Nat.toString_eq_repr, Nat.toList_repr] using congrArg String.toList h
  rw [← Nat.ofDigitChars_ten_toDigits (n := m), hchars, Nat.ofDigitChars_ten_toDigits]

theorem exists_not_blank_toString (n : Nat) : ∃ c ∈ (toString n).toList, isBlank c = false := by
  rw [Nat.toString_eq_repr, Nat.toList_repr]
  obtain ⟨c, hc⟩ := List.exists_mem_of_ne_nil _ (Nat.toDigits_ne_nil (b := 10) (n := n))
  exact ⟨c, hc, isBlank_of_isDigit (Nat.isDigit_of_mem_toDigits (by decide) (by decide) hc)⟩

end Text

namespace StringTable

/-- The title that a template gives the chapter with a number. The number takes the first place that
the template holds for it, or it stands behind the template, from whose end the blanks are dropped.
A blank template is passed over for the English one. -/
inductive Titled (template : String) (number : Nat) : String → Prop where
  | filled {lead tail : String} (first : Text.FirstAt "\x7b\x7d" template lead tail) :
      Titled template number (lead ++ toString number ++ tail)
  | appended {body blanks : String} {last : Char}
      (without : ∀ before after, template ≠ before ++ "\x7b\x7d" ++ after)
      (split : template = body ++ blanks) (ends : body.toList.getLast? = some last)
      (seen : Text.isBlank last = false) (blank : Text.AllBlank blanks) :
      Titled template number (body ++ " " ++ toString number)
  | english (blank : Text.AllBlank template) :
      Titled template number ("Chapter " ++ toString number)

namespace Titled

variable {template title title' : String} {number : Nat}

/-- A template that ends with something other than a blank is not blank. -/
theorem not_allBlank_of_getLast? {body blanks : String} {last : Char}
    (hends : body.toList.getLast? = some last) (hseen : Text.isBlank last = false) :
    ¬ Text.AllBlank (body ++ blanks) := by
  intro hblank
  have hlast := (Text.allBlank_append.1 hblank).1 last (List.mem_of_getLast? hends)
  rw [hseen] at hlast
  cases hlast

theorem not_allBlank_of_firstAt {lead tail : String}
    (h : Text.FirstAt "\x7b\x7d" template lead tail) : ¬ Text.AllBlank template := by
  intro hblank
  rw [h.eq, Text.allBlank_append, Text.allBlank_append] at hblank
  exact absurd hblank.1.2 (by decide)

/-- A template says all of a title. -/
theorem unique (h : Titled template number title) (h' : Titled template number title') :
    title = title' := by
  cases h with
  | filled first =>
    cases h' with
    | filled first' =>
      obtain ⟨rfl, rfl⟩ := first.unique first'
      rfl
    | appended without => exact absurd first.eq (without _ _)
    | english blank => exact absurd blank (not_allBlank_of_firstAt first)
  | @appended body blanks last without split ends seen blank =>
    cases h' with
    | filled first' => exact absurd first'.eq (without _ _)
    | @appended body' blanks' last' _ split' ends' seen' blank' =>
      have htrim : Text.trimEndChars template.toList = body.toList := by
        rw [split, String.toList_append]
        exact Text.trimEndChars_append blank (by simp [ends, seen])
      have htrim' : Text.trimEndChars template.toList = body'.toList := by
        rw [split', String.toList_append]
        exact Text.trimEndChars_append blank' (by simp [ends', seen'])
      rw [String.toList_inj.1 (htrim.symm.trans htrim')]
    | english blank' => exact absurd (split ▸ blank') (not_allBlank_of_getLast? ends seen)
  | english blank =>
    cases h' with
    | filled first' => exact absurd blank (not_allBlank_of_firstAt first')
    | appended _ split' ends' seen' =>
      exact absurd (split' ▸ blank) (not_allBlank_of_getLast? ends' seen')
    | english => rfl

end Titled

variable (strings : StringTable)

theorem replaceFirst_english (image : String) :
    Text.replaceFirst placeholder image (english chapterTitleId) = "Chapter " ++ image := by
  have hchars : Text.replaceFirstChars placeholder.toList image.toList
      (english chapterTitleId).toList = "Chapter ".toList ++ (image.toList ++ []) := rfl
  rw [← String.toList_inj, String.toList_append, Text.replaceFirst, String.toList_ofList, hchars,
    List.append_nil]

/-- A default title is the chapter's number between two texts that do not depend on it, as the
template has it. -/
theorem exists_chapterTitle_eq :
    ∃ lead tail, ∀ number, strings.chapterTitle number = lead ++ toString number ++ tail ∧
      Titled (strings 25010) number (lead ++ toString number ++ tail) := by
  unfold chapterTitle
  by_cases hplace : Text.occursIn placeholder (strings chapterTitleId)
  · obtain ⟨lead, tail, hfirst, hreplace⟩ := Text.exists_replaceFirst_eq hplace
    exact ⟨lead, tail, fun number => ⟨(if_pos hplace).trans (hreplace _), .filled hfirst⟩⟩
  by_cases hblank : Text.AllBlank (strings chapterTitleId)
  · have hnone := Option.isNone_iff_eq_none.2 (Text.present?_eq_none_iff_allBlank.2 hblank)
    refine ⟨"Chapter ", "", fun number => ?_⟩
    rw [String.append_empty]
    exact ⟨(if_neg hplace).trans ((if_pos hnone).trans (replaceFirst_english _)), .english hblank⟩
  · have hsome : ¬ (Text.present? (strings chapterTitleId)).isNone := fun hnone =>
      hblank (Text.present?_eq_none_iff_allBlank.1 (Option.isNone_iff_eq_none.1 hnone))
    refine ⟨Text.trimEnd (strings chapterTitleId) ++ " ", "", fun number => ?_⟩
    rw [String.append_empty]
    refine ⟨(if_neg hplace).trans (if_neg hsome), ?_⟩
    obtain ⟨blanks, hsplit, hblanks⟩ := Text.exists_append_trimEnd (strings chapterTitleId)
    obtain ⟨last, hlast, hseen⟩ := Text.exists_getLast?_trimEnd hblank
    have hwithout := fun before after h => hplace (Text.occursIn_iff.2 ⟨before, after, h⟩)
    exact .appended hwithout hsplit hlast hseen hblanks

theorem titled_iff {number : Nat} {title : String} :
    Titled (strings 25010) number title ↔ title = strings.chapterTitle number := by
  obtain ⟨lead, tail, htitle⟩ := strings.exists_chapterTitle_eq
  obtain ⟨heq, htitled⟩ := htitle number
  rw [heq]
  exact ⟨fun h => h.unique htitled, fun h => h ▸ htitled⟩

theorem chapterTitle_injective : Function.Injective strings.chapterTitle := by
  obtain ⟨lead, tail, htitle⟩ := strings.exists_chapterTitle_eq
  intro m n h
  rw [(htitle m).1, (htitle n).1, String.append_left_inj, String.append_right_inj] at h
  exact Text.toString_injective h

theorem exists_not_blank_chapterTitle (number : Nat) :
    ∃ c ∈ (strings.chapterTitle number).toList, Text.isBlank c = false := by
  obtain ⟨lead, tail, htitle⟩ := strings.exists_chapterTitle_eq
  obtain ⟨c, hc, hblank⟩ := Text.exists_not_blank_toString number
  refine ⟨c, ?_, hblank⟩
  rw [(htitle number).1, String.toList_append, String.toList_append]
  exact List.mem_append_left _ (List.mem_append_right _ hc)

end StringTable

/-! ## Titles of their own -/

namespace Vocabulary

/-- A chapter's title has one key. -/
theorem lookup_eq_title_iff (key : String) :
    lookup key .chapter = some (.text .title) ↔ key = "TITLE" := by
  constructor
  · intro h
    obtain ⟨row, hrow, rfl, hscope, hm⟩ := exists_row_of_lookup h
    have hrows : ∀ row ∈ table, row.meaning = .text .title → .chapter ∈ row.scopes →
        row.key = "TITLE" := by decide
    exact hrows row hrow hm hscope
  · rintro rfl
    decide

/-- Titles are never cut and joined again. -/
theorem lookup_ne_joined_title (key : String) (scope : Scope) :
    lookup key scope ≠ some (.joined .title) := by
  intro h
  obtain ⟨row, hrow, -, -, hm⟩ := exists_row_of_lookup h
  have hrows : ∀ row ∈ table, row.meaning ≠ .joined .title := by decide
  exact hrows row hrow hm

end Vocabulary

/-- The last title among the entries of a chapter that is not blank, trimmed. -/
def Chapter.ownTitle? (chapter : Chapter) : Option String :=
  (chapter.metadata.filterMap fun e =>
    if Vocabulary.canonicalKey e.key = "TITLE" then Text.present? e.value else none).getLast?

theorem Chapter.present?_of_ownTitle? {chapter : Chapter} {title : String}
    (h : chapter.ownTitle? = some title) : Text.present? title = some title := by
  obtain ⟨e, -, he⟩ := List.mem_filterMap.1 (List.mem_of_getLast? h)
  exact Text.present?_of_present? (Option.ite_none_right_eq_some.1 he).2

theorem Separators.textFed?_title (s : Separators) (e : Entry) :
    s.textFed? .chapter .title e =
      if Vocabulary.canonicalKey e.key = "TITLE" then Text.present? e.value else none := by
  by_cases hkey : Vocabulary.canonicalKey e.key = "TITLE"
  · have hm : meaning? .chapter e = some (.text .title) :=
      (Vocabulary.lookup_eq_title_iff _).2 hkey
    simp only [textFed?, hm, hkey, if_true]
  · rw [textFed?, if_neg hkey]
    split
    · next g hm =>
      have hg : g ≠ .title := by
        rintro rfl
        exact hkey ((Vocabulary.lookup_eq_title_iff _).1 hm)
      exact if_neg hg
    · next g hm =>
      have hg : g ≠ .title := by
        rintro rfl
        exact Vocabulary.lookup_ne_joined_title _ _ hm
      exact if_neg hg
    · rfl

namespace ChapterContext

section Item

variable (ctx : ChapterContext) (c : Container) (album : Tag)

/-- What the entries of a chapter leave of the title of a tag that has none. -/
theorem title_normalize (chapter : Chapter) :
    ({ album with title := "" }.normalize ctx.separators .chapter chapter.metadata).title =
      chapter.ownTitle?.getD "" :=
  calc ({ album with title := "" }.normalize ctx.separators .chapter chapter.metadata).title
      = lastFed (Update.text? .title) (ctx.separators.updates .chapter chapter.metadata) "" :=
        Tag.text_applyAll _ _ (f := .title) (by decide)
    _ = lastFed (ctx.separators.textFed? .chapter .title) chapter.metadata "" :=
        Separators.lastFed_updates _ _ (Separators.textFed?_eq _ _ _) ..
    _ = chapter.ownTitle?.getD "" := by
        rw [lastFed, funext ctx.separators.textFed?_title]
        rfl

theorem title_itemTag (number : Nat) (chapter : Chapter) :
    (ctx.itemTag album number chapter).title =
      chapter.ownTitle?.getD (ctx.strings.chapterTitle number) := by
  have htitle := title_normalize ctx album chapter
  rw [itemTag]
  cases hown : chapter.ownTitle? with
  | none =>
    rw [hown, Option.getD_none] at htitle
    rw [htitle, if_pos (by rfl)]
    rfl
  | some title =>
    rw [hown, Option.getD_some] at htitle
    have hne : title ≠ "" := (Text.present?_eq_some_iff.1 (Chapter.present?_of_ownTitle? hown)).2
    rw [htitle, if_neg (by simpa using hne)]
    exact htitle

theorem exists_not_blank_title_itemTag (number : Nat) (chapter : Chapter) :
    ∃ c ∈ (ctx.itemTag album number chapter).title.toList, Text.isBlank c = false := by
  rw [title_itemTag]
  cases hown : chapter.ownTitle? with
  | none => exact ctx.strings.exists_not_blank_chapterTitle number
  | some title =>
    have hpresent := Chapter.present?_of_ownTitle? hown
    exact (Text.isTrimmed_of_present? hpresent).exists_not_blank
      (Text.present?_eq_some_iff.1 hpresent).2

theorem title_item (number : Nat) (chapter : Chapter) (next : Option Int) :
    (ctx.item c album number chapter next).tag.title =
      (ctx.itemTag album number chapter).title := by
  simp only [item, Tag.finish]

theorem loaded_item (number : Nat) (chapter : Chapter) (next : Option Int) :
    (ctx.item c album number chapter next).tag.loaded =
      (Text.present? (ctx.itemTag album number chapter).title).isSome := by
  simp only [item, Tag.finish]

end Item

/-- An item is called what its chapter is called last, or else what the template of the text table
makes of its number, whatever the album is called. There is something to every title, so every item
counts as loaded, and no two numbers give the same title. -/
theorem titles_synthesize (ctx : ChapterContext) (c : Container) (album : Tag) :
    let items := (ctx.synthesize c album).items
    items.map (·.tag.title) = c.playable.mapIdx (fun i chapter =>
      chapter.ownTitle?.getD (ctx.strings.chapterTitle (i + 1))) ∧
    (∀ number title, StringTable.Titled (ctx.strings 25010) number title ↔
      title = ctx.strings.chapterTitle number) ∧
    (∀ it ∈ items, it.tag.loaded = true ∧ ∃ c ∈ it.tag.title.toList, Text.isBlank c = false) ∧
    Function.Injective ctx.strings.chapterTitle := by
  intro items
  refine ⟨?_, fun number title => ctx.strings.titled_iff, ?_, ctx.strings.chapterTitle_injective⟩
  · apply List.ext_getElem?
    intro i
    rw [List.getElem?_map, getElem?_items, List.getElem?_mapIdx, Option.map_map]
    congr 1
    funext chapter
    exact (title_item ..).trans (title_itemTag ..)
  · intro it hit
    obtain ⟨number, chapter, -, next, -, rfl⟩ := mem_items hit
    obtain ⟨c, hc, hblank⟩ := exists_not_blank_title_itemTag ctx album number chapter
    rw [loaded_item, title_item]
    exact ⟨Text.isSome_present?_of_mem hc hblank, c, hc, hblank⟩

/-- The first chapter has a title and a blank one behind it, the second has the title of an album,
and the last starts before zero. -/
def untitled : Container where
  chapters := [⟨0, none, ⟨1, 1⟩, [⟨"TITLE", " Intro "⟩, ⟨"TITLE", " "⟩]⟩,
    ⟨60, none, ⟨1, 1⟩, [⟨"ALBUM", "Kind of Blue"⟩]⟩, ⟨-1, none, ⟨1, 1⟩, [⟨"TITLE", "Outro"⟩]⟩]

/-- Blanks, and two places for the number. -/
def doubled : StringTable := fun _ => " {} of {}"

theorem titles_synthesize_untitled :
    let items := (ChapterContext.synthesize ⟨"a.mka", .standard, doubled, {}⟩ untitled
      { title := "Album" }).items
    items.map (·.tag.title) = ["Intro", " 2 of {}"] ∧
    ∃ it ∈ items, it.tag.loaded = true := by
  intro items
  obtain ⟨htitles, -, hloaded, -⟩ := titles_synthesize ⟨"a.mka", .standard, doubled, {}⟩ untitled
    { title := "Album" }
  have heq : items.map (·.tag.title) = ["Intro", " 2 of \x7b\x7d"] :=
    htitles.trans (by decide +kernel)
  have hmem : "Intro" ∈ items.map (·.tag.title) := heq ▸ List.mem_cons_self
  obtain ⟨it, hit, -⟩ := List.mem_map.1 hmem
  exact ⟨heq, it, hit, (hloaded it hit).1⟩

end ChapterContext

end MediaTags
