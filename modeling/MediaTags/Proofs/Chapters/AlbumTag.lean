import MediaTags.Chapters
import MediaTags.Proofs.Lists
import MediaTags.Proofs.Normalize.Twice

/-!
# What a book says about itself

In a book the description stands for the comment, and the title for a missing album. Descriptions
and comments are fed to one field, in which whichever comes last stays, and the last description is
then looked up on its own. So it does not matter how the entries of a book lie between each other,
as long as those that are about the same thing keep their order. Outside of books a description
says nothing.
-/

namespace MediaTags

/-! ## The texts of a container -/

namespace Vocabulary

/-- No key has two rows for a container. -/
theorem lookup_container_of_row {row : Row} (h : row ∈ table) (hscope : .container ∈ row.scopes) :
    lookup row.key .container = some row.meaning := by
  have hrows : ∀ row ∈ table, .container ∈ row.scopes →
      lookup row.key .container = some row.meaning := by decide +kernel
  exact hrows row h hscope

/-- The keys of a text field in a container. -/
def containerKeys (f : TextField) : List String :=
  (table.filter fun row => row.meaning = .text f ∧ .container ∈ row.scopes).map Row.key

theorem containerKeys_comment : containerKeys .comment = ["COMMENT", "COMM", "DESCRIPTION"] := by
  decide

theorem containerKeys_album : containerKeys .album = ["ALBUM", "TALB"] := by decide

theorem containerKeys_title : containerKeys .title = ["TITLE", "TIT2"] := by decide

theorem lookup_container_eq_text_iff {key : String} {f : TextField} :
    lookup key .container = some (.text f) ↔ key ∈ containerKeys f := by
  simp only [containerKeys, List.mem_map, List.mem_filter, decide_eq_true_eq]
  constructor
  · intro h
    obtain ⟨row, hrow, rfl, hscope, hm⟩ := exists_row_of_lookup h
    exact ⟨row, ⟨hrow, hm, hscope⟩, rfl⟩
  · rintro ⟨row, ⟨hrow, hm, hscope⟩, rfl⟩
    rw [lookup_container_of_row hrow hscope, hm]

/-- In a container no text is cut and joined again. -/
theorem lookup_container_ne_joined (key : String) (f : TextField) :
    lookup key .container ≠ some (.joined f) := by
  intro h
  obtain ⟨row, hrow, -, hscope, hm⟩ := exists_row_of_lookup h
  have hrows : ∀ row ∈ table, .container ∈ row.scopes →
      (match row.meaning with | .joined _ => true | _ => false) = false := by decide +kernel
  have hrow := hrows row hrow hscope
  rw [hm] at hrow
  cases hrow

/-- A description is a comment in files, and nothing elsewhere. -/
theorem lookup_description (scope : Scope) :
    lookup "DESCRIPTION" scope = if scope.isFile then some (.text .comment) else none := by
  cases scope <;> decide

end Vocabulary

/-- The value of an entry with one of these keys, trimmed, unless it is blank. -/
def valueUnder? (keys : List String) (e : Entry) : Option String :=
  if Vocabulary.canonicalKey e.key ∈ keys then Text.present? e.value else none

/-- The last value under these keys that is not blank. -/
def lastValue? (keys : List String) (entries : List Entry) : Option String :=
  (entries.filterMap (valueUnder? keys)).getLast?

theorem mem_of_isSome_valueUnder? {keys : List String} {e : Entry}
    (h : (valueUnder? keys e).isSome) : Vocabulary.canonicalKey e.key ∈ keys := by
  by_contra hkey
  simp [valueUnder?, hkey] at h

theorem ne_empty_of_lastValue? {keys : List String} {entries : List Entry} {value : String}
    (h : lastValue? keys entries = some value) : value ≠ "" := by
  obtain ⟨e, -, he⟩ := List.mem_filterMap.1 (List.mem_of_getLast? h)
  exact (Text.present?_eq_some_iff.1 (Option.ite_none_right_eq_some.1 he).2).2

theorem Separators.textFed?_container (s : Separators) (f : TextField) (e : Entry) :
    s.textFed? .container f e = valueUnder? (Vocabulary.containerKeys f) e := by
  rw [valueUnder?]
  split
  · next hkey =>
    have hm : meaning? .container e = some (.text f) :=
      Vocabulary.lookup_container_eq_text_iff.2 hkey
    simp [textFed?, hm]
  · next hkey =>
    have htext : meaning? .container e ≠ some (.text f) :=
      mt Vocabulary.lookup_container_eq_text_iff.1 hkey
    have hjoined : meaning? .container e ≠ some (.joined f) :=
      Vocabulary.lookup_container_ne_joined _ f
    rw [textFed?]
    split
    · next g hm => rw [if_neg (by rintro rfl; exact htext hm)]
    · next g hm => rw [if_neg (by rintro rfl; exact hjoined hm)]
    · rfl

/-- A text of a container is the last one under its keys. -/
theorem Tag.text_normalize_container (s : Separators) {f : TextField} (hf : f ≠ .releaseDate)
    (entries : List Entry) :
    (empty.normalize s .container entries).text f =
      (lastValue? (Vocabulary.containerKeys f) entries).getD "" := by
  have hempty : empty.text f = "" := by cases f <;> rfl
  rw [normalize, text_applyAll _ _ hf, s.lastFed_updates .container (s.textFed?_eq .container f),
    lastFed, funext (s.textFed?_container f), hempty, lastValue?]

/-! ## What entries are about -/

/-- A description, or the field that is fed. -/
inductive Topic where
  | description
  | text (field : TextField)
  | list (field : ListField)
  | number (field : NumberField)
  | compilation
  | credits
  deriving DecidableEq, Repr

/-- The field that is fed. The parts of a date are fed to the release date. -/
def Meaning.topic? : Meaning → Option Topic
  | text f => some (.text f)
  | joined f => some (.text f)
  | list f => some (.list f)
  | number f => some (.number f)
  | flag => some .compilation
  | role _ => some .credits
  | roleList => some .credits
  | partialDate _ => some (.text .releaseDate)
  | ignored => none

/-- What an entry is about in a scope. -/
def topic? (scope : Scope) (e : Entry) : Option Topic :=
  if Vocabulary.canonicalKey e.key = "DESCRIPTION" then some .description
  else (Separators.meaning? scope e).bind Meaning.topic?

/-- The entries about each topic are the same and in the same order. Those about different topics
may lie between each other in any way. -/
def SameTopics (scope : Scope) (xs ys : List Entry) : Prop :=
  ∀ topic, xs.filter (topic? scope · = some topic) = ys.filter (topic? scope · = some topic)

namespace Update

def topic : Update → Topic
  | text f _ => .text f
  | list f _ => .list f
  | number f _ => .number f
  | compilation _ => .compilation
  | credits _ => .credits
  | year _ => .text .releaseDate
  | dayMonth _ _ => .text .releaseDate

/-! What a field takes from an update is about that field. -/

variable {u : Update}

theorem topic_of_text? {f : TextField} (h : (u.text? f).isSome) : u.topic = .text f := by
  cases u with
  | text g value =>
    by_cases hg : g = f
    · rw [topic, hg]
    · simp [text?, hg] at h
  | _ => cases h

theorem topic_of_list? {f : ListField} (h : (u.list? f).isSome) : u.topic = .list f := by
  cases u with
  | list g values =>
    by_cases hg : g = f
    · rw [topic, hg]
    · simp [list?, hg] at h
  | _ => cases h

theorem topic_of_number? {f : NumberField} (h : (u.number? f).isSome) : u.topic = .number f := by
  cases u with
  | number g n =>
    by_cases hg : g = f
    · rw [topic, hg]
    · simp [number?, hg] at h
  | _ => cases h

theorem topic_of_flag? (h : u.flag?.isSome) : u.topic = .compilation := by
  cases u with
  | compilation b => rfl
  | _ => cases h

theorem topic_of_credits? (h : u.credits?.isSome) : u.topic = .credits := by
  cases u with
  | credits pairs => rfl
  | _ => cases h

theorem topic_of_year? (h : u.year?.isSome) : u.topic = .text .releaseDate := by
  cases u with
  | year y => rfl
  | _ => cases h

theorem topic_of_dayMonth? (h : u.dayMonth?.isSome) : u.topic = .text .releaseDate := by
  cases u with
  | dayMonth d m => rfl
  | _ => cases h

end Update

namespace Separators

variable {s : Separators} {scope : Scope}

theorem topic?_of_use? {value : String} {m : Meaning} {u : Update}
    (h : s.use? scope value m = some u) : m.topic? = some u.topic := by
  cases m with
  | partialDate part =>
    cases part
    all_goals
      rw [use?, Option.map_eq_some_iff] at h
      obtain ⟨_, -, rfl⟩ := h
      rfl
  | role | roleList =>
    cases h
    rfl
  | ignored => cases h
  | text | joined | list | number | flag =>
    rw [use?, Option.map_eq_some_iff] at h
    obtain ⟨_, -, rfl⟩ := h
    rfl

/-- An update is about what its entry is about, descriptions aside. -/
theorem topic?_of_update? {e : Entry} {u : Update} (h : s.update? scope e = some u)
    (hcomment : u.topic ≠ .text .comment ∨ ¬ scope.isFile) : topic? scope e = some u.topic := by
  obtain ⟨m, hm, huse⟩ := Option.bind_eq_some_iff.1 h
  have htopic := topic?_of_use? huse
  rw [topic?]
  split
  · next hkey =>
    rw [meaning?, hkey, Vocabulary.lookup_description] at hm
    split at hm
    · next hfile =>
      cases hm
      exact absurd (Option.some.inj htopic).symm (hcomment.resolve_right (not_not.2 hfile))
    · cases hm
  · rw [hm, Option.bind_some, htopic]

end Separators

theorem SameTopics.filterMap_updates {s : Separators} {scope : Scope} {xs ys : List Entry}
    {β : Type} {view : Update → Option β} {topic : Topic} (h : SameTopics scope xs ys)
    (hview : ∀ u, (view u).isSome → u.topic = topic)
    (hcomment : topic ≠ .text .comment ∨ ¬ scope.isFile) :
    (s.updates scope xs).filterMap view = (s.updates scope ys).filterMap view := by
  rw [s.filterMap_updates scope fun _ => rfl, s.filterMap_updates scope fun _ => rfl]
  refine filterMap_congr_of_filter (fun e he => ?_) (h topic)
  obtain ⟨v, hv⟩ := Option.isSome_iff_exists.1 he
  obtain ⟨u, hu, hv⟩ := Option.bind_eq_some_iff.1 hv
  obtain rfl := hview u (by simp [hv])
  simpa using Separators.topic?_of_update? hu hcomment

namespace Tag

/-- Two tags are the same, except for texts that are left open. -/
structure AgreesOn (p : TextField → Prop) (t u : Tag) : Prop where
  text : ∀ f, p f → t.text f = u.text f
  list : ∀ f, t.list f = u.list f
  number : ∀ f, t.number f = u.number f
  compilation : t.compilation = u.compilation
  credits : t.credits = u.credits
  facts : t.SameFacts u

/-- A field sees the entries about it and no others. Only the comment of a file has entries about
two topics. -/
theorem normalize_agreesOn {scope : Scope} {xs ys : List Entry} (t : Tag) (s : Separators)
    (h : SameTopics scope xs ys) :
    (t.normalize s scope xs).AgreesOn (fun f => f ≠ .comment ∨ ¬ scope.isFile)
      (t.normalize s scope ys) where
  text f hf := by
    have hopen : Topic.text f ≠ .text .comment ∨ ¬ scope.isFile := by simpa using hf
    have hfed (start : String) : lastFed (Update.text? f) (s.updates scope xs) start =
        lastFed (Update.text? f) (s.updates scope ys) start := by
      rw [lastFed, h.filterMap_updates (fun _ => Update.topic_of_text?) hopen, lastFed]
    by_cases hdate : f = .releaseDate
    · -- a date that is put together from its parts sees the entries with these parts as well
      subst hdate
      have hsplit : Update.splitDate? (s.updates scope xs) =
          Update.splitDate? (s.updates scope ys) := by
        rw [Update.splitDate?, h.filterMap_updates (fun _ => Update.topic_of_year?) hopen,
          h.filterMap_updates (fun _ => Update.topic_of_dayMonth?) hopen, Update.splitDate?]
      have hxs := releaseDate_applyAll t (s.updates scope xs)
      have hys := releaseDate_applyAll t (s.updates scope ys)
      rw [hsplit, hfed] at hxs
      exact hxs.trans hys.symm
    · rw [normalize, normalize, text_applyAll _ _ hdate, hfed, text_applyAll _ _ hdate]
  list f := by
    rw [normalize, normalize, list_applyAll, list_applyAll, lastFed, lastFed,
      h.filterMap_updates (fun _ => Update.topic_of_list?) (.inl (by simp))]
  number f := by
    rw [normalize, normalize, number_applyAll, number_applyAll, lastFed, lastFed,
      h.filterMap_updates (fun _ => Update.topic_of_number?) (.inl (by simp))]
  compilation := by
    rw [normalize, normalize, compilation_applyAll, compilation_applyAll, lastFed, lastFed,
      h.filterMap_updates (fun _ => Update.topic_of_flag?) (.inl (by simp))]
  credits := by
    rw [normalize, normalize, credits_applyAll, credits_applyAll,
      h.filterMap_updates (fun _ => Update.topic_of_credits?) (.inl (by simp))]
  facts := (sameFacts_applyAll t _).trans (sameFacts_applyAll t _).symm

end Tag

/-! ## The tag of an album -/

section Values

variable {xs ys : List Entry}

/-- Where nothing is described, the comments are left. -/
theorem lastValue?_comment (h : lastValue? ["DESCRIPTION"] xs = none) :
    lastValue? (Vocabulary.containerKeys .comment) xs = lastValue? ["COMMENT", "COMM"] xs := by
  rw [lastValue?, List.getLast?_eq_none_iff, List.filterMap_eq_nil_iff] at h
  rw [lastValue?, lastValue?, Vocabulary.containerKeys_comment]
  congr 1
  refine List.filterMap_congr fun e he => ?_
  by_cases hkey : Vocabulary.canonicalKey e.key = "DESCRIPTION"
  · have hblank : Text.present? e.value = none := by simpa [valueUnder?, hkey] using h e he
    simp [valueUnder?, hblank]
  · simp [valueUnder?, hkey]

/-- The last value under some keys does not depend on what else there is. -/
theorem SameTopics.lastValue?_eq {scope : Scope} {keys : List String} {topic : Topic}
    (h : SameTopics scope xs ys)
    (hkeys : ∀ e, Vocabulary.canonicalKey e.key ∈ keys → topic? scope e = some topic) :
    lastValue? keys xs = lastValue? keys ys := by
  have hvalues : xs.filterMap (valueUnder? keys) = ys.filterMap (valueUnder? keys) :=
    filterMap_congr_of_filter (fun e he => by simpa using hkeys e (mem_of_isSome_valueUnder? he))
      (h topic)
  rw [lastValue?, hvalues, lastValue?]

theorem topic?_comment {e : Entry} (h : Vocabulary.canonicalKey e.key ∈ ["COMMENT", "COMM"]) :
    topic? .container e = some (.text .comment) := by
  have hkeys : ∀ key ∈ ["COMMENT", "COMM"],
      key ≠ "DESCRIPTION" ∧ key ∈ Vocabulary.containerKeys .comment := by decide
  obtain ⟨hne, hcomment⟩ := hkeys _ h
  rw [topic?, if_neg hne, Separators.meaning?, Vocabulary.lookup_container_eq_text_iff.2 hcomment]
  rfl

/-- Where a description says nothing, it makes no update. -/
theorem Separators.updates_congr_of_filter {s : Separators} {scope : Scope}
    (hscope : ¬ scope.isFile)
    (h : xs.filter (Vocabulary.canonicalKey ·.key ≠ "DESCRIPTION") =
      ys.filter (Vocabulary.canonicalKey ·.key ≠ "DESCRIPTION")) :
    s.updates scope xs = s.updates scope ys := by
  rw [s.updates_eq, s.updates_eq]
  refine filterMap_congr_of_filter (fun e he => ?_) h
  rw [decide_eq_true_eq]
  intro hkey
  rw [update?, meaning?, hkey, Vocabulary.lookup_description, if_neg hscope] at he
  cases he

end Values

namespace ChapterContext

theorem description?_eq (entries : List Entry) :
    description? entries = lastValue? ["DESCRIPTION"] entries := by
  have hvalue : valueUnder? ["DESCRIPTION"] = fun e =>
      if Vocabulary.canonicalKey e.key = "DESCRIPTION" then Text.present? e.value else none := by
    funext e
    simp only [valueUnder?, List.mem_singleton]
  rw [lastValue?, hvalue, description?]

theorem asBook_eq (entries : List Entry) (t : Tag) :
    asBook entries t =
      { t with
        album := if t.album = "" then t.title else t.album
        comment := (description? entries).getD t.comment } := by
  simp only [asBook, String.isEmpty_iff]
  cases description? entries <;> by_cases halbum : t.album = "" <;> simp [halbum]

/-- Tags that differ in their comments only make the same book with the same description. -/
theorem asBook_congr {xs ys : List Entry} {t u : Tag} (h : t.AgreesOn (· ≠ .comment) u)
    (hcomment : (description? xs).getD t.comment = (description? ys).getD u.comment) :
    asBook xs t = asBook ys u := by
  have htitle : t.title = u.title := h.text .title nofun
  have halbum : t.album = u.album := h.text .album nofun
  rw [asBook_eq, asBook_eq, hcomment, htitle, halbum]
  refine Tag.ext_fields (fun f => ?_) (fun f => ?_) (fun f => ?_) h.compilation h.credits ?_
  · have htext := h.text f
    cases f <;> first | rfl | exact htext nofun
  · have hlist := h.list f
    cases f <;> exact hlist
  · have hnumber := h.number f
    cases f <;> exact hnumber
  · cases h.facts
    constructor <;> assumption

variable (ctx : ChapterContext)

/-- The tag of an album as far as the entries of its container decide it. -/
def described (entries : List Entry) : Tag :=
  let t := Tag.empty.normalize ctx.separators ctx.albumScope entries
  if Resource.isAudiobook ctx.resource then asBook entries t else t

/-- The facts about the first audio stream and the picture, put into a tag. -/
def withFacts (c : Container) (t : Tag) : Tag :=
  let t := match c.firstAudio? with
    | some stream => t.applyFacts stream.facts
    | none => t
  { t with art := c.art }

theorem albumTag_eq (c : Container) : ctx.albumTag c = withFacts c (ctx.described c.metadata) := rfl

theorem text_withFacts (c : Container) (t : Tag) (f : TextField) :
    (withFacts c t).text f = t.text f := by
  rw [withFacts]
  cases c.firstAudio? <;> cases f <;> rfl

theorem albumTag_congr {c : Container} {metadata : List Entry}
    (h : ctx.described metadata = ctx.described c.metadata) :
    ctx.albumTag { c with metadata } = ctx.albumTag c := by
  rw [albumTag_eq, albumTag_eq, h]
  rfl

section Book

variable {ctx} (hbook : Resource.isAudiobook ctx.resource)

include hbook

theorem described_of_book (entries : List Entry) :
    ctx.described entries =
      asBook entries (Tag.empty.normalize ctx.separators .container entries) := by
  rw [described, albumScope, if_pos hbook, if_pos hbook]

theorem text_of_book (entries : List Entry) :
    (ctx.described entries).title = (lastValue? ["TITLE", "TIT2"] entries).getD "" ∧
    (ctx.described entries).album =
      (lastValue? ["ALBUM", "TALB"] entries).getD (ctx.described entries).title ∧
    (ctx.described entries).comment =
      ((lastValue? ["DESCRIPTION"] entries).or
        (lastValue? ["COMMENT", "COMM"] entries)).getD "" := by
  rw [described_of_book hbook, asBook_eq, description?_eq]
  have htext (f : TextField) (hf : f ≠ .releaseDate) :=
    Tag.text_normalize_container ctx.separators hf entries
  have htitle := htext .title nofun
  have halbum := htext .album nofun
  have hcomment := htext .comment nofun
  rw [Vocabulary.containerKeys_title] at htitle
  rw [Vocabulary.containerKeys_album] at halbum
  set t := Tag.empty.normalize ctx.separators .container entries
  change t.title = _ at htitle
  change t.album = _ at halbum
  change t.comment = _ at hcomment
  refine ⟨htitle, ?_, ?_⟩
  · cases hvalue : lastValue? ["ALBUM", "TALB"] entries with
    | none =>
      rw [hvalue] at halbum
      exact if_pos halbum
    | some album =>
      rw [hvalue] at halbum
      have hne : t.album ≠ "" := by
        rw [halbum]
        exact ne_empty_of_lastValue? hvalue
      exact (if_neg hne).trans halbum
  · cases hdescription : lastValue? ["DESCRIPTION"] entries with
    | none => exact hcomment.trans (by rw [lastValue?_comment hdescription]; rfl)
    | some d => rfl

theorem described_of_sameTopics {xs ys : List Entry} (h : SameTopics .container xs ys) :
    ctx.described xs = ctx.described ys := by
  have hagrees := Tag.normalize_agreesOn Tag.empty ctx.separators h
  -- entries about two topics are fed to the comment, so before the description is put in it may
  -- differ, and it is compared as it is in the book
  have hcomment := (text_of_book hbook xs).2.2
  have hcomment' := (text_of_book hbook ys).2.2
  rw [h.lastValue?_eq fun e he => if_pos (by simpa using he),
    h.lastValue?_eq fun e he => topic?_comment he, ← hcomment'] at hcomment
  rw [described_of_book hbook, described_of_book hbook] at hcomment ⊢
  rw [asBook_eq, asBook_eq] at hcomment
  refine asBook_congr ⟨fun f hf => hagrees.text f (.inl hf), hagrees.list, hagrees.number,
    hagrees.compilation, hagrees.credits, hagrees.facts⟩ hcomment

end Book

theorem described_of_set {ctx : ChapterContext} (hset : Resource.isAudiobook ctx.resource = false)
    (entries : List Entry) :
    ctx.described entries = Tag.empty.normalize ctx.separators .album entries := by
  rw [described, albumScope, hset]
  rfl

/-- The tag of a book says what was described last, or else what was commented last, and it is
called by its last title where no album is named. In any container the entries about different
topics do not get in each other's way. Outside of books descriptions make no difference. -/
theorem albumTag_topics (ctx : ChapterContext) (c : Container) :
    (Resource.isAudiobook ctx.resource →
      (ctx.albumTag c).comment =
        ((lastValue? ["DESCRIPTION"] c.metadata).or
          (lastValue? ["COMMENT", "COMM"] c.metadata)).getD "" ∧
      (ctx.albumTag c).album =
        (lastValue? ["ALBUM", "TALB"] c.metadata).getD (ctx.albumTag c).title ∧
      (ctx.albumTag c).title = (lastValue? ["TITLE", "TIT2"] c.metadata).getD "") ∧
    (∀ metadata, SameTopics ctx.albumScope metadata c.metadata →
      ctx.albumTag { c with metadata } = ctx.albumTag c) ∧
    (¬ Resource.isAudiobook ctx.resource → ∀ metadata : List Entry,
      metadata.filter (Vocabulary.canonicalKey ·.key ≠ "DESCRIPTION") =
        c.metadata.filter (Vocabulary.canonicalKey ·.key ≠ "DESCRIPTION") →
      ctx.albumTag { c with metadata } = ctx.albumTag c) := by
  have htext (f : TextField) : (ctx.albumTag c).text f = (ctx.described c.metadata).text f :=
    text_withFacts c (ctx.described c.metadata) f
  refine ⟨fun hbook => ?_, fun metadata h => ctx.albumTag_congr ?_,
    fun hset metadata h => ctx.albumTag_congr ?_⟩
  · obtain ⟨htitle, halbum, hcomment⟩ := text_of_book hbook c.metadata
    have htitle' : (ctx.albumTag c).title = _ := htext .title
    have halbum' : (ctx.albumTag c).album = _ := htext .album
    have hcomment' : (ctx.albumTag c).comment = _ := htext .comment
    rw [htitle', halbum', hcomment']
    exact ⟨hcomment, halbum, htitle⟩
  · cases hbook : Resource.isAudiobook ctx.resource with
    | true =>
      rw [albumScope, if_pos hbook] at h
      exact described_of_sameTopics hbook h
    | false =>
      have hscope : ctx.albumScope = .album := by simp [albumScope, hbook]
      rw [hscope] at h
      have hagrees := Tag.normalize_agreesOn Tag.empty ctx.separators h
      rw [described_of_set hbook, described_of_set hbook]
      exact Tag.ext_fields (fun f => hagrees.text f (.inr (by decide))) hagrees.list
        hagrees.number hagrees.compilation hagrees.credits hagrees.facts
  · have hset' : Resource.isAudiobook ctx.resource = false := by simpa using hset
    rw [described_of_set hset', described_of_set hset', Tag.normalize, Tag.normalize,
      Separators.updates_congr_of_filter (by decide) h]

namespace Described

def context (resource : String) : ChapterContext := ⟨resource, .standard, .english, {}⟩

/-- A book without an album, whose last description is blank and comes before a comment. -/
def book : Container where
  metadata := [⟨"Description", " A long way "⟩, ⟨"DESCRIPTION", " "⟩, ⟨"TIT2", "Home"⟩,
    ⟨"COMMENT", "Ripped"⟩]

def reordered : List Entry :=
  [⟨"COMMENT", "Ripped"⟩, ⟨"TIT2", "Home"⟩, ⟨"Description", " A long way "⟩, ⟨"DESCRIPTION", " "⟩]

def undescribed : List Entry := [⟨"TIT2", "Home"⟩, ⟨"COMMENT", "Ripped"⟩]

theorem sameTopics : SameTopics .container reordered book.metadata := by
  have htopics : reordered.map (topic? .container) =
      [some (.text .comment), some (.text .title), some .description, some .description] := by
    decide +kernel
  simp only [reordered, List.map_cons, List.map_nil, List.cons.injEq, and_true] at htopics
  obtain ⟨hcomment, htitle, hdescription, hblank⟩ := htopics
  intro topic
  simp only [reordered, book, List.filter_cons, List.filter_nil, hcomment, htitle, hdescription,
    hblank, Option.some.injEq, decide_eq_true_eq]
  by_cases hd : topic = .description
  · simp [hd]
  · by_cases ht : topic = .text .title
    · simp [ht]
    · simp [Ne.symm hd, Ne.symm ht]

end Described

open Described in
theorem albumTag_topics_book :
    Resource.isAudiobook "book.M4B" ∧ ¬ Resource.isAudiobook "book.m4a" ∧
    ((context "book.M4B").albumTag book).comment = "A long way" ∧
    ((context "book.M4B").albumTag book).album = "Home" ∧
    (context "book.M4B").albumTag { book with metadata := reordered } =
      (context "book.M4B").albumTag book ∧
    (context "book.m4a").albumTag { book with metadata := undescribed } =
      (context "book.m4a").albumTag book := by
  have hbook : Resource.isAudiobook "book.M4B" := by decide
  have hset : ¬ Resource.isAudiobook "book.m4a" := by decide
  obtain ⟨htexts, hreordered, -⟩ := albumTag_topics (context "book.M4B") book
  obtain ⟨hcomment, halbum, htitle⟩ := htexts hbook
  obtain ⟨-, -, hdescriptions⟩ := albumTag_topics (context "book.m4a") book
  refine ⟨hbook, hset, ?_, ?_, hreordered reordered ?_, hdescriptions hset undescribed ?_⟩
  · rw [hcomment]
    decide +kernel
  · rw [halbum, htitle]
    decide +kernel
  · exact sameTopics
  · decide +kernel

end ChapterContext

end MediaTags
