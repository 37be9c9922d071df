import MediaTags.LoadedTag
import MediaTags.Proofs.Normalize.LastValue

/-!
# The entries of a container win over those of a stream

What is fed last stays, so a field that some entries fill holds the same value whatever was read
before them. A date in two parts is weaker: it fills in for a date that is missing, and gives way
to one that an earlier list of entries has.
-/

namespace MediaTags

/-- Where something was fed, it does not matter what there was before. -/
theorem lastFed_of_ne {α β : Type} {feeds : α → Option β} {entries : List α} {start unset : β}
    (hstart : start = unset) (h : lastFed feeds entries start ≠ unset) (other : β) :
    lastFed feeds entries other = lastFed feeds entries start := by
  unfold lastFed at h ⊢
  cases hlast : (entries.filterMap feeds).getLast? with
  | none => exact absurd hstart (by simpa [hlast] using h)
  | some b => rfl

namespace Tag

/-- A tag has the values of another one in all fields that are filled there, dates aside. -/
structure Keeps (t u : Tag) : Prop where
  text : ∀ f, f ≠ .releaseDate → u.text f ≠ "" → t.text f = u.text f
  list : ∀ f, u.list f ≠ [] → t.list f = u.list f
  number : ∀ f, u.number f ≠ 0 → t.number f = u.number f
  compilation : u.compilation = true → t.compilation = true

section Updates

variable (t : Tag) (us : List Update)

theorem text_applyAll {f : TextField} (hf : f ≠ .releaseDate) :
    (t.applyAll us).text f = lastFed (Update.text? f) us (t.text f) := by
  rw [← get_foldl (·.text f) (text_apply f) us t, applyAll, fillDate_eq]
  cases f <;> first | rfl | exact absurd rfl hf

theorem list_applyAll (f : ListField) :
    (t.applyAll us).list f = lastFed (Update.list? f) us (t.list f) := by
  rw [← get_foldl (·.list f) (list_apply f) us t, applyAll, fillDate_eq]
  cases f <;> rfl

theorem number_applyAll (f : NumberField) :
    (t.applyAll us).number f = lastFed (Update.number? f) us (t.number f) := by
  rw [← get_foldl (·.number f) (number_apply f) us t, applyAll, fillDate_eq]
  cases f <;> rfl

theorem compilation_applyAll :
    (t.applyAll us).compilation = lastFed Update.flag? us t.compilation := by
  rw [← get_foldl (·.compilation) compilation_apply us t, applyAll, fillDate_eq]

/-- The last whole date, or the one there was, or the one that parts make. -/
theorem releaseDate_applyAll :
    (t.applyAll us).releaseDate =
      if lastFed (Update.text? .releaseDate) us t.releaseDate = "" then
        (Update.splitDate? us).getD ""
      else lastFed (Update.text? .releaseDate) us t.releaseDate := by
  have hdate : (us.foldl apply t).releaseDate =
      lastFed (Update.text? .releaseDate) us t.releaseDate :=
    get_foldl (·.text .releaseDate) (text_apply .releaseDate) us t
  rw [applyAll, fillDate_eq, hdate]

theorem keeps_applyAll : (t.applyAll us).Keeps (empty.applyAll us) where
  text f hf h := by
    rw [text_applyAll _ _ hf] at h
    rw [text_applyAll _ _ hf, text_applyAll _ _ hf]
    exact lastFed_of_ne (by cases f <;> rfl) h _
  list f h := by
    rw [list_applyAll] at h
    rw [list_applyAll, list_applyAll]
    exact lastFed_of_ne (by cases f <;> rfl) h _
  number f h := by
    rw [number_applyAll] at h
    rw [number_applyAll, number_applyAll]
    exact lastFed_of_ne (by cases f <;> rfl) h _
  compilation h := by
    rw [compilation_applyAll] at h ⊢
    have hne : lastFed Update.flag? us empty.compilation ≠ false := by simp [h]
    exact (lastFed_of_ne rfl hne _).trans h

/-- A whole date among the updates stays. Without one, the parts of a date count only where there
is none yet. -/
theorem releaseDate_applyAll_eq :
    (t.applyAll us).releaseDate =
      if us.filterMap (Update.text? .releaseDate) = [] ∧ t.releaseDate ≠ "" then t.releaseDate
      else (empty.applyAll us).releaseDate := by
  rw [releaseDate_applyAll, releaseDate_applyAll]
  cases hlast : (us.filterMap (Update.text? .releaseDate)).getLast? with
  | none =>
    have hnil := List.getLast?_eq_none_iff.1 hlast
    by_cases hdate : t.releaseDate = "" <;> simp [lastFed, hnil, hdate, empty]
  | some date =>
    have hne : us.filterMap (Update.text? .releaseDate) ≠ [] := by
      rintro hnil
      simp [hnil] at hlast
    simp [lastFed, hlast, hne]

end Updates

/-- Stream facts, a picture and the check for a title change no field that entries fill. -/
theorem Keeps.finish {t u : Tag} (h : t.Keeps u) (facts : CodecFacts) (art : Option Picture) :
    ({ t.applyFacts facts with art := art }.finish).Keeps u where
  text f hf hu := by
    rw [← h.text f hf hu]
    cases f <;> rfl
  list f hu := by
    rw [← h.list f hu]
    cases f <;> rfl
  number f hu := by
    rw [← h.number f hu]
    cases f <;> rfl
  compilation hu := h.compilation hu

end Tag

namespace Container

/-- There are facts about every file with an audio stream. -/
theorem exists_probeCodec {c : Container} (h : c.firstAudio?.isSome) :
    ∃ facts, c.probeCodec = .ok facts := by
  obtain ⟨stream, hstream⟩ := Option.isSome_iff_exists.1 h
  unfold probeCodec
  rw [hstream]
  exact ⟨_, rfl⟩

/-- What the entries of a container say about a field is in its tag, whatever its first audio
stream says. Only a date in two parts gives way to a date of the stream. -/
theorem loadTag_keeps (c : Container) (s : Separators) (cover : Option Picture)
    (haudio : c.firstAudio?.isSome) :
    let alone := Tag.empty.normalize s .container c.metadata
    let stream := Tag.empty.normalize s .stream ((c.firstAudio?.map Stream.metadata).getD [])
    ∃ loaded, c.loadTag s cover = .ok loaded ∧ loaded.tag.Keeps alone ∧
      loaded.tag.releaseDate =
        if c.metadata.filterMap (s.textFed? .container .releaseDate) = [] ∧
          stream.releaseDate ≠ "" then stream.releaseDate
        else alone.releaseDate := by
  intro alone stream
  obtain ⟨facts, hfacts⟩ := exists_probeCodec haudio
  have hkeeps : (c.describe s).tag.Keeps alone := Tag.keeps_applyAll stream _
  refine ⟨_, by rw [loadTag, hfacts]; rfl, hkeeps.finish facts (c.art <|> cover), ?_⟩
  rw [← s.filterMap_updates .container (s.textFed?_eq .container .releaseDate)]
  exact Tag.releaseDate_applyAll_eq stream _

/-- The stream has a date, and the container the parts of another one. -/
def twoDates : Container where
  metadata := [⟨"TYER", "2001"⟩, ⟨"TITLE", "So What"⟩]
  streams := [{ codec := .flac, metadata := [⟨"DATE", "1999"⟩, ⟨"TITLE", "Stream"⟩] }]

theorem loadTag_keeps_twoDates :
    twoDates.firstAudio?.isSome ∧
    ∃ loaded, twoDates.loadTag .standard none = .ok loaded ∧ loaded.tag.title = "So What" := by
  have haudio : twoDates.firstAudio?.isSome := rfl
  obtain ⟨loaded, hloaded, hkeeps, -⟩ := loadTag_keeps twoDates .standard none haudio
  have htitle : (Tag.empty.normalize .standard .container twoDates.metadata).text .title =
      "So What" := by decide +kernel
  have hkept := hkeeps.text .title (by decide) (by rw [htitle]; decide)
  exact ⟨haudio, loaded, hloaded, hkept.trans htitle⟩

/-- The date of a stream stays although the container has one of its own. -/
theorem stream_date_stays :
    (Tag.empty.normalize .standard .container twoDates.metadata).releaseDate = "2001" ∧
    (twoDates.loadTag .standard none).toOption.map (·.tag.releaseDate) = some "1999" := by
  constructor <;> decide +kernel

end Container

end MediaTags
