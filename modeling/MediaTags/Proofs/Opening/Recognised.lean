import MediaTags.LoadedTag
import MediaTags.Proofs.Normalize.Reporting
import MediaTags.Proofs.Opening.Outcome

/-!
# Tags that the demuxer recognised

A raw key stays if the vocabulary has it in any scope, and else the word for the recognised key
stands in for it. Every such word means something in a container. So a recognised tag means nothing
there exactly if its raw key is one of those that only the albums and chapters of a set have, and
then, and only then, an unmapped key is reported for it.
-/

namespace MediaTags

namespace Vocabulary

/-- The keys that mean something in an album or a chapter, and nothing in a file. -/
def setKeys : List String :=
  ["MUSICBRAINZ_ALBUMARTIST", "ALBUMARTSTS", "ARTISTSORT", "ARTIST SORT", "SORT_ALBUM_ARTIST",
    "COMPOSERSORT", "COMPOSER SORT", "SUBTITLE", "SETSUBTITLE", "ORIGYEAR", "DATE_RECORDED",
    "REMIXED_BY", "MIXED_BY", "MIXER", "BAND", "PRODUCER", "INVOLVEDPEOPLE", "ACTOR", "INSTRUMENTS"]

theorem isKnown_iff {key : String} : isKnown key ↔ ∃ row ∈ table, row.key = canonicalKey key := by
  simp [isKnown]

theorem isSome_lookup_iff {key : String} {scope : Scope} :
    (lookup key scope).isSome ↔ ∃ row ∈ table, row.key = key ∧ scope ∈ row.scopes := by
  simp [lookup]

/-- A key of the vocabulary means something in a container unless it is for sets only. -/
theorem isSome_lookup_container_iff {row : Row} (h : row ∈ table) :
    (lookup row.key .container).isSome ↔ row.key ∉ setKeys := by
  have hset : ∀ row ∈ table, .container ∈ row.scopes → row.key ∉ setKeys := by decide +kernel
  have hrest : ∀ row ∈ table, .container ∈ row.scopes ∨ row.key ∈ setKeys ∨
      ∃ other ∈ table, .container ∈ other.scopes ∧ other.key = row.key := by decide +kernel
  rw [isSome_lookup_iff]
  constructor
  · rintro ⟨other, hother, hkey, hscope⟩
    exact hkey ▸ hset other hother hscope
  · intro hkey
    obtain hscope | hmem | ⟨other, hother, hscope, hsame⟩ := hrest row h
    · exact ⟨row, h, rfl, hscope⟩
    · exact absurd hmem hkey
    · exact ⟨other, hother, hsame, hscope⟩

theorem isKnown_of_mem_setKeys {key : String} (h : canonicalKey key ∈ setKeys) : isKnown key := by
  have hkeys : ∀ key ∈ setKeys, ∃ row ∈ table, row.key = key := by decide +kernel
  exact isKnown_iff.2 (hkeys _ h)

theorem exists_scope_of_mem_setKeys {key : String} (h : key ∈ setKeys) :
    ∃ scope ∈ Scope.set, (lookup key scope).isSome := by
  have hkeys : ∀ key ∈ setKeys, ∃ scope ∈ Scope.set, (lookup key scope).isSome := by decide +kernel
  exact hkeys key h

end Vocabulary

open Vocabulary

/-- An unmapped key is reported where a key has no meaning. -/
theorem exists_unmappedKey_iff {scope : Scope} {e : Entry} :
    (∃ key, complaint? scope e = some (.unmappedKey key)) ↔
      lookup (canonicalKey e.key) scope = none := by
  simp only [complaint?]
  cases lookup (canonicalKey e.key) scope with
  | none => simp
  | some m => cases m <;> simp

namespace Demux

/-- The words for recognised keys stand for themselves, and all of them mean something in a
container. -/
theorem StandardKey.vocabularyKey?_mapped {k : StandardKey} {word : String}
    (h : k.vocabularyKey? = some word) :
    canonicalKey word = word ∧ (lookup word .container).isSome := by
  have hall : ∀ k : StandardKey, k.vocabularyKey?.all fun word =>
      canonicalKey word = word ∧ (lookup word .container).isSome := by
    intro k
    cases k <;> decide +kernel
  simpa [h] using hall k

variable {t : RawTag} {word : String}

theorem RawTag.lookup_entryKey_isSome_iff
    (h : t.standard.bind StandardKey.vocabularyKey? = some word) :
    (lookup (canonicalKey t.entryKey) .container).isSome ↔ canonicalKey t.key ∉ setKeys := by
  rw [entryKey]
  split
  · next hknown =>
    obtain ⟨row, hrow, hkey⟩ := isKnown_iff.1 hknown
    rw [← hkey]
    exact isSome_lookup_container_iff hrow
  · next hknown =>
    -- a key that no scope knows is none of those for sets
    obtain ⟨k, -, hk⟩ := Option.bind_eq_some_iff.1 h
    obtain ⟨hcanonical, hmapped⟩ := k.vocabularyKey?_mapped hk
    rw [h, Option.getD_some, hcanonical]
    exact iff_of_true hmapped fun hset => hknown (isKnown_of_mem_setKeys hset)

theorem RawTag.entryKey_of_mem_setKeys (h : canonicalKey t.key ∈ setKeys) : t.entryKey = t.key :=
  if_pos (isKnown_of_mem_setKeys h)

theorem textEntries_append (before after : List RawTag) :
    textEntries (before ++ after) = textEntries before ++ textEntries after := by
  simp [textEntries]

theorem textEntries_cons (hvalue : t.value.isBinary = false) (tags : List RawTag) :
    textEntries (t :: tags) = t.textEntry :: textEntries tags := by
  simp [textEntries, hvalue]

end Demux

namespace Container

/-- The entries of the first audio stream. -/
def audioEntries (c : Container) : List Entry := (c.firstAudio?.map Stream.metadata).getD []

theorem loadTag_warnings {c : Container} {s : Separators} {cover : Option Picture}
    {loaded : LoadedTag} (h : c.loadTag s cover = .ok loaded) :
    loaded.warnings = s.warnings .stream c.audioEntries ++ s.warnings .container c.metadata := by
  obtain ⟨facts, -, rfl⟩ := map_eq_ok.1 h
  rfl

end Container

namespace Demux

/-- A recognised tag means something in a container unless its raw key is for sets only, and such a
key is kept and means something in an album or a chapter. When the tag of the file is loaded, an
unmapped key is reported at the place of this tag exactly where it means nothing. -/
theorem RawTag.recognised_mapped_iff {t : RawTag} {word : String}
    (hvalue : t.value.isBinary = false)
    (hword : t.standard.bind StandardKey.vocabularyKey? = some word) :
    ∃ e, t.entry? = some e ∧
      ((lookup (canonicalKey e.key) .container).isSome ↔ canonicalKey t.key ∉ setKeys) ∧
      (canonicalKey t.key ∈ setKeys →
        e.key = t.key ∧ ∃ scope ∈ Scope.set, (lookup (canonicalKey e.key) scope).isSome) ∧
      ((∃ key, complaint? .container e = some (.unmappedKey key)) ↔
        canonicalKey t.key ∈ setKeys) ∧
      ∀ (c : Container) (r : Revision) (front back : List Entry) (before after : List RawTag)
        (s : Separators) (cover : Option Picture) (loaded : LoadedTag),
        c.metadata = front ++ r.entries ++ back → r.tags = before ++ t :: after →
        c.loadTag s cover = .ok loaded →
        loaded.warnings = s.warnings .stream c.audioEntries ++
          s.warnings .container (front ++ textEntries before) ++
          (complaint? .container e).toList ++
          s.warnings .container (textEntries after ++ back) := by
  have hmapped := t.lookup_entryKey_isSome_iff hword
  refine ⟨t.textEntry, by simp [t.entry?_eq, hvalue], hmapped, fun hset => ?_, ?_, ?_⟩
  · have hkey : t.textEntry.key = t.key := t.entryKey_of_mem_setKeys hset
    rw [hkey]
    exact ⟨rfl, exists_scope_of_mem_setKeys hset⟩
  · rw [exists_unmappedKey_iff, ← Option.not_isSome_iff_eq_none]
    exact (not_congr hmapped).trans not_not
  · intro c r front back before after s cover loaded hmetadata htags hloaded
    rw [Container.loadTag_warnings hloaded, hmetadata, r.entries_eq, htags, textEntries_append,
      textEntries_cons hvalue]
    simp only [s.warnings_eq, List.filterMap_append, List.filterMap_cons, List.append_assoc]
    cases complaint? .container t.textEntry <;> simp

namespace Recognised

def title : RawTag := ⟨"©nam", some .trackTitle, .text "So What"⟩

def subtitle : RawTag := ⟨"SETSUBTITLE", some .discSubtitle, .text "Live"⟩

def block : Revision where
  tags := [title, subtitle]

def container : Container where
  metadata := block.entries
  streams := [{ codec := .flac }]

end Recognised

open Recognised in
/-- No unmapped key is reported for the first tag, but one is for the second tag. -/
theorem RawTag.recognised_mapped_iff_title :
    title.value.isBinary = false ∧
    title.standard.bind StandardKey.vocabularyKey? = some "TITLE" ∧
    ∃ e loaded, title.entry? = some e ∧ (lookup (canonicalKey e.key) .container).isSome ∧
      (¬ ∃ key, complaint? .container e = some (.unmappedKey key)) ∧
      container.loadTag .standard none = .ok loaded ∧
      loaded.warnings = (complaint? .container e).toList ++ [.unmappedKey "SETSUBTITLE"] := by
  have hset : canonicalKey title.key ∉ setKeys := by decide +kernel
  have hword : title.standard.bind StandardKey.vocabularyKey? = some "TITLE" := rfl
  obtain ⟨e, he, hmapped, -, hunmapped, hwarnings⟩ := title.recognised_mapped_iff rfl hword
  obtain ⟨loaded, hloaded⟩ : ∃ loaded, container.loadTag .standard none = .ok loaded := ⟨_, rfl⟩
  refine ⟨rfl, hword, e, loaded, he, hmapped.2 hset, mt hunmapped.1 hset, hloaded, ?_⟩
  have hmetadata : container.metadata = [] ++ block.entries ++ [] := by simp [container]
  rw [hwarnings container block [] [] [] [subtitle] .standard none loaded hmetadata rfl hloaded]
  have hfront : Separators.standard.warnings .stream container.audioEntries ++
      Separators.standard.warnings .container ([] ++ textEntries []) = [] := rfl
  have hback : Separators.standard.warnings .container (textEntries [subtitle] ++ []) =
      [.unmappedKey "SETSUBTITLE"] := by decide +kernel
  rw [hfront, hback, List.nil_append]

open Recognised in
/-- This tag was recognised, but its raw key is in the vocabulary, for albums and chapters. -/
theorem recognised_subtitle_unmapped :
    subtitle.value.isBinary = false ∧
    subtitle.standard.bind StandardKey.vocabularyKey? = some "TSST" ∧
    subtitle.entry? = some ⟨"SETSUBTITLE", "Live"⟩ ∧
    lookup (canonicalKey "SETSUBTITLE") .container = none ∧
    (container.loadTag .standard none).map LoadedTag.warnings =
      .ok [.unmappedKey "SETSUBTITLE"] :=
  ⟨rfl, rfl, by decide +kernel, by decide +kernel, by decide +kernel⟩

end Demux

end MediaTags
