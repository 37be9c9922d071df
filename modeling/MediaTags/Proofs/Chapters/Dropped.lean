import MediaTags.Proofs.Chapters.Ordered
import MediaTags.Proofs.Normalize.Reporting

/-!
# Dropped chapters leave no trace

Chapters that start before zero make no item. Where enough others are left, the items are the same
without them, and the warnings are the same but for the places of the chapters they name.
-/

namespace MediaTags

/-- The warning about a chapter whose place is counted in another list. -/
def Warning.renumber (place : Nat → Nat) : Warning → Warning
  | .anomalousChapterDuration index ms => .anomalousChapterDuration (place index) ms
  | w => w

namespace Container

/-- The container without the chapters that start before zero. -/
def playableOnly (c : Container) : Container := { c with chapters := c.playable }

/-- Where a playable chapter stands among all chapters. -/
def place (c : Container) (i : Nat) : Nat :=
  ((ChapterContext.emitted c)[i]?.map Prod.snd).getD 0

theorem playable_playableOnly (c : Container) : c.playableOnly.playable = c.playable :=
  List.filter_filter.trans (by simp [playable])

theorem getElem?_emitted (c : Container) (i : Nat) :
    (ChapterContext.emitted c)[i]? = c.playable[i]?.map fun chapter => (chapter, c.place i) := by
  rw [← ChapterContext.map_fst_emitted, List.getElem?_map]
  cases h : (ChapterContext.emitted c)[i]? with
  | none => rfl
  | some p => simp [place, h]

theorem emitted_eq (c : Container) :
    ChapterContext.emitted c = c.playable.zipIdx.map fun p => (p.1, c.place p.2) := by
  apply List.ext_getElem?
  intro i
  rw [getElem?_emitted, List.getElem?_map, List.getElem?_zipIdx, Option.map_map, Nat.zero_add]
  rfl

variable {c : Container} {i j : Nat}

theorem getElem?_place (hi : i < c.playable.length) : c.chapters[c.place i]? = c.playable[i]? := by
  have hmem : (c.playable[i], c.place i) ∈ ChapterContext.emitted c := by
    refine List.mem_of_getElem? (i := i) ?_
    rw [getElem?_emitted, List.getElem?_eq_getElem hi, Option.map_some]
  rw [List.getElem?_eq_getElem hi]
  exact List.mem_zipIdx_iff_getElem?.1 (List.mem_of_mem_filter hmem)

theorem place_lt_place (hij : i < j) (hj : j < c.playable.length) : c.place i < c.place j := by
  have hall : c.chapters.zipIdx.Pairwise fun a b => a.2 < b.2 := by
    rw [← List.pairwise_map, List.zipIdx_map_snd]
    exact List.pairwise_lt_range'
  have hsorted : (ChapterContext.emitted c).Pairwise fun a b => a.2 < b.2 := hall.filter _
  have hlen : (ChapterContext.emitted c).length = c.playable.length := by simp [emitted_eq]
  have h := List.pairwise_iff_getElem.1 hsorted i j (by omega) (by omega) hij
  simpa [emitted_eq] using h

end Container

/-- No warning about an entry names a chapter. -/
theorem map_renumber_complaint? (place : Nat → Nat) (scope : Scope) (e : Entry) :
    (complaint? scope e).map (Warning.renumber place) = complaint? scope e := by
  simp only [complaint?]
  cases Vocabulary.lookup (Vocabulary.canonicalKey e.key) scope with
  | none => rfl
  | some m =>
    cases m with
    | number | flag =>
      dsimp only
      split <;> rfl
    | _ => rfl

theorem map_renumber_warnings (place : Nat → Nat) (s : Separators) (scope : Scope)
    (entries : List Entry) :
    (s.warnings scope entries).map (Warning.renumber place) = s.warnings scope entries := by
  rw [Separators.warnings_eq, List.map_filterMap]
  exact List.filterMap_congr fun e _ => map_renumber_complaint? place scope e

namespace ChapterContext

section Item

variable (ctx : ChapterContext) (c : Container) (album : Tag)

theorem itemWarnings_place (place : Nat → Nat) (chapter : Chapter) (index : Nat) :
    ctx.itemWarnings chapter (place index) =
      (ctx.itemWarnings chapter index).map (Warning.renumber place) := by
  rw [itemWarnings, itemWarnings, List.map_append, List.map_map, map_renumber_warnings]
  rfl

theorem emitted_playableOnly : emitted c.playableOnly = c.playable.zipIdx := by
  refine List.filter_eq_self.2 fun p hp => ?_
  have hmem : p.1 ∈ c.playable := List.fst_mem_of_mem_zipIdx hp
  simpa using start_nonneg_of_mem_playable hmem

theorem warnings_playableOnly :
    (ctx.synthesize c album).warnings =
      (ctx.synthesize c.playableOnly album).warnings.map (Warning.renumber c.place) := by
  rw [synthesize, synthesize, emitted_playableOnly, Container.emitted_eq, List.flatMap_map,
    List.map_flatMap]
  exact List.flatMap_congr fun p _ => itemWarnings_place ctx c.place p.1 p.2

/-- Apart from the times in it, an item takes from a container what it has besides its chapters, and
whether they are several. -/
theorem item_playableOnly (h : c.playableOnly.hasChapters = c.hasChapters) (number : Nat)
    (chapter : Chapter) (next : Option Int) :
    ctx.item c.playableOnly album number chapter next = ctx.item c album number chapter next := by
  simp only [item, thumbnail?, h]
  rfl

end Item

/-- Where at least two chapters do not start before zero, the others can be left out: the items are
the same, and so are the warnings, apart from the places of chapters. -/
theorem synthesize_playableOnly (ctx : ChapterContext) (c : Container) (album : Tag)
    (h : 2 ≤ c.playable.length) :
    (ctx.synthesize c album).items = (ctx.synthesize c.playableOnly album).items ∧
    (ctx.synthesize c album).warnings =
      (ctx.synthesize c.playableOnly album).warnings.map (Warning.renumber c.place) ∧
    (∀ i < c.playable.length, c.chapters[c.place i]? = c.playable[i]?) ∧
    ∀ i j, i < j → j < c.playable.length → c.place i < c.place j := by
  have hle : c.playable.length ≤ c.chapters.length := List.length_filter_le ..
  have hmany : c.hasChapters = true := decide_eq_true (by omega)
  have hmany' : c.playableOnly.hasChapters = true := decide_eq_true h
  refine ⟨?_, warnings_playableOnly .., fun i => Container.getElem?_place,
    fun i j => Container.place_lt_place⟩
  rw [items_synthesize, items_synthesize, Container.playable_playableOnly]
  simp only [item_playableOnly ctx c album (hmany'.trans hmany.symm)]

/-- Two chapters that start before zero stand in front of others that are too short. -/
def interrupted : Container where
  chapters := [⟨-5, none, ⟨1, 1⟩, []⟩, ⟨0, some 1, ⟨1, 2⟩, [⟨"NOTE", "x"⟩]⟩,
    ⟨-1, some 9, ⟨1, 1⟩, []⟩, ⟨7, some 7, ⟨1, 1⟩, []⟩]

theorem synthesize_playableOnly_interrupted :
    2 ≤ interrupted.playable.length ∧
    (ChapterContext.synthesize ⟨"a.mka", .standard, .english, {}⟩ interrupted .empty).warnings =
      [.anomalousChapterDuration 1 500, .unmappedKey "NOTE", .anomalousChapterDuration 3 0] := by
  have h : 2 ≤ interrupted.playable.length := by decide
  refine ⟨h, ?_⟩
  rw [(synthesize_playableOnly ⟨"a.mka", .standard, .english, {}⟩ interrupted .empty h).2.1]
  decide +kernel

end ChapterContext

end MediaTags
