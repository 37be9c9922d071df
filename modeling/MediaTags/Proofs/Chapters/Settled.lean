import MediaTags.Proofs.Chapters.EarlyEnds

/-!
# Corrected ends stay

The times of the items can be written back into the chapters they were made from. Made once more,
the items have the same times: an end that was accepted is accepted again, and one that was put in
its place is either accepted now or put in its place again.
-/

namespace MediaTags

/-- The unit of one millisecond. -/
def TimeBase.millisecond : TimeBase := ⟨1, 1000⟩

theorem TimeBase.toMillis_millisecond {ms : Int} (h : IsInstant ms) :
    millisecond.toMillis ms = ms := by
  have hcancel : (ms * 1000).tdiv 1000 = ms := Int.mul_tdiv_cancel ms (by decide)
  simp [toMillis, millisecond, hcancel, clampInstant_eq_self h]

namespace Durations

/-- An end that was corrected is corrected already. -/
theorem correctEnd_correctEnd (d : Durations) (start : Int) (declared next : Option Int) :
    d.correctEnd start (some (d.correctEnd start declared next)) next =
      d.correctEnd start declared next := by
  by_cases haccepts : d.accepts next (d.correctEnd start declared next)
  · exact correctEnd_of_accepts haccepts
  · have hrefused : ∀ stop, declared = some stop → ¬ d.accepts next stop := by
      rintro stop rfl h
      rw [correctEnd_of_accepts h] at haccepts
      exact haccepts h
    calc d.correctEnd start (some (d.correctEnd start declared next)) next
        = (next <|> d.streamMs <|> d.formatMs).getD start :=
          correctEnd_of_refused (by rintro stop ⟨⟩; exact haccepts)
      _ = d.correctEnd start declared next := (correctEnd_of_refused hrefused).symm

end Durations

/-- The chapter with the times of an item, declared in milliseconds. -/
def Chapter.declare (ch : Chapter) (it : ChapterItem) : Chapter :=
  { ch with start := it.startMs, stop := some it.endMs, timeBase := .millisecond }

theorem Chapter.startMs_declare (ch : Chapter) {it : ChapterItem} (h : IsInstant it.startMs) :
    (ch.declare it).startMs = it.startMs :=
  TimeBase.toMillis_millisecond h

theorem Chapter.stopMs_declare (ch : Chapter) {it : ChapterItem} (h : IsInstant it.endMs) :
    (ch.declare it).stopMs = some it.endMs :=
  congrArg some (TimeBase.toMillis_millisecond h)

/-- Declare the times of items, one after the other, in the chapters that do not start before
zero. -/
def declareAll : List Chapter → List ChapterItem → List Chapter
  | [], _ => []
  | ch :: chapters, [] => ch :: chapters
  | ch :: chapters, it :: items =>
    if ch.start < 0 then ch :: declareAll chapters (it :: items)
    else ch.declare it :: declareAll chapters items

theorem filter_declareAll {chapters : List Chapter} {items : List ChapterItem}
    (hlen : items.length = (chapters.filter (0 ≤ ·.start)).length)
    (hitems : ∀ it ∈ items, 0 ≤ it.startMs) :
    (declareAll chapters items).filter (0 ≤ ·.start) =
      List.zipWith Chapter.declare (chapters.filter (0 ≤ ·.start)) items := by
  fun_induction declareAll chapters items with
  | case1 => simp
  | case2 ch chapters =>
    rw [List.length_nil, eq_comm, List.length_eq_zero_iff] at hlen
    rw [hlen, List.zipWith_nil_left]
  | case3 ch chapters it items hch ih =>
    have hdrop : ¬ 0 ≤ ch.start := not_le.2 hch
    simp only [List.filter_cons, hdrop, decide_false] at hlen ⊢
    exact ih hlen hitems
  | case4 ch chapters it items hch ih =>
    have hkeep : 0 ≤ ch.start := not_lt.1 hch
    have hit : 0 ≤ (ch.declare it).start := hitems it (by simp)
    simp only [List.filter_cons, hkeep, hit, decide_true, if_true, List.length_cons,
      Nat.add_right_cancel_iff, List.zipWith_cons_cons] at hlen ⊢
    rw [ih hlen fun it' h => hitems it' (by simp [h])]

namespace ChapterContext

/-- The container whose chapters declare the times of their items. -/
def settled (ctx : ChapterContext) (c : Container) (album : Tag) : Container :=
  { c with chapters := declareAll c.chapters (ctx.synthesize c album).items }

section Item

variable (ctx : ChapterContext) (c : Container) (album : Tag)

theorem playable_settled :
    (ctx.settled c album).playable =
      List.zipWith Chapter.declare c.playable (ctx.synthesize c album).items :=
  filter_declareAll (length_items ctx c album) fun _ h => (times_nonneg_of_mem_items h).1

theorem getElem?_playable_settled (i : Nat) :
    (ctx.settled c album).playable[i]? = c.playable[i]?.map fun chapter => chapter.declare
      (ctx.item c album (i + 1) chapter (c.playable[i + 1]?.map Chapter.startMs)) := by
  rw [playable_settled, List.getElem?_zipWith, getElem?_items]
  cases c.playable[i]? <;> rfl

theorem map_startMs_playable_settled :
    (ctx.settled c album).playable.map Chapter.startMs = c.playable.map Chapter.startMs := by
  apply List.ext_getElem?
  intro i
  rw [List.getElem?_map, List.getElem?_map, getElem?_playable_settled, Option.map_map]
  congr 1
  funext chapter
  exact chapter.startMs_declare chapter.isInstant_startMs

/-- An item that is made from its own times, next to the same one, has these times again. -/
theorem times_item_declare (number : Nat) (chapter : Chapter) (next : Option Int) {it : ChapterItem}
    (hit : it = ctx.item c album number chapter next) (hstart : IsInstant it.startMs)
    (hend : IsInstant it.endMs) :
    (ctx.item c album number (chapter.declare it) next).startMs = it.startMs ∧
      (ctx.item c album number (chapter.declare it) next).endMs = it.endMs := by
  rw [startMs_item, endMs_item, chapter.startMs_declare hstart, chapter.stopMs_declare hend, hit]
  exact ⟨rfl, Durations.correctEnd_correctEnd ..⟩

end Item

/-- The items that are made from the times of all items have the same times. -/
theorem times_settled (ctx : ChapterContext) (c : Container) (album : Tag)
    (hd : ∀ us, c.durationUs = some us → IsInstant us) :
    (ctx.synthesize (ctx.settled c album) album).items.map (fun it => (it.startMs, it.endMs)) =
      (ctx.synthesize c album).items.map fun it => (it.startMs, it.endMs) := by
  apply List.ext_getElem?
  intro i
  have hnext : (ctx.settled c album).playable[i + 1]?.map Chapter.startMs =
      c.playable[i + 1]?.map Chapter.startMs := by
    rw [← List.getElem?_map, map_startMs_playable_settled, List.getElem?_map]
  rw [List.getElem?_map, List.getElem?_map, getElem?_items, getElem?_items, hnext,
    getElem?_playable_settled]
  cases hchapter : c.playable[i]? with
  | none => rfl
  | some chapter =>
    have hmem : ctx.item c album (i + 1) chapter (c.playable[i + 1]?.map Chapter.startMs) ∈
        (ctx.synthesize c album).items := by
      refine List.mem_of_getElem? (i := i) ?_
      rw [getElem?_items, hchapter, Option.map_some]
    obtain ⟨hstart, hend⟩ := isInstant_of_mem_items hd hmem
    obtain ⟨hstart', hend'⟩ := times_item_declare ctx c album (i + 1) chapter _ rfl hstart hend
    exact congrArg some (Prod.ext hstart' hend')

/-- Every time that an item can have: zero for a unit without length, the last instant, the start of
the next item, which lies before, and the end of the container. -/
theorem times_settled_scattered :
    (∀ us, scattered.durationUs = some us → IsInstant us) ∧
    (ChapterContext.synthesize ⟨"a.mka", .standard, .english, {}⟩
      (ChapterContext.settled ⟨"a.mka", .standard, .english, {}⟩ scattered .empty) .empty).items.map
        (fun it => (it.startMs, it.endMs)) =
      [(0, maxInstant), (maxInstant, 60000), (60000, 9223372036854775)] := by
  have hd : ∀ us, scattered.durationUs = some us → IsInstant us := by
    rintro us ⟨⟩
    decide
  exact ⟨hd, (times_settled _ scattered _ hd).trans (by decide)⟩

end ChapterContext

end MediaTags
