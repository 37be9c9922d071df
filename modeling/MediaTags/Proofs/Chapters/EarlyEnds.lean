import MediaTags.Proofs.Chapters.Ordered

/-!
# Items that end before they start

A declared end is checked against zero, the length of the container and the start of the next item,
but not against the start of its own item, and neither are the lengths that stand in for a missing
end. Where chapters start in order, these are the only two ways for an item to end too early.
-/

namespace MediaTags

namespace Durations

variable {d : Durations} {start : Int} {declared next : Option Int}

/-- Why an item that starts at `start`, next to one that starts at `next`, ends before its start. -/
inductive EndsEarly (d : Durations) (start : Int) (declared next : Option Int) : Prop
  /-- Its declared end is accepted and lies before the start. -/
  | declared {stop : Int} (hdeclared : declared = some stop) (haccepts : d.accepts next stop)
      (hlt : stop < start)
  /-- It is the last one and has no end that is accepted, and the stream, or the container if the
  stream's length is not known, is over before the start. -/
  | outlived {total : Int} (hrefused : ∀ stop, declared = some stop → ¬ d.accepts next stop)
      (hlast : next = none) (htotal : (d.streamMs <|> d.formatMs) = some total)
      (hlt : total < start)

theorem correctEnd_of_accepts {stop : Int} (h : d.accepts next stop) :
    d.correctEnd start (some stop) next = stop := by
  rw [correctEnd, Option.filter_eq_some_iff.2 ⟨rfl, h⟩, Option.getD_some]

theorem correctEnd_of_refused (h : ∀ stop, declared = some stop → ¬ d.accepts next stop) :
    d.correctEnd start declared next = (next <|> d.streamMs <|> d.formatMs).getD start := by
  have hnone : declared.filter (d.accepts next) = none :=
    Option.filter_eq_none_iff.2 h
  rw [correctEnd, hnone, Option.getD_none]

theorem correctEnd_lt_iff (hnext : ∀ n, next = some n → start ≤ n) :
    d.correctEnd start declared next < start ↔ EndsEarly d start declared next := by
  constructor
  · intro hlt
    by_cases hbelieved : ∃ stop, declared = some stop ∧ d.accepts next stop
    · obtain ⟨stop, rfl, haccepts⟩ := hbelieved
      rw [correctEnd_of_accepts haccepts] at hlt
      exact .declared rfl haccepts hlt
    · have hrefused : ∀ stop, declared = some stop → ¬ d.accepts next stop :=
        fun stop hstop haccepts => hbelieved ⟨stop, hstop, haccepts⟩
      rw [correctEnd_of_refused hrefused] at hlt
      cases next with
      | some n => exact absurd hlt (not_lt.2 (hnext n rfl))
      | none =>
        cases htotal : (d.streamMs <|> d.formatMs) with
        | some total => exact .outlived hrefused rfl htotal (by simpa [htotal] using hlt)
        | none => simp [htotal] at hlt
  · rintro (⟨rfl, haccepts, hlt⟩ | ⟨hrefused, rfl, htotal, hlt⟩)
    · rwa [correctEnd_of_accepts haccepts]
    · rw [correctEnd_of_refused hrefused]
      simpa [htotal] using hlt

end Durations

namespace ChapterContext

/-- Where chapters start in order, an item ends before its start if and only if its declared end
is accepted and lies there, or it is the last one and outlives the length that stands in for its
end. -/
theorem endMs_lt_startMs_iff (ctx : ChapterContext) (c : Container) (album : Tag)
    (h : c.playable.Pairwise fun a b => a.startMs ≤ b.startMs) :
    let items := (ctx.synthesize c album).items
    items.length = c.playable.length ∧
      ∀ i it chapter, items[i]? = some it → c.playable[i]? = some chapter →
        (it.endMs < it.startMs ↔ (Durations.ofContainer c).EndsEarly chapter.startMs
          chapter.stopMs (c.playable[i + 1]?.map Chapter.startMs)) := by
  intro items
  refine ⟨by simp [items, items_synthesize], ?_⟩
  intro i it chapter hit hchapter
  obtain rfl : ctx.item c album (i + 1) chapter (c.playable[i + 1]?.map Chapter.startMs) = it := by
    simpa [items, items_synthesize, hchapter] using hit
  refine Durations.correctEnd_lt_iff fun n hn => ?_
  obtain ⟨after, hafter, rfl⟩ := Option.map_eq_some_iff.1 hn
  obtain ⟨hi, rfl⟩ := List.getElem?_eq_some_iff.1 hchapter
  obtain ⟨hj, rfl⟩ := List.getElem?_eq_some_iff.1 hafter
  exact List.pairwise_iff_getElem.1 h i (i + 1) hi hj (Nat.lt_succ_self i)

/-- The second chapter is declared to end before it starts, and the third one starts after the end
of the stream. -/
def misdeclared : Container where
  streams := [{ timeBase := some ⟨1, 1⟩, duration := some 80 }]
  chapters := [⟨0, some 50, ⟨1, 1⟩, []⟩, ⟨60, some 30, ⟨1, 1⟩, []⟩, ⟨100, none, ⟨1, 1⟩, []⟩]

theorem endMs_lt_startMs_iff_misdeclared :
    (misdeclared.playable.Pairwise fun a b => a.startMs ≤ b.startMs) ∧
    (Durations.ofContainer misdeclared).EndsEarly 60000 (some 30000) (some 100000) ∧
    (Durations.ofContainer misdeclared).EndsEarly 100000 none none := by
  have h : misdeclared.playable.Pairwise fun a b => a.startMs ≤ b.startMs := by decide
  obtain ⟨-, hiff⟩ := endMs_lt_startMs_iff ⟨"a.mka", .standard, .english, {}⟩ misdeclared .empty h
  exact ⟨h, (hiff 1 _ _ rfl rfl).1 (by decide), (hiff 2 _ _ rfl rfl).1 (by decide)⟩

theorem items_end_before_start :
    (misdeclared.playable.Pairwise fun a b => a.startMs ≤ b.startMs) ∧
    ((ChapterContext.synthesize ⟨"a.mka", .standard, .english, {}⟩ misdeclared .empty).items.map
      fun it => (it.startMs, it.endMs)) = [(0, 50000), (60000, 30000), (100000, 80000)] ∧
    ¬ ∀ it ∈ (ChapterContext.synthesize ⟨"a.mka", .standard, .english, {}⟩ misdeclared
      .empty).items, it.startMs ≤ it.endMs := by
  decide

end ChapterContext

end MediaTags
