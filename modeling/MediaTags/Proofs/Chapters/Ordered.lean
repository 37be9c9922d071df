import MediaTags.Chapters
import MediaTags.Proofs.Timeline

/-!
# Items stand in order

The items of a container are its playable chapters, numbered from one. No item ends before zero
or after the start of the next one, and the lengths of items fit in 64 bits.
-/

namespace MediaTags

/-- The chapters that do not start before zero. -/
def Container.playable (c : Container) : List Chapter := c.chapters.filter (0 ≤ ·.start)

theorem Chapter.startMs_nonneg {ch : Chapter} (h : 0 ≤ ch.start) : 0 ≤ ch.startMs :=
  ch.timeBase.toMillis_nonneg h

theorem Chapter.isInstant_startMs (ch : Chapter) : IsInstant ch.startMs :=
  ch.timeBase.isInstant_toMillis _

theorem Chapter.isInstant_stopMs {ch : Chapter} {stop : Int} (h : ch.stopMs = some stop) :
    IsInstant stop := by
  obtain ⟨ts, -, rfl⟩ := Option.map_eq_some_iff.1 h
  exact ch.timeBase.isInstant_toMillis ts

theorem Stream.isInstant_durationMs {s : Stream} {ms : Int} (h : s.durationMs = some ms) :
    IsInstant ms := by
  unfold durationMs at h
  split at h
  · next base d _ _ =>
    split at h
    · cases h
      exact base.isInstant_toMillis d
    · cases h
  · cases h

theorem Container.isInstant_streamDurationMs {c : Container} {ms : Int}
    (h : c.streamDurationMs = some ms) : IsInstant ms := by
  obtain ⟨s, -, hs⟩ := Option.bind_eq_some_iff.1 h
  exact s.isInstant_durationMs hs

namespace Durations

/-- Where an item ends comes from one of five places, tried in this order. -/
theorem correctEnd_induction {P : Int → Prop} {d : Durations} {start : Int}
    {declared next : Option Int}
    (hdeclared : ∀ stop, declared = some stop → d.accepts next stop = true → P stop)
    (hnext : ∀ n, next = some n → P n)
    (hstream : next = none → ∀ n, d.streamMs = some n → P n)
    (hformat : next = none → ∀ n, d.formatMs = some n → P n)
    (hstart : next = none → P start) : P (d.correctEnd start declared next) := by
  unfold correctEnd
  match hf : declared.filter (d.accepts next) with
  | some stop =>
    obtain ⟨hs, ha⟩ := Option.filter_eq_some_iff.1 hf
    exact hdeclared stop hs ha
  | none =>
    match hn : next with
    | some n => exact hnext n rfl
    | none =>
      match hs : d.streamMs, hm : d.formatMs with
      | some n, _ => exact hstream rfl n hs
      | none, some n => exact hformat rfl n hm
      | none, none => exact hstart rfl

theorem correctEnd_le_next (d : Durations) (start next : Int) (declared : Option Int) :
    d.correctEnd start declared (some next) ≤ next := by
  refine correctEnd_induction (P := (· ≤ next)) ?_ ?_ ?_ ?_ ?_
  · intro stop _ ha
    simp only [accepts, Bool.and_eq_true, Option.all_some, decide_eq_true_eq] at ha
    exact ha.2
  · rintro n ⟨⟩
    exact le_rfl
  all_goals exact nofun

theorem streamMs_ofContainer {c : Container} {n : Int} (h : (ofContainer c).streamMs = some n) :
    c.streamDurationMs = some n ∧ 0 < n := by
  simpa [ofContainer, Option.filter_eq_some_iff] using h

theorem formatMs_ofContainer {c : Container} {n : Int} (h : (ofContainer c).formatMs = some n) :
    c.durationMs = some n ∧ 0 < n := by
  simpa [ofContainer, Option.filter_eq_some_iff] using h

theorem correctEnd_nonneg (c : Container) {start : Int} {next : Option Int}
    (declared : Option Int) (hs : 0 ≤ start) (hn : ∀ n, next = some n → 0 ≤ n) :
    0 ≤ (ofContainer c).correctEnd start declared next := by
  refine correctEnd_induction (P := (0 ≤ ·)) ?_ hn ?_ ?_ fun _ => hs
  · intro stop _ ha
    simp only [accepts, Bool.and_eq_true, decide_eq_true_eq] at ha
    exact ha.1.1.le
  · exact fun _ n h => (streamMs_ofContainer h).2.le
  · exact fun _ n h => (formatMs_ofContainer h).2.le

/-- The length of a container in milliseconds is a signed 64-bit number, if the one in
microseconds is. -/
theorem isInstant_formatMs {c : Container} (hd : ∀ us, c.durationUs = some us → IsInstant us)
    {n : Int} (h : (ofContainer c).formatMs = some n) : IsInstant n := by
  obtain ⟨hn, hpos⟩ := formatMs_ofContainer h
  obtain ⟨us, hus, rfl⟩ := Option.map_eq_some_iff.1 hn
  have hle : (us.tdiv 1000).natAbs ≤ us.natAbs := Int.natAbs_tdiv_le_natAbs us 1000
  have hmax := hd us hus
  have hus₀ : 0 ≤ us := by
    by_contra hneg
    have := Int.tdiv_nonneg (a := -us) (b := 1000) (by omega) (by omega)
    rw [Int.neg_tdiv] at this
    omega
  simp only [IsInstant, minInstant, maxInstant] at *
  omega

theorem isInstant_correctEnd {c : Container}
    (hd : ∀ us, c.durationUs = some us → IsInstant us) {start : Int}
    {declared next : Option Int} (hs : IsInstant start)
    (hdeclared : ∀ stop, declared = some stop → IsInstant stop)
    (hn : ∀ n, next = some n → IsInstant n) :
    IsInstant ((ofContainer c).correctEnd start declared next) := by
  refine correctEnd_induction (P := IsInstant) (fun stop h _ => hdeclared stop h) hn ?_ ?_
    fun _ => hs
  · exact fun _ n h => c.isInstant_streamDurationMs (streamMs_ofContainer h).1
  · exact fun _ n h => isInstant_formatMs hd h

end Durations

namespace ChapterContext

theorem map_fst_emitted (c : Container) : (emitted c).map Prod.fst = c.playable := by
  rw [emitted, Container.playable, ← List.zipIdx_map_fst 0 c.chapters, List.filter_map,
    List.zipIdx_map_fst]
  rfl

/-- The items are made of the playable chapters, in order, each next to the one after it. -/
theorem items_synthesize (ctx : ChapterContext) (c : Container) (album : Tag) :
    (ctx.synthesize c album).items = c.playable.mapIdx fun i chapter =>
      ctx.item c album (i + 1) chapter (c.playable[i + 1]?.map Chapter.startMs) := by
  apply List.ext_getElem?
  intro i
  rw [← map_fst_emitted]
  simp [synthesize, Function.comp_def]

theorem length_items (ctx : ChapterContext) (c : Container) (album : Tag) :
    (ctx.synthesize c album).items.length = c.playable.length := by
  simp [items_synthesize]

theorem getElem?_items (ctx : ChapterContext) (c : Container) (album : Tag) (i : Nat) :
    (ctx.synthesize c album).items[i]? = c.playable[i]?.map fun chapter =>
      ctx.item c album (i + 1) chapter (c.playable[i + 1]?.map Chapter.startMs) := by
  rw [items_synthesize, List.getElem?_mapIdx]

section Item

variable (ctx : ChapterContext) (c : Container) (album : Tag) (number : Nat) (chapter : Chapter)
  (next : Option Int)

@[simp] theorem startMs_item :
    (ctx.item c album number chapter next).startMs = chapter.startMs := rfl

@[simp] theorem endMs_item :
    (ctx.item c album number chapter next).endMs =
      (Durations.ofContainer c).correctEnd chapter.startMs chapter.stopMs next := rfl

@[simp] theorem trackNumber_item :
    (ctx.item c album number chapter next).tag.trackNumber = min number Text.maxCount := rfl

theorem duration_item :
    (ctx.item c album number chapter next).tag.duration =
      min (max 0 ((ctx.item c album number chapter next).endMs -
        (ctx.item c album number chapter next).startMs) / 1000).toNat Text.maxCount := by
  rw [max_comm 0]
  rfl

end Item

theorem mem_items {ctx : ChapterContext} {c : Container} {album : Tag} {it : ChapterItem}
    (h : it ∈ (ctx.synthesize c album).items) :
    ∃ number, ∃ chapter ∈ c.playable, ∃ next : Option Chapter,
      (∀ n, next = some n → n ∈ c.playable) ∧
      it = ctx.item c album number chapter (next.map Chapter.startMs) := by
  rw [items_synthesize, List.mem_mapIdx] at h
  obtain ⟨i, hi, rfl⟩ := h
  exact ⟨i + 1, c.playable[i], List.getElem_mem hi, c.playable[i + 1]?,
    fun _ hn => List.mem_of_getElem? hn, rfl⟩

theorem start_nonneg_of_mem_playable {c : Container} {chapter : Chapter}
    (h : chapter ∈ c.playable) : 0 ≤ chapter.start := by
  simpa using (List.mem_filter.1 h).2

theorem times_nonneg_of_mem_items {ctx : ChapterContext} {c : Container} {album : Tag}
    {it : ChapterItem} (h : it ∈ (ctx.synthesize c album).items) :
    0 ≤ it.startMs ∧ 0 ≤ it.endMs := by
  obtain ⟨number, chapter, hch, next, hnext, rfl⟩ := mem_items h
  have hs : 0 ≤ chapter.startMs := Chapter.startMs_nonneg (start_nonneg_of_mem_playable hch)
  refine ⟨hs, Durations.correctEnd_nonneg c _ hs ?_⟩
  intro n hn
  obtain ⟨ch, rfl, rfl⟩ := Option.map_eq_some_iff.1 hn
  exact Chapter.startMs_nonneg (start_nonneg_of_mem_playable (hnext ch rfl))

/-- The times of an item are signed 64-bit numbers. -/
theorem isInstant_of_mem_items {ctx : ChapterContext} {c : Container} {album : Tag}
    {it : ChapterItem} (hd : ∀ us, c.durationUs = some us → IsInstant us)
    (h : it ∈ (ctx.synthesize c album).items) : IsInstant it.startMs ∧ IsInstant it.endMs := by
  obtain ⟨number, chapter, -, next, -, rfl⟩ := mem_items h
  refine ⟨chapter.isInstant_startMs, ?_⟩
  refine Durations.isInstant_correctEnd hd chapter.isInstant_startMs
    (fun stop => Chapter.isInstant_stopMs) ?_
  intro n hn
  obtain ⟨ch, -, rfl⟩ := Option.map_eq_some_iff.1 hn
  exact ch.isInstant_startMs

/-- An item ends before the next one starts. -/
theorem isChain_items (ctx : ChapterContext) (c : Container) (album : Tag) :
    (ctx.synthesize c album).items.IsChain (fun a b => a.endMs ≤ b.startMs) := by
  rw [items_synthesize, List.isChain_iff_getElem]
  intro i hi
  have hi' : i + 1 < c.playable.length := by simpa using hi
  simp only [List.getElem_mapIdx, endMs_item, startMs_item, List.getElem?_eq_getElem hi',
    Option.map_some]
  exact Durations.correctEnd_le_next ..

/-- There is one item for each playable chapter, in order and numbered from one. Times are not
negative, no item runs into the next one, durations are whole seconds, and no difference of times
that is taken leaves the signed 64-bit numbers. -/
theorem synthesize_ordered (ctx : ChapterContext) (c : Container) (album : Tag)
    (hd : ∀ us, c.durationUs = some us → IsInstant us) :
    let items := (ctx.synthesize c album).items
    (items = c.playable.mapIdx fun i chapter =>
      ctx.item c album (i + 1) chapter (c.playable[i + 1]?.map Chapter.startMs)) ∧
    items.map ChapterItem.startMs = c.playable.map Chapter.startMs ∧
    items.map (·.tag.trackNumber) =
      (List.range c.playable.length).map (fun i => min (i + 1) Text.maxCount) ∧
    (∀ it ∈ items, 0 ≤ it.startMs ∧ 0 ≤ it.endMs) ∧
    items.IsChain (fun a b => a.endMs ≤ b.startMs) ∧
    (∀ it ∈ items, it.tag.duration =
      min (max 0 (it.endMs - it.startMs) / 1000).toNat Text.maxCount) ∧
    (∀ it ∈ items, IsInstant (it.endMs - it.startMs)) ∧
    ∀ chapter ∈ c.playable, ∀ stop, chapter.stopMs = some stop → 0 ≤ stop →
      IsInstant (stop - chapter.startMs) := by
  intro items
  refine ⟨items_synthesize .., ?_, ?_, fun _ => times_nonneg_of_mem_items, isChain_items ..,
    ?_, ?_, ?_⟩
  · apply List.ext_getElem?
    intro i
    simp [items, items_synthesize, Function.comp_def]
  · apply List.ext_getElem?
    intro i
    by_cases hi : i < c.playable.length <;> simp [items, items_synthesize, hi]
  · intro it h
    obtain ⟨number, chapter, -, next, -, rfl⟩ := mem_items h
    exact duration_item ..
  · intro it h
    obtain ⟨hstart, hend⟩ := isInstant_of_mem_items hd h
    obtain ⟨hstart₀, hend₀⟩ := times_nonneg_of_mem_items h
    exact hend.sub hstart hend₀ hstart₀
  · intro chapter h stop hstop hstop₀
    exact (Chapter.isInstant_stopMs hstop).sub chapter.isInstant_startMs hstop₀
      (Chapter.startMs_nonneg (start_nonneg_of_mem_playable h))

/-- Chapters out of order, before zero, without a length of their unit, and late beyond all
bounds. -/
def scattered : Container where
  chapters := [
    ⟨7, some (-4), ⟨1, 0⟩, []⟩,
    ⟨maxInstant, some minInstant, ⟨4294967295, 1⟩, [⟨"TRACK", "9"⟩]⟩,
    ⟨-1, some 5, ⟨1, 1⟩, []⟩,
    ⟨60, some maxInstant, ⟨1, 1⟩, []⟩]
  durationUs := some maxInstant

theorem synthesize_ordered_scattered :
    (∀ us, scattered.durationUs = some us → IsInstant us) ∧
    (ChapterContext.synthesize ⟨"a.mka", .standard, .english, {}⟩ scattered .empty).items.map
      ChapterItem.startMs = [0, maxInstant, 60000] := by
  have hd : ∀ us, scattered.durationUs = some us → IsInstant us := by
    rintro us ⟨⟩
    decide
  exact ⟨hd, (synthesize_ordered _ scattered _ hd).2.1.trans (by decide)⟩

end ChapterContext

end MediaTags
