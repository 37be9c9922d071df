import MediaTags.Opening
import MediaTags.Proofs.Timeline

/-!
# How long tracks are

A track is as long as its frames, where their number and the time that each of them takes are known.
What Matroska declares does not change it. The longest track has to be told in microseconds, for
which it may be too long.
-/

namespace MediaTags

namespace Demux.Track

/-- The unit in which the frames of a track are counted: the one that it declares, or else one frame
of its sample rate. -/
def CountsIn (t : Track) (base : TimeBase) : Prop :=
  t.timeBase = some base ∨
    t.timeBase = none ∧ ∃ rate, t.sampleRate = some rate ∧ 0 < rate ∧ base = ⟨1, rate⟩

/-- A number of frames that fits in a signed 64-bit number. -/
def HasFrames (t : Track) (frames : Int) : Prop :=
  ∃ n : Nat, t.frames = some n ∧ frames = n ∧ frames ≤ maxInstant

/-- A known number of frames and a unit to count them in make a length in milliseconds. -/
def Lasts (t : Track) (ms : Int) : Prop :=
  ∃ frames base, t.HasFrames frames ∧ t.CountsIn base ∧ ms = base.toMillis frames

/-- A length that some of the tracks have and none exceeds. -/
def Longest (tracks : List Track) (ms : Int) : Prop :=
  (∃ t ∈ tracks, t.Lasts ms) ∧ ∀ t ∈ tracks, ∀ other, t.Lasts other → other ≤ ms

/-- One of the tracks has a length that is no signed 64-bit number of microseconds. -/
def Overlong (tracks : List Track) : Prop :=
  ∃ t ∈ tracks, ∃ ms, t.Lasts ms ∧ maxInstant < ms * 1000

theorem unit?_eq_some_iff {t : Track} {base : TimeBase} :
    t.unit? = some base ↔ t.CountsIn base := by
  unfold unit? CountsIn
  cases t.timeBase with
  | some declared => simp
  | none =>
    cases t.sampleRate with
    | none => simp
    | some rate => by_cases hrate : 0 < rate <;> simp [Option.filter, hrate, eq_comm]

theorem duration?_eq_some_iff {t : Track} {frames : Int} :
    t.duration? = some frames ↔ t.HasFrames frames := by
  unfold duration? HasFrames
  rw [Option.filter_eq_some_iff, decide_eq_true_eq, Option.map_eq_some_iff]
  constructor
  · rintro ⟨⟨n, hn, rfl⟩, hle⟩
    exact ⟨n, hn, rfl, hle⟩
  · rintro ⟨n, hn, rfl, hle⟩
    exact ⟨⟨n, hn, rfl⟩, hle⟩

theorem HasFrames.nonneg {t : Track} {frames : Int} (h : t.HasFrames frames) : 0 ≤ frames := by
  obtain ⟨n, -, rfl, -⟩ := h
  exact Int.natCast_nonneg n

theorem durationMs_toStream_eq_some_iff {t : Track} {index : Nat} {ms : Int} :
    (t.toStream index).durationMs = some ms ↔ t.Lasts ms := by
  simp only [Stream.durationMs, toStream, Lasts, ← unit?_eq_some_iff, ← duration?_eq_some_iff]
  cases t.unit? with
  | none => simp
  | some base =>
    cases hframes : t.duration? with
    | none => simp
    | some frames => simp [(duration?_eq_some_iff.1 hframes).nonneg, eq_comm]

theorem Lasts.nonneg {t : Track} {ms : Int} (h : t.Lasts ms) : 0 ≤ ms := by
  obtain ⟨_, base, hframes, -, rfl⟩ := h
  exact base.toMillis_nonneg hframes.nonneg

/-- The lengths of those tracks that have a known one. -/
def lengths (tracks : List Track) : List Int :=
  tracks.filterMap fun t => (t.toStream 0).durationMs

section Lengths

variable {tracks : List Track} {ms : Int}

theorem mem_lengths : ms ∈ lengths tracks ↔ ∃ t ∈ tracks, t.Lasts ms := by
  simp only [lengths, List.mem_filterMap, durationMs_toStream_eq_some_iff]

theorem nonneg_of_mem_lengths (h : ms ∈ lengths tracks) : 0 ≤ ms := by
  obtain ⟨t, -, hlasts⟩ := mem_lengths.1 h
  exact hlasts.nonneg

theorem longest_iff : Longest tracks ms ↔ (lengths tracks).max? = some ms := by
  rw [List.max?_eq_some_iff, mem_lengths, Longest]
  refine and_congr_right fun _ => ⟨fun h d hd => ?_, fun h t ht d hd => ?_⟩
  · obtain ⟨t, ht, hlasts⟩ := mem_lengths.1 hd
    exact h t ht d hlasts
  · exact h d (mem_lengths.2 ⟨t, ht, hd⟩)

theorem exists_longest (h : ∃ t ∈ tracks, ∃ ms, t.Lasts ms) : ∃ ms, Longest tracks ms := by
  obtain ⟨t, ht, ms, hms⟩ := h
  have hne : lengths tracks ≠ [] := List.ne_nil_of_mem (mem_lengths.2 ⟨t, ht, hms⟩)
  obtain ⟨longest, hmax⟩ := Option.isSome_iff_exists.1 (List.isSome_max?_of_ne_nil hne)
  exact ⟨longest, longest_iff.2 hmax⟩

theorem overlong_iff : Overlong tracks ↔ ∃ ms ∈ lengths tracks, maxInstant < ms * 1000 := by
  simp only [Overlong, mem_lengths]
  grind

instance (tracks : List Track) : Decidable (Overlong tracks) :=
  decidable_of_iff _ overlong_iff.symm

/-- If any track is too long, then the longest one is. -/
theorem Longest.overlong_iff (h : Longest tracks ms) :
    Overlong tracks ↔ maxInstant < ms * 1000 := by
  constructor
  · rintro ⟨t, ht, other, hlasts, hlarge⟩
    have hle := h.2 t ht other hlasts
    omega
  · obtain ⟨t, ht, hlasts⟩ := h.1
    exact fun hlarge => ⟨t, ht, ms, hlasts, hlarge⟩

theorem not_overlong_of_lengths_eq_nil (h : lengths tracks = []) : ¬ Overlong tracks := by
  simp [overlong_iff, h]

end Lengths

/-- A track of as many seconds as can be counted. -/
def endless : Track := { frames := some 0x7FFFFFFFFFFFFFFF, timeBase := some ⟨1, 1⟩ }

end Demux.Track

namespace Opening

open Demux.Track (Overlong lengths)

/-- What Matroska declares about a track does not change how long its stream is. -/
theorem map_durationMs_streams (info : Option Matroska.Info) (tracks : List Demux.Track) :
    (streams info tracks).map Stream.durationMs =
      tracks.map fun t => (t.toStream 0).durationMs := by
  refine List.ext_getElem (by simp [streams]) fun i _ _ => ?_
  simp only [streams, List.getElem_map, List.getElem_mapIdx]
  split <;> rfl

theorem filterMap_durationMs_streams (info : Option Matroska.Info) (tracks : List Demux.Track) :
    (streams info tracks).filterMap Stream.durationMs = lengths tracks := by
  rw [← Function.id_comp Stream.durationMs, ← List.filterMap_map, map_durationMs_streams,
    List.filterMap_map]
  rfl

/-- The longest length in microseconds, if it fits. -/
theorem longestUs?_streams (info : Option Matroska.Info) (tracks : List Demux.Track) :
    longestUs? (streams info tracks) =
      if Overlong tracks then .error .overflow
      else .ok ((lengths tracks).max?.map (· * 1000)) := by
  have hfilter : (lengths tracks).filter (0 ≤ ·) = lengths tracks := by
    rw [List.filter_eq_self]
    exact fun ms hms => decide_eq_true (Demux.Track.nonneg_of_mem_lengths hms)
  rw [longestUs?, filterMap_durationMs_streams, hfilter]
  cases hmax : (lengths tracks).max? with
  | none =>
    rw [if_neg (Demux.Track.not_overlong_of_lengths_eq_nil (List.max?_eq_none_iff.1 hmax))]
    rfl
  | some ms =>
    have hlonger := (Demux.Track.longest_iff.2 hmax).overlong_iff
    by_cases hfits : ms * 1000 ≤ maxInstant
    · simp [hlonger, hfits]
    · simp [hlonger, hfits, not_le.1 hfits]

end Opening

end MediaTags
