import MediaTags.Codec
import MediaTags.Proofs.Timeline

/-!
# How many seconds a probed file is said to last

A stream of a second or more counts its own whole seconds, up to the largest 32-bit number. For a
shorter one, or one of unknown length, those of the container are counted, of which 32 bits are
kept: a container of 2³² seconds or more is said to be shorter than it is.
-/

namespace MediaTags

/-- A time that is not negative has its seconds rounded down, and what is cut off on the way there
does not show below the largest 32-bit number. -/
theorem TimeBase.toMillis_div (b : TimeBase) {ts : Int} (h : 0 ≤ ts) :
    min (b.toMillis ts / 1000).toNat Text.maxCount =
      min (ts.toNat * b.numer / b.denom) Text.maxCount := by
  obtain ⟨n, rfl⟩ := Int.eq_ofNat_of_zero_le h
  unfold toMillis
  split
  · next hzero => simp [hzero]
  · next hdenom =>
    have hmillis : ((n : Int) * 1000 * b.numer).tdiv b.denom =
        ((n * 1000 * b.numer / b.denom : Nat) : Int) := by
      rw [Int.tdiv_eq_ediv_of_nonneg (by positivity)]
      norm_cast
    have hseconds : n * 1000 * b.numer / b.denom / 1000 = n * b.numer / b.denom := by
      rw [Nat.div_div_eq_div_mul, Nat.mul_right_comm,
        Nat.mul_div_mul_right _ _ (by decide : 0 < 1000)]
    rw [hmillis, Int.toNat_natCast, ← hseconds]
    -- milliseconds that are clamped are seconds far above the minimum
    generalize n * 1000 * b.numer / b.denom = millis
    simp only [clampInstant, minInstant, maxInstant, Text.maxCount, UInt32.size]
    omega

/-- Keeping 32 bits is the same as stopping at the largest number of that size where nothing is cut
off, and by chance where all the bits that are kept are set. -/
theorem mod_eq_min_iff {n : Nat} :
    n % UInt32.size = min n Text.maxCount ↔
      n ≤ Text.maxCount ∨ n % UInt32.size = Text.maxCount := by
  have hmax : Text.maxCount + 1 = UInt32.size := by decide
  constructor
  · intro h
    by_cases hn : n ≤ Text.maxCount
    · exact .inl hn
    · exact .inr (by rw [h, Nat.min_eq_right (by omega)])
  · rintro (hn | hset)
    · rw [Nat.mod_eq_of_lt (by omega), Nat.min_eq_left hn]
    · rw [hset, Nat.min_eq_right (hset ▸ Nat.mod_le n _)]

namespace Stream

/-- The whole seconds of the declared duration. -/
def seconds (s : Stream) : Nat :=
  match s.timeBase, s.duration with
  | some base, some d => d.toNat * base.numer / base.denom
  | _, _ => 0

theorem duration_facts (s : Stream) : s.facts.duration = min s.seconds Text.maxCount := by
  have hfacts : s.facts.duration = min (wholeSeconds s.durationMs) Text.maxCount := rfl
  rw [hfacts, durationMs, seconds]
  cases s.timeBase with
  | none => rfl
  | some base =>
    cases s.duration with
    | none => rfl
    | some d =>
      by_cases hd : 0 ≤ d
      · simp only [if_pos hd]
        exact base.toMillis_div hd
      · have hzero : d.toNat = 0 := by omega
        simp [hd, hzero, wholeSeconds]

end Stream

namespace Container

/-- The whole seconds of the declared duration. -/
def seconds (c : Container) : Nat :=
  match c.durationUs with
  | some us => us.toNat / 1000000
  | none => 0

theorem wholeSeconds_durationMs (c : Container) : Stream.wholeSeconds c.durationMs = c.seconds := by
  unfold durationMs seconds
  cases c.durationUs with
  | none => rfl
  | some us =>
    simp only [Option.map_some, Stream.wholeSeconds]
    by_cases hus : 0 ≤ us
    · rw [Int.tdiv_eq_ediv_of_nonneg hus]
      omega
    · have hmillis : 0 ≤ (-us).tdiv 1000 := Int.tdiv_nonneg (by omega) (by decide)
      rw [Int.neg_tdiv] at hmillis
      omega

theorem seconds_le {c longer : Container}
    (h : ∀ us, c.durationUs = some us → ∃ us', longer.durationUs = some us' ∧ us ≤ us') :
    c.seconds ≤ longer.seconds := by
  cases hus : c.durationUs with
  | none => simp [seconds, hus]
  | some us =>
    obtain ⟨us', hus', hle⟩ := h us hus
    simp only [seconds, hus, hus']
    omega

/-- The reported duration is the stream's as long as that is not zero. -/
theorem exists_duration_probeCodec {c : Container} {s : Stream} (hs : c.firstAudio? = some s) :
    ∃ facts, c.probeCodec = .ok facts ∧ facts.duration =
      if s.seconds = 0 then c.seconds % UInt32.size else min s.seconds Text.maxCount := by
  have hzero : s.facts.duration = 0 ↔ s.seconds = 0 := by
    rw [s.duration_facts, Text.maxCount, UInt32.size]
    omega
  rw [probeCodec, hs]
  refine ⟨_, rfl, ?_⟩
  by_cases h : s.seconds = 0
  · rw [if_pos h, if_pos (hzero.2 h), c.wholeSeconds_durationMs]
  · rw [if_neg h, if_neg (mt hzero.1 h), s.duration_facts]

/-- The duration that is reported for a container with an audio stream. A stream of a second or
more reports its whole seconds, or the largest 32-bit number where they are more. Otherwise the
lowest 32 bits of the container's whole seconds are reported: all of them up to that number, and
beyond it the number itself only where every bit that is kept is set. A longer container is not
reported shorter as long as no bits are lost. -/
theorem probeCodec_duration {c : Container} {s : Stream} (hs : c.firstAudio? = some s) :
    ∃ facts, c.probeCodec = .ok facts ∧
      (1 ≤ s.seconds → facts.duration = min s.seconds Text.maxCount) ∧
      (s.seconds = 0 → facts.duration = c.seconds % UInt32.size ∧
        (facts.duration = min c.seconds Text.maxCount ↔
          c.seconds ≤ Text.maxCount ∨ facts.duration = Text.maxCount)) ∧
      ∀ longer : Container, longer.streams = c.streams →
        (∀ us, c.durationUs = some us → ∃ us', longer.durationUs = some us' ∧ us ≤ us') →
        (s.seconds = 0 → longer.seconds ≤ Text.maxCount) →
        ∃ facts', longer.probeCodec = .ok facts' ∧ facts.duration ≤ facts'.duration := by
  obtain ⟨facts, hfacts, hduration⟩ := exists_duration_probeCodec hs
  refine ⟨facts, hfacts, fun hlong => ?_, fun hshort => ?_, fun longer hstreams hle hfits => ?_⟩
  · rw [hduration, if_neg (by omega)]
  · rw [hduration, if_pos hshort]
    exact ⟨rfl, mod_eq_min_iff⟩
  · have hs' : longer.firstAudio? = some s := by rw [← hs, firstAudio?, firstAudio?, hstreams]
    obtain ⟨facts', hfacts', hduration'⟩ := exists_duration_probeCodec hs'
    refine ⟨facts', hfacts', ?_⟩
    rw [hduration, hduration']
    split
    · next hzero =>
      have hseconds : c.seconds ≤ longer.seconds := seconds_le hle
      have hmax : Text.maxCount + 1 = UInt32.size := by decide
      rw [Nat.mod_eq_of_lt (by have := hfits hzero; omega),
        Nat.mod_eq_of_lt (by have := hfits hzero; omega)]
      exact hseconds
    · exact le_rfl

namespace Unmarked

/-- A stream that does not say how long it is. -/
def stream : Stream := { codec := .flac }

/-- A container of that many seconds around it. -/
def lasting (seconds : Int) : Container :=
  { streams := [stream], durationUs := some (seconds * 1000000) }

end Unmarked

open Unmarked in
theorem probeCodec_duration_unmarked :
    (lasting 180).firstAudio? = some stream ∧
    ∃ facts, (lasting 180).probeCodec = .ok facts ∧ facts.duration = 180 ∧
      ∃ facts', (lasting 4294967295).probeCodec = .ok facts' ∧
        facts.duration ≤ facts'.duration := by
  have hs : (lasting 180).firstAudio? = some stream := rfl
  obtain ⟨facts, hfacts, -, hshort, hlonger⟩ := probeCodec_duration hs
  have hduration : facts.duration = 180 := (hshort rfl).1
  have hle : ∀ us, (lasting 180).durationUs = some us →
      ∃ us', (lasting 4294967295).durationUs = some us' ∧ us ≤ us' := by
    rintro us ⟨⟩
    exact ⟨_, rfl, by decide⟩
  exact ⟨hs, facts, hfacts, hduration, hlonger _ rfl hle fun _ => by decide⟩

open Unmarked in
/-- The second that no longer fits into 32 bits leaves nothing of all the others. -/
theorem long_container_reported_empty :
    (lasting 4294967295).probeCodec.toOption.map (·.duration) = some 4294967295 ∧
    (lasting 4294967296).probeCodec.toOption.map (·.duration) = some 0 := by
  constructor <;> rfl

end Container

end MediaTags
