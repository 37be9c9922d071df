import Mathlib.Tactic
import MediaTags.Timeline

/-!
# Bounds on milliseconds

Every timestamp in milliseconds is a signed 64-bit number, and it is not negative when the
timestamp is not.
-/

namespace MediaTags

/-- The signed 64-bit numbers. -/
def IsInstant (n : Int) : Prop := minInstant ≤ n ∧ n ≤ maxInstant

instance (n : Int) : Decidable (IsInstant n) := inferInstanceAs (Decidable (_ ∧ _))

theorem isInstant_clampInstant (n : Int) : IsInstant (clampInstant n) := by
  simp only [IsInstant, clampInstant, minInstant, maxInstant]
  omega

theorem clampInstant_eq_self {n : Int} (h : IsInstant n) : clampInstant n = n := by
  simp only [IsInstant, clampInstant, minInstant, maxInstant] at *
  omega

theorem clampInstant_nonneg {n : Int} (h : 0 ≤ n) : 0 ≤ clampInstant n := by
  simp only [clampInstant, minInstant, maxInstant]
  omega

theorem clampInstant_mono : Monotone clampInstant := fun m n h => by
  simp only [clampInstant]
  omega

/-- Instants that are not negative can be subtracted. -/
theorem IsInstant.sub {m n : Int} (hm : IsInstant m) (hn : IsInstant n) (hm₀ : 0 ≤ m)
    (hn₀ : 0 ≤ n) : IsInstant (m - n) := by
  simp only [IsInstant, minInstant, maxInstant] at *
  omega

namespace TimeBase

theorem isInstant_toMillis (b : TimeBase) (ts : Int) : IsInstant (b.toMillis ts) := by
  unfold toMillis
  split
  · decide
  · exact isInstant_clampInstant _

theorem toMillis_nonneg (b : TimeBase) {ts : Int} (h : 0 ≤ ts) : 0 ≤ b.toMillis ts := by
  unfold toMillis
  split
  · exact le_rfl
  · exact clampInstant_nonneg (Int.tdiv_nonneg (by positivity) (by positivity))

end TimeBase

end MediaTags
