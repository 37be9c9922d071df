import Mathlib.Data.Rat.Floor
import MediaTags.Proofs.Timeline

/-!
# Milliseconds against the exact time

A timestamp stands for a rational number of milliseconds. The whole milliseconds made from it are
that number without its fraction, or the signed 64-bit number nearest to it. So they never go
backwards while the timestamps go forwards, they keep the sign, and it is all one whether a time is
counted in few units or in more of a finer kind.

The conversion is also done in 128 bits, where it breaks off when a step does not fit. All of its
steps fit.
-/

namespace MediaTags

/-! ## Fractions -/

/-- A rational number without its fraction. -/
def truncate (q : ℚ) : Int := if 0 ≤ q then ⌊q⌋ else ⌈q⌉

theorem truncate_intCast_div_natCast (n : Int) (d : Nat) : truncate (n / d) = n.tdiv d := by
  obtain rfl | hd := Nat.eq_zero_or_pos d
  · simp [truncate]
  have hd' : (0 : ℚ) < d := by exact_mod_cast hd
  by_cases hn : 0 ≤ n
  · have hq : (0 : ℚ) ≤ n / d := div_nonneg (by exact_mod_cast hn) hd'.le
    rw [truncate, if_pos hq, Rat.floor_intCast_div_natCast, Int.tdiv_eq_ediv_of_nonneg hn]
  · -- rounding up a negative number is rounding down its opposite
    have hq : (n / d : ℚ) < 0 := div_neg_of_neg_of_pos (by exact_mod_cast not_le.1 hn) hd'
    have hneg : n.tdiv d = -(-n / d) := by
      rw [← Int.tdiv_eq_ediv_of_nonneg (by omega), Int.neg_tdiv, neg_neg]
    rw [truncate, if_neg hq.not_ge, Rat.ceil_intCast_div_natCast, hneg]

/-! ## 128 bits -/

/-- The signed 128-bit numbers. -/
def IsWide (n : Int) : Prop := -(2 ^ 127) ≤ n ∧ n < 2 ^ 127

instance (n : Int) : Decidable (IsWide n) := inferInstanceAs (Decidable (_ ∧ _))

theorem isWide_of_natAbs_lt {n : Int} (h : n.natAbs < 2 ^ 127) : IsWide n := by
  simp only [IsWide]
  omega

theorem IsInstant.natAbs_le {n : Int} (h : IsInstant n) : n.natAbs ≤ 2 ^ 63 := by
  simp only [IsInstant, minInstant, maxInstant] at h
  omega

/-- The result of a step, unless it does not fit. -/
def wide? (n : Int) : Option Int := if IsWide n then some n else none

/-- The signed 64-bit number that agrees with `n` modulo `UInt64.size`. -/
def wrapInstant (n : Int) : Int := n.bmod UInt64.size

theorem wrapInstant_eq_self {n : Int} (h : IsInstant n) : wrapInstant n = n := by
  simp only [IsInstant, wrapInstant, Int.bmod, UInt64.size, minInstant, maxInstant] at *
  omega

theorem wide?_eq_some {n : Int} (h : IsWide n) : wide? n = some n := if_pos h

namespace TimeBase

/-- The time that a timestamp stands for, in milliseconds. -/
def exactMillis (b : TimeBase) (ts : Int) : ℚ := ts * 1000 * b.numer / b.denom

/-- The conversion in 128 bits, of which 64 are kept at the end. -/
def wideMillis? (b : TimeBase) (ts : Int) : Option Int :=
  if b.denom = 0 then some 0
  else do
    let thousandths ← wide? (ts * 1000)
    let product ← wide? (thousandths * b.numer)
    let ms ← wide? (product.tdiv b.denom)
    return wrapInstant (clampInstant ms)

variable (b : TimeBase)

theorem toMillis_eq_clampInstant (ts : Int) :
    b.toMillis ts = clampInstant ((ts * 1000 * b.numer).tdiv b.denom) := by
  unfold toMillis
  split
  · next h =>
    rw [h, Int.natCast_zero, Int.tdiv_zero]
    rfl
  · rfl

theorem toMillis_eq_clampInstant_truncate (ts : Int) :
    b.toMillis ts = clampInstant (truncate (b.exactMillis ts)) := by
  have hcast : b.exactMillis ts = ((ts * 1000 * b.numer : Int) : ℚ) / b.denom := by
    rw [exactMillis]
    push_cast
    rfl
  rw [toMillis_eq_clampInstant, hcast, truncate_intCast_div_natCast]

theorem toMillis_mono : Monotone b.toMillis := by
  intro ts later h
  unfold toMillis
  split
  · exact le_rfl
  · next hdenom =>
    have hpos : (0 : Int) < b.denom := by omega
    have hproduct : ts * 1000 * b.numer ≤ later * 1000 * b.numer := by gcongr
    exact clampInstant_mono (Int.tdiv_le_tdiv hpos hproduct)

theorem toMillis_nonpos {ts : Int} (h : ts ≤ 0) : b.toMillis ts ≤ 0 := by
  have hzero : b.toMillis 0 = 0 := by
    rw [toMillis_eq_clampInstant, Int.zero_mul, Int.zero_mul, Int.zero_tdiv]
    rfl
  exact hzero ▸ b.toMillis_mono h

theorem toMillis_mul {k : Nat} (hk : 0 < k) (ts : Int) :
    ({ b with denom := b.denom * k } : TimeBase).toMillis (ts * k) = b.toMillis ts := by
  have hproduct : ts * k * 1000 * b.numer = ts * 1000 * b.numer * k := by ring
  rw [toMillis_eq_clampInstant, toMillis_eq_clampInstant, hproduct, Int.natCast_mul,
    Int.mul_tdiv_mul_of_pos_left _ _ (by exact_mod_cast hk)]

variable {b}

/-- None of the steps comes near the limits of 128 bits. -/
theorem wideMillis?_eq (hnumer : b.numer < UInt32.size) {ts : Int} (hts : IsInstant ts) :
    b.wideMillis? ts = some (b.toMillis ts) := by
  have hthousandths : (ts * 1000).natAbs ≤ 2 ^ 63 * 1000 := by
    rw [Int.natAbs_mul]
    exact Nat.mul_le_mul_right _ hts.natAbs_le
  have hproduct : (ts * 1000 * b.numer).natAbs ≤ 2 ^ 63 * 1000 * UInt32.size := by
    rw [Int.natAbs_mul, Int.natAbs_natCast]
    exact Nat.mul_le_mul hthousandths hnumer.le
  have hquotient := (Int.natAbs_tdiv_le_natAbs (ts * 1000 * b.numer) b.denom).trans hproduct
  unfold wideMillis? toMillis
  split
  · rfl
  · simp only [Option.bind_eq_bind, Option.bind_some, Option.pure_def,
      wide?_eq_some (isWide_of_natAbs_lt (hthousandths.trans_lt (by decide))),
      wide?_eq_some (isWide_of_natAbs_lt (hproduct.trans_lt (by decide))),
      wide?_eq_some (isWide_of_natAbs_lt (hquotient.trans_lt (by decide))),
      wrapInstant_eq_self (isInstant_clampInstant _)]

/-- The whole milliseconds of a timestamp are the exact time without its fraction, clamped to 64
bits, and no step on the way there leaves 128 bits. A later timestamp has no fewer of them, their
sign is that of the timestamp unless they are zero, and units of a `k`-th of the length give the
same for `k` times as many. -/
theorem toMillis_exact (hnumer : b.numer < UInt32.size) {ts : Int} (hts : IsInstant ts) :
    b.wideMillis? ts = some (b.toMillis ts) ∧
    b.toMillis ts = max (-2 ^ 63) (min (2 ^ 63 - 1) (truncate (b.exactMillis ts))) ∧
    (∀ later, ts ≤ later → b.toMillis ts ≤ b.toMillis later) ∧
    (0 ≤ ts → 0 ≤ b.toMillis ts) ∧ (ts ≤ 0 → b.toMillis ts ≤ 0) ∧
    ∀ k : Nat, 0 < k →
      ({ b with denom := b.denom * k } : TimeBase).toMillis (ts * k) = b.toMillis ts := by
  refine ⟨wideMillis?_eq hnumer hts, ?_, fun later h => b.toMillis_mono h, b.toMillis_nonneg,
    b.toMillis_nonpos, fun k hk => b.toMillis_mul hk ts⟩
  rw [toMillis_eq_clampInstant_truncate, clampInstant, min_comm]
  rfl

/-- The length of a frame of video. -/
def frame : TimeBase := ⟨1001, 30000⟩

theorem toMillis_exact_frame :
    (frame.numer < UInt32.size ∧ IsInstant (-100)) ∧
    frame.wideMillis? (-100) = some (-3336) ∧ truncate (frame.exactMillis (-100)) = -3336 ∧
    frame.toMillis (-100) ≤ frame.toMillis 100 ∧ frame.toMillis (-100) ≤ 0 ∧
    TimeBase.toMillis ⟨1001, 60000⟩ (-200) = frame.toMillis (-100) := by
  have hnumer : frame.numer < UInt32.size := by decide
  have hts : IsInstant (-100) := by decide
  obtain ⟨hwide, hexact, hlater, -, hsign, hfiner⟩ := toMillis_exact hnumer hts
  have hmillis : frame.toMillis (-100) = -3336 := by decide
  refine ⟨⟨hnumer, hts⟩, hmillis ▸ hwide, ?_, hlater 100 (by decide), hsign (by decide),
    hfiner 2 (by decide)⟩
  rw [hmillis] at hexact
  omega

end TimeBase

end MediaTags
