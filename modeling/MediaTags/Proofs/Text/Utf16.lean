import Mathlib.Tactic
import MediaTags.Text.Utf16
import MediaTags.Proofs.Text.Utf8

/-!
# What was encoded in UTF-16 is read back

A character is one code unit or a pair of surrogates, and each unit is two bytes in either order.
Units are put together from bytes and characters from units, whatever follows them.
-/

namespace MediaTags.Text.Utf16

/-- A character is encoded in one unit that is no surrogate, or in a pair of surrogates. -/
theorem encodeChar_cases (c : Char) :
    (encodeChar c = [c.toNat] ∧ c.toNat < 0x10000 ∧ isHigh c.toNat = false ∧
      isLow c.toNat = false) ∨
    ∃ high low, encodeChar c = [high, low] ∧ isHigh high ∧ isLow low ∧ pair high low = c := by
  have hc := Utf8.toNat_bounds c
  by_cases hplane : c.toNat < 0x10000
  · refine .inl ⟨by simp [encodeChar, hplane], hplane, ?_, ?_⟩
    · simp only [isHigh, Bool.and_eq_false_iff, decide_eq_false_iff_not]
      omega
    · simp only [isLow, Bool.and_eq_false_iff, decide_eq_false_iff_not]
      omega
  · refine .inr ⟨0xD800 + (c.toNat - 0x10000) / 0x400, 0xDC00 + (c.toNat - 0x10000) % 0x400,
      by simp [encodeChar, hplane], ?_, ?_, ?_⟩
    · simp only [isHigh, Bool.and_eq_true, decide_eq_true_eq]
      omega
    · simp only [isLow, Bool.and_eq_true, decide_eq_true_eq]
      omega
    · have hn : 0x10000 + (0xD800 + (c.toNat - 0x10000) / 0x400 - 0xD800) * 0x400 +
          (0xDC00 + (c.toNat - 0x10000) % 0x400 - 0xDC00) = c.toNat := by
        omega
      rw [pair, hn, Char.ofNat_toNat]

/-- Every unit of a character fits in two bytes. -/
theorem lt_of_mem_encodeChar {c : Char} {u : Nat} (hu : u ∈ encodeChar c) : u < 0x10000 := by
  obtain ⟨hone, hlt, -, -⟩ | ⟨high, low, hpair, hhigh, hlow, -⟩ := encodeChar_cases c
  · rw [hone, List.mem_singleton] at hu
    exact hu ▸ hlt
  · simp only [isHigh, isLow, Bool.and_eq_true, decide_eq_true_eq] at hhigh hlow
    rw [hpair, List.mem_pair] at hu
    omega

theorem single_eq {c : Char} (hhigh : isHigh c.toNat = false) (hlow : isLow c.toNat = false) :
    single c.toNat = c := by
  rw [single, hhigh, hlow, Char.ofNat_toNat]
  rfl

/-- The units of a character are read as that character, whatever follows them. -/
theorem decodeLossy_encodeChar_append (c : Char) (us : List Nat) :
    decodeLossy (encodeChar c ++ us) = c :: decodeLossy us := by
  obtain ⟨hone, -, hhigh, hlow⟩ | ⟨high, low, hpair, hhigh, hlow, hc⟩ := encodeChar_cases c
  · rw [hone]
    cases us with
    | nil => simp [decodeLossy, single_eq hhigh hlow]
    | cons u us => simp [decodeLossy, hhigh, single_eq hhigh hlow]
  · simp [hpair, decodeLossy, hhigh, hlow, hc]

theorem decodeLossy_flatMap_encodeChar (cs : List Char) :
    decodeLossy (cs.flatMap encodeChar) = cs := by
  induction cs with
  | nil => rfl
  | cons c cs ih => rw [List.flatMap_cons, decodeLossy_encodeChar_append, ih]

/-- Two bytes make up a unit again, in the order in which they were written. -/
theorem units_encodeUnit_append (order : ByteOrder) {u : Nat} (hu : u < 0x10000)
    (bs : List UInt8) : units order (encodeUnit order u ++ bs) = u :: units order bs := by
  have hhigh : (UInt8.ofNat (u / 256)).toNat = u / 256 := by
    rw [UInt8.toNat_ofNat']
    omega
  have hlow : (UInt8.ofNat (u % 256)).toNat = u % 256 := by
    rw [UInt8.toNat_ofNat']
    omega
  cases order with
  | big =>
    simp only [encodeUnit, List.cons_append, List.nil_append, units, hhigh, hlow]
    rw [Nat.div_add_mod']
  | little =>
    simp only [encodeUnit, List.cons_append, List.nil_append, units, hhigh, hlow]
    rw [Nat.div_add_mod']

theorem units_flatMap_encodeUnit (order : ByteOrder) {us : List Nat} (hus : ∀ u ∈ us, u < 0x10000) :
    units order (us.flatMap (encodeUnit order)) = us := by
  induction us with
  | nil => rfl
  | cons u us ih =>
    rw [List.forall_mem_cons] at hus
    rw [List.flatMap_cons, units_encodeUnit_append order hus.1, ih hus.2]

/-- What was encoded in either byte order is read back. -/
theorem decodeLossy_encode (order : ByteOrder) (cs : List Char) :
    decodeLossy (units order (encode order cs)) = cs := by
  have hunits : ∀ u ∈ cs.flatMap encodeChar, u < 0x10000 := by
    intro u hu
    obtain ⟨c, -, hc⟩ := List.mem_flatMap.1 hu
    exact lt_of_mem_encodeChar hc
  rw [encode, units_flatMap_encodeUnit order hunits, decodeLossy_flatMap_encodeChar]

end MediaTags.Text.Utf16
