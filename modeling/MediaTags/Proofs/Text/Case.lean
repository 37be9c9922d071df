import Mathlib.Tactic
import MediaTags.Proofs.Text.Blank
import MediaTags.Text.Case

/-!
# Uppercasing twice

An uppercase text is its own uppercase form, and blanks have no case: none is made and none is
lost. What is said of all characters at once rests on three checks of the case table.
-/

namespace MediaTags.Text

/-- The code points with the property `White_Space`. -/
def blanks : List Nat :=
  [9, 10, 11, 12, 13, 0x20, 0x85, 0xA0, 0x1680, 0x2000, 0x2001, 0x2002, 0x2003, 0x2004, 0x2005,
   0x2006, 0x2007, 0x2008, 0x2009, 0x200A, 0x2028, 0x2029, 0x202F, 0x205F, 0x3000]

theorem isBlank_iff {c : Char} : isBlank c ↔ c.toNat ∈ blanks := by
  simp [isBlank, blanks]
  omega

namespace CaseRun

/-- A run gives a code point another one. -/
def Covers (r : CaseRun) (n : Nat) : Prop :=
  r.first ≤ n ∧ n ≤ r.last ∧ (n - r.first) % r.step = 0

/-- The run of the code points that a run gives. -/
def image (r : CaseRun) : CaseRun :=
  ⟨(r.first + r.shift).toNat, (r.last + r.shift).toNat, r.step, 0⟩

/-- The run of one code point. -/
def single (n : Nat) : CaseRun := ⟨n, n, 1, 0⟩

/-- Two runs have no code point in common: they lie apart, or one has every second code point and
the other has only code points in between. -/
def isApart (r q : CaseRun) : Bool :=
  Nat.blt r.last q.first || (Nat.blt q.last r.first ||
    (q.step == 2 && (r.step == 2 || r.first == r.last) && (r.first + q.first) % 2 == 1))

/-- The code points that a run gives are characters. -/
def isSound (r : CaseRun) : Bool :=
  0 ≤ r.first + r.shift &&
    (r.image.last < 0xD800 || (0xDFFF < r.image.first && r.image.last < 0x110000))

theorem not_covers_of_isApart {r q : CaseRun} (h : r.isApart q) {n : Nat} (hr : r.Covers n) :
    ¬ q.Covers n := by
  rintro ⟨hfirst, hlast, hstep⟩
  obtain ⟨hfirst', hlast', hstep'⟩ := hr
  simp only [isApart, Nat.blt_eq, Bool.or_eq_true, Bool.and_eq_true, beq_iff_eq] at h
  obtain h | h | ⟨⟨hq, hr⟩, hodd⟩ := h
  · omega
  · omega
  · rw [hq] at hstep
    obtain hr | hr := hr
    · rw [hr] at hstep'
      omega
    · omega

theorem covers_single (n : Nat) : (single n).Covers n := by simp [Covers, single]

theorem Covers.image {r : CaseRun} (hr : r.isSound) {n : Nat} (h : r.Covers n) :
    r.image.Covers (n + r.shift).toNat := by
  obtain ⟨hfirst, hlast, hstep⟩ := h
  simp only [isSound, Bool.and_eq_true, decide_eq_true_eq] at hr
  have hsub : (n + r.shift).toNat - (r.first + r.shift).toNat = n - r.first := by omega
  refine ⟨?_, ?_, ?_⟩
  · change (r.first + r.shift).toNat ≤ _
    omega
  · change _ ≤ (r.last + r.shift).toNat
    omega
  · change ((n + r.shift).toNat - (r.first + r.shift).toNat) % r.step = 0
    rw [hsub, hstep]

theorem toNat_ofNat_of_image {r : CaseRun} (hr : r.isSound) {n : Nat} (h : r.image.Covers n) :
    (Char.ofNat n).toNat = n := by
  have hvalid : n.isValidChar := by
    obtain ⟨hfirst, hlast, -⟩ := h
    simp only [isSound, Bool.and_eq_true, Bool.or_eq_true, decide_eq_true_eq] at hr
    rw [Nat.isValidChar]
    omega
  rw [Char.ofNat, dif_pos hvalid]
  rfl

end CaseRun

theorem isSound_upperRuns : ∀ r ∈ upperRuns, r.isSound := by decide +kernel

/-- No run gives a code point that has an uppercase form of one character. -/
theorem isApart_upperRuns : upperRuns.all fun r => upperRuns.all r.image.isApart := by
  decide +kernel

/-- No run gives a code point that has an uppercase form of several characters, or a blank. -/
theorem isApart_singles : upperRuns.all fun r =>
    (upperSpecials.map Prod.fst ++ blanks).all fun n => r.image.isApart (.single n) := by
  decide +kernel

/-! ## One character -/

theorem shiftCase_eq_or (runs : List CaseRun) (n : Nat) :
    shiftCase runs n = n ∨
      ∃ r ∈ runs, r.Covers n ∧ shiftCase runs n = (n + r.shift).toNat := by
  unfold shiftCase
  split
  · next r hfind =>
    split
    · next hcovers =>
      have hlast : n ≤ r.last := by simpa using List.find?_some hfind
      exact .inr ⟨r, List.mem_of_find?_eq_some hfind, ⟨hcovers.1, hlast, hcovers.2⟩, rfl⟩
    · exact .inl rfl
  · exact .inl rfl

/-- A character has itself for an uppercase form, or several characters, or the one that a run
gives. -/
theorem upperChar_cases (c : Char) :
    upperChar c = [c] ∨ (∃ p ∈ upperSpecials, p.1 = c.toNat ∧ upperChar c = p.2.map Char.ofNat) ∨
      ∃ r ∈ upperRuns, r.Covers c.toNat ∧ upperChar c = [Char.ofNat (c.toNat + r.shift).toNat] := by
  have hshift : [Char.ofNat (shiftCase upperRuns c.toNat)] = [c] ∨ ∃ r ∈ upperRuns,
      r.Covers c.toNat ∧ [Char.ofNat (shiftCase upperRuns c.toNat)] =
        [Char.ofNat (c.toNat + r.shift).toNat] := by
    obtain h | ⟨r, hr, hcovers, h⟩ := shiftCase_eq_or upperRuns c.toNat
    · exact .inl (by rw [h, Char.ofNat_toNat])
    · exact .inr ⟨r, hr, hcovers, by rw [h]⟩
  unfold upperChar mapCase
  split
  · next n image hfind =>
    split
    · next hn => exact .inr (.inl ⟨(n, image), List.mem_of_find?_eq_some hfind, hn, rfl⟩)
    · exact hshift.imp_right .inr
  · exact hshift.imp_right .inr

/-- A code point that the tables do not mention has no other form. -/
theorem upperChar_eq_self {c : Char} (hspecials : ∀ p ∈ upperSpecials, p.1 ≠ c.toNat)
    (hruns : ∀ r ∈ upperRuns, ¬ r.Covers c.toNat) : upperChar c = [c] := by
  obtain h | ⟨p, hp, hc, -⟩ | ⟨r, hr, hc, -⟩ := upperChar_cases c
  · exact h
  · exact absurd hc (hspecials p hp)
  · exact absurd hc (hruns r hr)

theorem upperChar_ne_nil (c : Char) : upperChar c ≠ [] := by
  have hspecials : ∀ p ∈ upperSpecials, p.2 ≠ [] := by decide +kernel
  obtain h | ⟨p, hp, -, h⟩ | ⟨r, -, -, h⟩ := upperChar_cases c
  · simp [h]
  · simpa [h] using hspecials p hp
  · simp [h]

/-- What uppercasing gives is uppercase. -/
theorem upperChar_of_mem {c d : Char} (hd : d ∈ upperChar c) : upperChar d = [d] := by
  have hspecials : ∀ p ∈ upperSpecials, ∀ n ∈ p.2, upperChar (Char.ofNat n) = [Char.ofNat n] := by
    decide +kernel
  obtain h | ⟨p, hp, -, h⟩ | ⟨r, hr, hcovers, h⟩ := upperChar_cases c
  · obtain rfl : d = c := by simpa [h] using hd
    exact h
  · obtain ⟨n, hn, rfl⟩ := List.mem_map.1 (h ▸ hd)
    exact hspecials p hp n hn
  · obtain rfl : d = Char.ofNat (c.toNat + r.shift).toNat := by simpa [h] using hd
    have himage := hcovers.image (isSound_upperRuns r hr)
    have hnat := CaseRun.toNat_ofNat_of_image (isSound_upperRuns r hr) himage
    refine upperChar_eq_self (fun p hp heq => ?_) fun q hq => ?_
    · have happart := List.all_eq_true.1 (List.all_eq_true.1 isApart_singles r hr) p.1
        (List.mem_append_left _ (List.mem_map_of_mem hp))
      rw [hnat] at heq
      exact CaseRun.not_covers_of_isApart happart himage (heq ▸ CaseRun.covers_single _)
    · rw [hnat]
      exact CaseRun.not_covers_of_isApart
        (List.all_eq_true.1 (List.all_eq_true.1 isApart_upperRuns r hr) q hq) himage

theorem upperChar_of_isBlank {c : Char} (h : isBlank c) : upperChar c = [c] := by
  have hblanks : ∀ n ∈ blanks, upperChar (Char.ofNat n) = [Char.ofNat n] := by decide +kernel
  simpa using hblanks c.toNat (isBlank_iff.1 h)

/-- Uppercasing makes no blanks. -/
theorem isBlank_of_mem_upperChar {c d : Char} (hd : d ∈ upperChar c) (h : isBlank d) :
    isBlank c := by
  have hspecials : ∀ p ∈ upperSpecials, ∀ n ∈ p.2, isBlank (Char.ofNat n) = false := by
    decide +kernel
  obtain hc | ⟨p, hp, -, hc⟩ | ⟨r, hr, hcovers, hc⟩ := upperChar_cases c
  · obtain rfl : d = c := by simpa [hc] using hd
    exact h
  · obtain ⟨n, hn, rfl⟩ := List.mem_map.1 (hc ▸ hd)
    simp [hspecials p hp n hn] at h
  · obtain rfl : d = Char.ofNat (c.toNat + r.shift).toNat := by simpa [hc] using hd
    have himage := hcovers.image (isSound_upperRuns r hr)
    have hmem := isBlank_iff.1 h
    rw [CaseRun.toNat_ofNat_of_image (isSound_upperRuns r hr) himage] at hmem
    have happart := List.all_eq_true.1 (List.all_eq_true.1 isApart_singles r hr) _
      (List.mem_append_right _ hmem)
    exact absurd (CaseRun.covers_single _) (CaseRun.not_covers_of_isApart happart himage)

/-! ## Texts -/

@[simp] theorem upperChars_nil : upperChars [] = [] := rfl

@[simp] theorem upperChars_cons (c : Char) (cs : List Char) :
    upperChars (c :: cs) = upperChar c ++ upperChars cs := by
  simp [upperChars]

theorem upperChars_eq_self {cs : List Char} (h : ∀ c ∈ cs, upperChar c = [c]) :
    upperChars cs = cs := by
  induction cs with
  | nil => rfl
  | cons c cs ih => simp [h c (by simp), ih fun d hd => h d (by simp [hd])]

theorem upperChar_of_mem_upperChars {cs : List Char} {d : Char} (h : d ∈ upperChars cs) :
    upperChar d = [d] := by
  obtain ⟨c, -, hd⟩ := List.mem_flatMap.1 h
  exact upperChar_of_mem hd

/-- Each part of an uppercase text is uppercase. -/
theorem upperChars_of_subset {cs part : List Char} (h : part ⊆ upperChars cs) :
    upperChars part = part :=
  upperChars_eq_self fun _ hd => upperChar_of_mem_upperChars (h hd)

theorem upperChars_of_blank {cs : List Char} (h : ∀ c ∈ cs, isBlank c) : upperChars cs = cs :=
  upperChars_eq_self fun c hc => upperChar_of_isBlank (h c hc)

theorem length_le_upperChars (cs : List Char) : cs.length ≤ (upperChars cs).length := by
  induction cs with
  | nil => simp
  | cons c cs ih =>
    have hpos : 0 < (upperChar c).length := List.length_pos_iff.2 (upperChar_ne_nil c)
    simp only [upperChars_cons, List.length_append, List.length_cons]
    omega

/-- A text that does not end in a blank does not do so in uppercase. -/
theorem getLast?_upperChars_not_blank {cs : List Char}
    (h : ∀ c ∈ cs.getLast?, isBlank c = false) :
    ∀ d ∈ (upperChars cs).getLast?, isBlank d = false := by
  induction cs using List.reverseRecOn with
  | nil => simp
  | append_singleton front c _ =>
    intro d hd
    have hne : upperChars [c] ≠ [] := by simpa using upperChar_ne_nil c
    rw [upperChars_append, List.getLast?_append_of_ne_nil _ hne] at hd
    have hmem : d ∈ upperChar c := by simpa using List.mem_of_getLast? hd
    by_contra hblank
    have hc : isBlank c = false := h c (by simp)
    simp [isBlank_of_mem_upperChar hmem (by simpa using hblank)] at hc

end MediaTags.Text
