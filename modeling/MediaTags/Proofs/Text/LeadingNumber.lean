import MediaTags.Proofs.Text.Blank
import MediaTags.Text.Case
import MediaTags.Text.LeadingNumber

/-!
# Texts with a number in front

What stands in front decides whether a text has a leading number: blanks, at most one sign and a
digit. Neither trimming nor lowercasing makes a difference to it.
-/

namespace MediaTags.Text

/-- A digit follows the blanks in front and at most one sign. -/
def StartsWithNumber (cs : List Char) : Prop :=
  ∃ blanks sign digit rest, cs = blanks ++ (sign ++ digit :: rest) ∧ (∀ c ∈ blanks, isBlank c) ∧
    (sign = [] ∨ sign = ['+'] ∨ sign = ['-']) ∧ digit.isDigit

theorem isDigit_iff {c : Char} : c.isDigit ↔ 48 ≤ c.toNat ∧ c.toNat ≤ 57 := by
  simp only [Char.isDigit, Bool.and_eq_true, decide_eq_true_eq]
  rfl

theorem isBlank_of_isDigit {c : Char} (h : c.isDigit) : isBlank c = false := by
  obtain ⟨hlow, hhigh⟩ := isDigit_iff.1 h
  simp only [isBlank]
  grind

/-- The sign and the digit are where the blanks end. -/
theorem trimStartChars_signed {blanks sign : List Char} {digit : Char} (rest : List Char)
    (hblanks : ∀ c ∈ blanks, isBlank c) (hsign : sign = [] ∨ sign = ['+'] ∨ sign = ['-'])
    (hdigit : digit.isDigit) :
    trimStartChars (blanks ++ (sign ++ digit :: rest)) = sign ++ digit :: rest := by
  rw [trimStartChars, List.dropWhile_append_of_pos hblanks]
  refine dropWhile_eq_self ?_
  rcases hsign with rfl | rfl | rfl
  · simpa using isBlank_of_isDigit hdigit
  · simp [isBlank]
  · simp [isBlank]

theorem splitSign_signed {sign : List Char} {digit : Char} (rest : List Char)
    (hsign : sign = [] ∨ sign = ['+'] ∨ sign = ['-']) (hdigit : digit.isDigit) :
    splitSign (sign ++ digit :: rest) = (decide (sign = ['-']), digit :: rest) := by
  rcases hsign with rfl | rfl | rfl
  · have hminus : digit ≠ '-' := by rintro rfl; cases hdigit
    have hplus : digit ≠ '+' := by rintro rfl; cases hdigit
    simp [splitSign, hminus, hplus]
  · rfl
  · rfl

theorem exists_append_splitSign (cs : List Char) :
    ∃ sign, cs = sign ++ (splitSign cs).2 ∧ (sign = [] ∨ sign = ['+'] ∨ sign = ['-']) := by
  unfold splitSign
  split
  · exact ⟨['-'], by simp⟩
  · exact ⟨['+'], by simp⟩
  · exact ⟨[], by simp⟩

theorem startsWithNumber_iff {cs : List Char} :
    StartsWithNumber cs ↔ (splitSign (trimStartChars cs)).2.head?.any Char.isDigit := by
  constructor
  · rintro ⟨blanks, sign, digit, rest, rfl, hblanks, hsign, hdigit⟩
    rw [trimStartChars_signed rest hblanks hsign hdigit, splitSign_signed rest hsign hdigit]
    simpa using hdigit
  · intro h
    obtain ⟨blanks, hcs, hblanks⟩ := exists_append_trimStartChars cs
    obtain ⟨sign, hstart, hsign⟩ := exists_append_splitSign (trimStartChars cs)
    obtain ⟨digit, hhead, hdigit⟩ := (Option.any_eq_true ..).1 h
    obtain ⟨rest, hrest⟩ := List.head?_eq_some_iff.1 hhead
    exact ⟨blanks, sign, digit, rest, by rw [← hrest, ← hstart]; exact hcs, hblanks, hsign, hdigit⟩

instance (cs : List Char) : Decidable (StartsWithNumber cs) :=
  decidable_of_iff _ startsWithNumber_iff.symm

theorem isSome_leadingNumber? {s : String} :
    (leadingNumber? s).isSome ↔ StartsWithNumber s.toList := by
  rw [startsWithNumber_iff, leadingNumber?]
  obtain ⟨negative, cs⟩ := splitSign (trimStartChars s.toList)
  cases cs with
  | nil => simp
  | cons c cs => cases hc : c.isDigit <;> cases negative <;> simp [hc]

/-! ## Trimming -/

theorem dropEndWhile_append_cons {p : Char → Bool} {c : Char} (hc : p c = false)
    (front rest : List Char) :
    dropEndWhile p (front ++ c :: rest) = front ++ c :: dropEndWhile p rest := by
  have hstop : (c :: front.reverse).dropWhile p = c :: front.reverse :=
    List.dropWhile_cons_of_neg (by simp [hc])
  rw [dropEndWhile, dropEndWhile, List.reverse_append, List.reverse_cons, List.append_assoc,
    List.singleton_append, List.dropWhile_append, hstop]
  cases hrest : rest.reverse.dropWhile p with
  | nil => simp
  | cons d ds => simp

theorem startsWithNumber_trimChars {cs : List Char} :
    StartsWithNumber (trimChars cs) ↔ StartsWithNumber cs := by
  constructor
  · rintro ⟨blanks, sign, digit, rest, hcs, hblanks, hsign, hdigit⟩
    obtain ⟨lead, hstart, hlead⟩ := exists_append_trimStartChars cs
    obtain ⟨tail, htail⟩ : trimChars cs <+: trimStartChars cs := dropEndWhile_prefix ..
    refine ⟨lead ++ blanks, sign, digit, rest ++ tail, ?_, ?_, hsign, hdigit⟩
    · calc cs = lead ++ (trimChars cs ++ tail) := by rw [htail, ← hstart]
        _ = lead ++ (blanks ++ (sign ++ digit :: rest) ++ tail) := by rw [hcs]
        _ = lead ++ blanks ++ (sign ++ digit :: (rest ++ tail)) := by simp
    · intro c hc
      exact (List.mem_append.1 hc).elim (hlead c) (hblanks c)
  · rintro ⟨blanks, sign, digit, rest, rfl, hblanks, hsign, hdigit⟩
    refine ⟨[], sign, digit, dropEndWhile isBlank rest, ?_, nofun, hsign, hdigit⟩
    rw [trimChars, trimStartChars_signed rest hblanks hsign hdigit, trimEndChars,
      dropEndWhile_append_cons (isBlank_of_isDigit hdigit), List.nil_append]

/-! ## Lowercasing -/

/-- Lowercasing changes letters only, and only into letters. -/
theorem toLower_eq_or (c : Char) :
    c.toLower = c ∨ 65 ≤ c.toNat ∧ c.toNat ≤ 90 ∧ c.toLower.toNat = c.toNat + 32 := by
  unfold Char.toLower
  split
  · next h =>
    have hlow : 65 ≤ c.toNat := h.1
    have hhigh : c.toNat ≤ 90 := h.2
    refine .inr ⟨hlow, hhigh, ?_⟩
    change (c.val + 32).toNat = c.val.toNat + 32
    rw [UInt32.toNat_add]
    have : c.val.toNat ≤ 90 := hhigh
    simp
    omega
  · exact .inl rfl

@[simp] theorem isBlank_toLower (c : Char) : isBlank c.toLower = isBlank c := by
  rcases toLower_eq_or c with h | ⟨hlow, hhigh, h⟩
  · rw [h]
  · simp only [isBlank, h]
    grind

@[simp] theorem isDigit_toLower (c : Char) : c.toLower.isDigit = c.isDigit := by
  rcases toLower_eq_or c with h | ⟨hlow, hhigh, h⟩
  · rw [h]
  · rw [Bool.eq_iff_iff, isDigit_iff, isDigit_iff, h]
    omega

theorem toLower_eq_iff {c d : Char} (hd : d.toNat < 65) : c.toLower = d ↔ c = d := by
  rcases toLower_eq_or c with h | ⟨hlow, hhigh, h⟩
  · rw [h]
  · constructor <;> rintro rfl <;> omega

theorem splitSign_map_toLower (cs : List Char) :
    (splitSign (cs.map Char.toLower)).2 = (splitSign cs).2.map Char.toLower := by
  cases cs with
  | nil => rfl
  | cons c cs =>
    by_cases hminus : c = '-'
    · subst hminus; rfl
    by_cases hplus : c = '+'
    · subst hplus; rfl
    have hminus' : c.toLower ≠ '-' := by simpa [toLower_eq_iff] using hminus
    have hplus' : c.toLower ≠ '+' := by simpa [toLower_eq_iff] using hplus
    simp [splitSign, hminus, hplus, hminus', hplus']

theorem startsWithNumber_map_toLower {cs : List Char} :
    StartsWithNumber (cs.map Char.toLower) ↔ StartsWithNumber cs := by
  have hstart : trimStartChars (cs.map Char.toLower) = (trimStartChars cs).map Char.toLower := by
    simp [trimStartChars, List.dropWhile_map, Function.comp_def]
  rw [startsWithNumber_iff, startsWithNumber_iff, hstart, splitSign_map_toLower, List.head?_map]
  cases (splitSign (trimStartChars cs)).2.head? <;> simp

end MediaTags.Text
