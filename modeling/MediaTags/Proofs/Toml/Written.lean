import Mathlib.Tactic
import MediaTags.Proofs.Text.LeadingNumber
import MediaTags.Toml.Document

/-!
# What is written is read

A text is read up to the quote that closes it, character by character, and an integer up to the
line end behind it: it is no date and no float before it is an integer. So a document of headers,
pairs and blank lines is read line by line as it was written.
-/

namespace MediaTags.Toml

/-! ## Texts -/

namespace Text

theorem hexValue?_hexDigit : ∀ n < 16, hexValue? (hexDigit n) = some n := by decide

/-- The escape of a character with a small code point. -/
theorem escape?_codePoint {c : Char} (h : c.toNat < 0x80) (rest : List Char) :
    escape? ('u' :: '0' :: '0' :: hexDigit (c.toNat / 16) :: hexDigit (c.toNat % 16) :: rest) =
      some (c, rest) := by
  have hzero : hexValue? '0' = some 0 := by decide
  have hhigh := hexValue?_hexDigit (c.toNat / 16) (by omega)
  have hlow := hexValue?_hexDigit (c.toNat % 16) (by omega)
  have hvalue : c.toNat / 16 * 16 + c.toNat % 16 = c.toNat := by omega
  have hvalid : c.toNat.isValidChar := .inl (by omega)
  simp [escape?, codePoint?, hexNumber?, hzero, hhigh, hlow, hvalue, hvalid]

/-- A character stands for itself, or an escape that is read as that character does. -/
theorem encodeChar_cases (c : Char) :
    (encodeChar c = [c] ∧ c ≠ '"' ∧ c ≠ '\\' ∧ isPlain c) ∨
      ∃ e, encodeChar c = '\\' :: e ∧ ∀ rest, escape? (e ++ rest) = some (c, rest) := by
  have hnat {d : Char} (h : c.toNat = d.toNat) : d = c := (Char.toNat_inj.1 h).symm
  unfold encodeChar
  by_cases hquote : c = '"'
  · exact .inr ⟨['"'], by simp [hquote], fun rest => by rw [hquote]; rfl⟩
  by_cases hback : c = '\\'
  · exact .inr ⟨['\\'], by simp [hback], fun rest => by rw [hback]; rfl⟩
  simp only [hquote, hback, if_false]
  split
  · next h => exact .inr ⟨['b'], rfl, fun rest => by rw [← @hnat '\x08' h]; rfl⟩
  split
  · next h => exact .inr ⟨['t'], rfl, fun rest => by rw [← @hnat '\t' h]; rfl⟩
  split
  · next h => exact .inr ⟨['n'], rfl, fun rest => by rw [← @hnat '\n' h]; rfl⟩
  split
  · next h => exact .inr ⟨['f'], rfl, fun rest => by rw [← @hnat '\x0c' h]; rfl⟩
  split
  · next h => exact .inr ⟨['r'], rfl, fun rest => by rw [← @hnat '\r' h]; rfl⟩
  split
  · next h => exact .inr ⟨_, rfl, fun rest => escape?_codePoint (by omega) rest⟩
  · next h =>
    refine .inl ⟨rfl, hquote, hback, ?_⟩
    simp only [isPlain, Bool.or_eq_true, Bool.and_eq_true, decide_eq_true_eq, bne_iff_ne]
    omega

theorem readLine_encodeChar (c : Char) (rest : List Char) :
    readLine '"' true (encodeChar c ++ rest) =
      (readLine '"' true rest).map fun (t, rest) => (c :: t, rest) := by
  obtain ⟨hc, hquote, hback, hplain⟩ | ⟨e, hc, hread⟩ := encodeChar_cases c
  · rw [hc, List.singleton_append, readLine]
    simp [hquote, hback, hplain]
  · rw [hc, List.cons_append, readLine]
    simp only [Char.reduceEq, if_false, and_self, if_true]
    split
    · next hsome =>
      rw [hread] at hsome
      cases hsome
      rfl
    · next hnone =>
      rw [hread] at hnone
      cases hnone

theorem readLine_encoded (cs rest : List Char) :
    readLine '"' true (cs.flatMap encodeChar ++ '"' :: rest) = some (cs, rest) := by
  induction cs with
  | nil => simp [readLine]
  | cons c cs ih => rw [List.flatMap_cons, List.append_assoc, readLine_encodeChar, ih]; rfl

theorem read_encode (s : String) {rest : List Char} (h : rest.head? ≠ some '"') :
    read ((encode s).toList ++ rest) = some (s, rest) := by
  have hline := readLine_encoded s.toList rest
  have hbody : (encode s).toList ++ rest =
      '"' :: (s.toList.flatMap encodeChar ++ '"' :: rest) := by simp [encode]
  -- Not even the quote that closes an empty text makes three of them.
  have hblock : ∀ cs, s.toList.flatMap encodeChar ++ '"' :: rest ≠ '"' :: '"' :: cs := by
    intro cs hcs
    cases hs : s.toList with
    | nil => simp [hs] at hcs; simp [hcs] at h
    | cons c more =>
      rw [hs, List.flatMap_cons] at hcs
      obtain ⟨hc, hquote, -, -⟩ | ⟨e, hc, -⟩ := encodeChar_cases c <;> simp [hc] at hcs
      exact hquote hcs.1
  rw [hbody, read, hline]
  · simp
  · exact fun cs hcs => hblock cs hcs

end Text

/-! ## Integers -/

namespace Number

theorem hexValue?_of_isDigit {c : Char} (h : c.isDigit) :
    Text.hexValue? c = some (c.toNat - '0'.toNat) := by
  obtain ⟨hlow, hhigh⟩ := MediaTags.Text.isDigit_iff.1 h
  rw [Text.hexValue?, if_pos ⟨hlow, hhigh⟩]
  rfl

theorem valueIn_eq_ofDigitChars {ds : List Char} (h : ∀ d ∈ ds, d.isDigit) :
    valueIn 10 ds = Nat.ofDigitChars 10 ds 0 := by
  have hfold (n : Nat) : ds.foldl (fun n c => n * 10 + (Text.hexValue? c).getD 0) n =
      Nat.ofDigitChars 10 ds n := by
    induction ds generalizing n with
    | nil => simp
    | cons d ds ih =>
      rw [List.foldl_cons, ih fun c hc => h c (by simp [hc]), hexValue?_of_isDigit (h d (by simp))]
      simp [Nat.ofDigitChars_cons, Nat.mul_comm]
  exact hfold 0

theorem readDigitsAfter_append {ds rest : List Char} (hds : ∀ d ∈ ds, d.isDigit)
    (hrest : ∀ c ∈ rest.head?, c.isDigit = false ∧ c ≠ '_') :
    readDigitsAfter Char.isDigit (ds ++ rest) = some (ds, rest) := by
  induction ds with
  | nil =>
    cases rest with
    | nil => rfl
    | cons c rest =>
      obtain ⟨hdigit, hscore⟩ := hrest c rfl
      simp [readDigitsAfter, hdigit, hscore]
  | cons d ds ih =>
    have hd : d.isDigit := hds d (by simp)
    have hscore : d ≠ '_' := by rintro rfl; cases hd
    rw [List.cons_append, readDigitsAfter, if_pos hd, ih fun c hc => hds c (by simp [hc])]
    · rfl
    · exact fun c cs hc => absurd hc hscore

theorem head?_toDigits_ne_zero {n : Nat} (hn : n ≠ 0) : (Nat.toDigits 10 n).head? ≠ some '0' := by
  induction n using Nat.strongRecOn with
  | ind n ih =>
    by_cases hlt : n < 10
    · have hdigit : ∀ m < 10, m ≠ 0 → Nat.digitChar m ≠ '0' := by decide
      rw [Nat.toDigits_of_lt_base hlt]
      simpa using hdigit n hlt hn
    · rw [Nat.toDigits_of_base_le (by decide) (by omega),
        List.head?_append_of_ne_nil _ Nat.toDigits_ne_nil]
      exact ih (n / 10) (by omega) (by omega)

theorem isDigit_of_mem_toDigits {n : Nat} {c : Char} (h : c ∈ Nat.toDigits 10 n) : c.isDigit :=
  Nat.isDigit_of_mem_toDigits (by decide) (by decide) h

theorem exists_toDigits_cons (n : Nat) :
    ∃ d ds, Nat.toDigits 10 n = d :: ds ∧ d.isDigit ∧ ∀ c ∈ ds, c.isDigit := by
  obtain ⟨d, ds, hds⟩ := List.exists_cons_of_ne_nil (Nat.toDigits_ne_nil (n := n) (b := 10))
  have hdigits : ∀ c ∈ d :: ds, c.isDigit := hds ▸ fun c => isDigit_of_mem_toDigits
  exact ⟨d, ds, hds, hdigits d (by simp), fun c hc => hdigits c (by simp [hc])⟩

/-- The digits of a number are read as such: no zero stands in front of others. -/
theorem readDecimal_toDigits (n : Nat) (rest : List Char) :
    readDecimal (Nat.toDigits 10 n ++ '\n' :: rest) =
      some (Nat.toDigits 10 n, '\n' :: rest) := by
  obtain rfl | hn := eq_or_ne n 0
  · rfl
  have hzero := head?_toDigits_ne_zero hn
  obtain ⟨d, ds, hn, hd, hds⟩ := exists_toDigits_cons n
  rw [hn] at hzero ⊢
  have hrun := readDigitsAfter_append hds
    (show ∀ c ∈ ('\n' :: rest).head?, c.isDigit = false ∧ c ≠ '_' by simp)
  rw [List.cons_append, readDecimal, readDigits, if_pos hd, hrun]
  · rfl
  · rintro cs ⟨⟩
    exact hzero rfl

theorem toList_toString_int (n : Int) :
    (toString n).toList = (if n < 0 then ['-'] else []) ++ Nat.toDigits 10 n.natAbs := by
  cases n with
  | ofNat n =>
    have hpos : ¬ Int.ofNat n < 0 := by simp
    rw [if_neg hpos]
    exact Nat.toList_repr
  | negSucc n =>
    have hstring : toString (Int.negSucc n) = "-" ++ (n + 1).repr := rfl
    rw [if_pos (Int.negSucc_lt_zero n), hstring, String.toList_append, Nat.toList_repr]
    rfl

theorem splitSign_digit {d : Char} (h : d.isDigit) (cs : List Char) :
    MediaTags.Text.splitSign (d :: cs) = (false, d :: cs) := by
  have hminus : d ≠ '-' := by rintro rfl; cases h
  have hplus : d ≠ '+' := by rintro rfl; cases h
  simp [MediaTags.Text.splitSign, hminus, hplus]

theorem splitSign_toString (n : Int) (rest : List Char) :
    MediaTags.Text.splitSign ((toString n).toList ++ rest) =
      (decide (n < 0), Nat.toDigits 10 n.natAbs ++ rest) := by
  rw [toList_toString_int]
  split
  · next hneg => simp [MediaTags.Text.splitSign, hneg]
  · next hpos =>
    obtain ⟨d, ds, hn, hd, -⟩ := exists_toDigits_cons n.natAbs
    rw [hn, List.nil_append, List.cons_append, splitSign_digit hd, decide_eq_false hpos]

/-- A zero in front is the whole number. -/
theorem eq_newline_of_zero {n : Int} {rest cs : List Char} {c : Char}
    (h : (toString n).toList ++ '\n' :: rest = '0' :: c :: cs) : c = '\n' := by
  rw [toList_toString_int] at h
  split at h
  · simp at h
  · obtain hn | hn := eq_or_ne n.natAbs 0
    · have htail : '\n' :: rest = c :: cs := by simpa [hn] using h
      exact (List.cons.inj htail).1.symm
    · have hhead := congrArg List.head? h
      rw [List.nil_append, List.head?_append_of_ne_nil _ Nat.toDigits_ne_nil] at hhead
      exact absurd hhead (head?_toDigits_ne_zero hn)

theorem head?_toString (n : Int) (rest : List Char) :
    ∃ c ∈ ((toString n).toList ++ rest).head?, c.isDigit ∨ c = '-' := by
  rw [toList_toString_int]
  split
  · exact ⟨'-', rfl, .inr rfl⟩
  · obtain ⟨d, ds, hn, hd, -⟩ := exists_toDigits_cons n.natAbs
    exact ⟨d, by simp [hn], .inl hd⟩

theorem readInteger_toString {n : Int} (h : inRange? n = some n) (rest : List Char) :
    readInteger ((toString n).toList ++ '\n' :: rest) = some (n, '\n' :: rest) := by
  have hvalue : (valueIn 10 (Nat.toDigits 10 n.natAbs) : Int) = |n| := by
    rw [valueIn_eq_ofDigitChars fun c => isDigit_of_mem_toDigits, Nat.ofDigitChars_ten_toDigits,
      Int.natCast_natAbs]
  have habs : (if n < 0 then -|n| else |n|) = n := by
    split
    · next hneg => rw [abs_of_neg hneg, neg_neg]
    · next hpos => rw [abs_of_nonneg (not_lt.1 hpos)]
  rw [readInteger, splitSign_toString]
  · simp [readDecimal_toDigits, hvalue, habs, h]
  all_goals
    intro cs hcs
    have := eq_newline_of_zero hcs
    contradiction

/-- A point or an exponent would make it a float. -/
theorem afterFloat?_toString (n : Int) (rest : List Char) :
    afterFloat? ((toString n).toList ++ '\n' :: rest) = none := by
  have hfirst : ∀ c ∈ (Nat.toDigits 10 n.natAbs ++ '\n' :: rest).head?, c.isDigit := by
    rw [List.head?_append_of_ne_nil _ Nat.toDigits_ne_nil]
    exact fun c hc => isDigit_of_mem_toDigits (List.mem_of_mem_head? hc)
  have hread := readDecimal_toDigits n.natAbs rest
  have hfraction : readFraction ('\n' :: rest) = some ([], '\n' :: rest) := rfl
  have hexponent : readExponent ('\n' :: rest) = some (none, '\n' :: rest) := rfl
  rw [afterFloat?, splitSign_toString]
  generalize Nat.toDigits 10 n.natAbs ++ '\n' :: rest = cs at *
  simp only []
  split
  · next hcs => exact absurd (hfirst 'i' rfl) (by decide)
  · next hcs => exact absurd (hfirst 'n' rfl) (by decide)
  · simp [hread, hfraction, hexponent]

end Number

namespace Date

/-- The digits that were not read, or the line end, come next. -/
theorem head?_of_readFixed {width n m : Nat} {ds rest cs : List Char} (hds : ∀ d ∈ ds, d.isDigit)
    (h : readFixed width n (ds ++ '\n' :: rest) = some (m, cs)) :
    ∃ c ∈ cs.head?, c.isDigit ∨ c = '\n' := by
  induction width generalizing n ds with
  | zero =>
    obtain ⟨-, rfl⟩ : n = m ∧ ds ++ '\n' :: rest = cs := by simpa [readFixed] using h
    cases ds with
    | nil => exact ⟨'\n', rfl, .inr rfl⟩
    | cons d ds => exact ⟨d, rfl, .inl (hds d (by simp))⟩
  | succ width ih =>
    cases ds with
    | nil => simp [readFixed] at h
    | cons d ds =>
      rw [List.cons_append, readFixed, if_pos (hds d (by simp))] at h
      exact ih (fun c hc => hds c (by simp [hc])) h

theorem after?_eq_none {c : Char} {cs : List Char} (hc : ¬ c.isDigit ∧ c ≠ '\n')
    (h : ∃ d ∈ cs.head?, d.isDigit ∨ d = '\n') : after? c cs = none := by
  obtain ⟨d, hd, hcases⟩ := h
  obtain ⟨rest, rfl⟩ := List.head?_eq_some_iff.1 hd
  have hne : d ≠ c := by
    rintro rfl
    exact hcases.elim hc.1 hc.2
  simp [after?, hne]

/-- Digits alone are no date, and no time of day. -/
theorem afterDateTime?_digits {ds : List Char} (hds : ∀ d ∈ ds, d.isDigit) (rest : List Char) :
    afterDateTime? (ds ++ '\n' :: rest) = none := by
  have hdate : afterDate? (ds ++ '\n' :: rest) = none := by
    rw [afterDate?]
    cases h : readFixed 4 0 (ds ++ '\n' :: rest) with
    | none => rfl
    | some p => simp [after?_eq_none (c := '-') (by decide) (head?_of_readFixed hds h)]
  have hminutes : afterMinutes? (ds ++ '\n' :: rest) = none := by
    rw [afterMinutes?, readTwo]
    cases h : readFixed 2 0 (ds ++ '\n' :: rest) with
    | none => rfl
    | some p =>
      have hafter := after?_eq_none (c := ':') (by decide) (head?_of_readFixed hds h)
      by_cases hp : 0 ≤ p.1 ∧ p.1 ≤ 23 <;> simp [hp, hafter]
  simp [afterDateTime?, hdate, afterTime?, hminutes]

theorem afterDateTime?_minus (cs : List Char) : afterDateTime? ('-' :: cs) = none := by
  rfl

end Date

theorem readNumber_toString {n : Int} (h : Number.inRange? n = some n) (rest : List Char) :
    readNumber ((toString n).toList ++ '\n' :: rest) = some (.integer n, '\n' :: rest) := by
  have hdate : Date.afterDateTime? ((toString n).toList ++ '\n' :: rest) = none := by
    rw [Number.toList_toString_int]
    split
    · exact Date.afterDateTime?_minus _
    · exact Date.afterDateTime?_digits (fun c => Number.isDigit_of_mem_toDigits) rest
  rw [readNumber, hdate]
  simp only []
  rw [Number.afterFloat?_toString, Number.readInteger_toString h]
  rfl

theorem isSpace_of_isBare {c : Char} (h : isBare c) : isSpace c = false := by
  by_contra hspace
  simp only [isSpace, Bool.not_eq_false, Bool.or_eq_true, beq_iff_eq] at hspace
  obtain rfl | rfl := hspace <;> exact absurd h (by decide)

/-- A text is read as a value up to the line end behind it. -/
def Writes (text : List Char) (v : Value) : Prop :=
  (∃ c ∈ text.head?, isSpace c = false) ∧
    ∀ rest, readValue maxDepth (text ++ '\n' :: rest) = some (v, '\n' :: rest)

theorem writes_text (s : String) : Writes (Text.encode s).toList (.text s) := by
  have hquote : (Text.encode s).toList = '"' :: (s.toList.flatMap Text.encodeChar ++ ['"']) := by
    simp [Text.encode]
  refine ⟨⟨'"', by rw [hquote]; rfl, rfl⟩, fun rest => ?_⟩
  have hread := @Text.read_encode s ('\n' :: rest) (by simp)
  rw [hquote, List.cons_append] at hread ⊢
  rw [readValue, hread]
  rfl

theorem writes_boolean (b : Bool) :
    Writes (if b then "true" else "false").toList (.boolean b) := by
  cases b
  · exact ⟨⟨'f', rfl, rfl⟩, fun rest => rfl⟩
  · exact ⟨⟨'t', rfl, rfl⟩, fun rest => rfl⟩

theorem writes_integer {n : Int} (h : Number.inRange? n = some n) :
    Writes (toString n).toList (.integer n) := by
  refine ⟨?_, fun rest => ?_⟩
  · obtain ⟨c, hc, hfirst⟩ := Number.head?_toString n []
    rw [List.append_nil] at hc
    refine ⟨c, hc, isSpace_of_isBare ?_⟩
    obtain hdigit | rfl := hfirst
    · simp [isBare, Char.isAlphanum, hdigit]
    · rfl
  · rw [readValue]
    · exact readNumber_toString h rest
    -- No other value starts with a digit or a minus sign.
    all_goals
      intro cs hcs
      obtain ⟨c, hc, hfirst⟩ := Number.head?_toString n ('\n' :: rest)
      rw [hcs] at hc
      cases hc
      revert hfirst
      decide

/-! ## Lines -/

/-- A name that needs no quotes. -/
def IsBareName (name : List Char) : Prop := name ≠ [] ∧ ∀ c ∈ name, isBare c

instance (name : List Char) : Decidable (IsBareName name) :=
  decidable_of_iff (name ≠ [] ∧ name.all isBare) (and_congr_right' List.all_eq_true)

theorem isBare_head {name : List Char} (h : IsBareName name) (rest : List Char) :
    ∃ c cs, name ++ rest = c :: cs ∧ isBare c := by
  obtain ⟨c, cs, rfl⟩ := List.exists_cons_of_ne_nil h.1
  exact ⟨c, cs ++ rest, rfl, h.2 c (by simp)⟩

theorem skipSpace_eq_self {c : Char} (h : isSpace c = false) (cs : List Char) :
    skipSpace (c :: cs) = c :: cs :=
  List.dropWhile_cons_of_neg (by simp [h])

theorem skipSpace_bare {name : List Char} (h : IsBareName name) (rest : List Char) :
    skipSpace (name ++ rest) = name ++ rest := by
  obtain ⟨c, cs, hcs, hc⟩ := isBare_head h rest
  rw [hcs, skipSpace_eq_self (isSpace_of_isBare hc)]

theorem readName_bare {name rest : List Char} (hname : IsBareName name)
    (hrest : ∀ c ∈ rest.head?, isBare c = false) :
    readName (name ++ rest) = some (.ofList name, rest) := by
  have htake : (name ++ rest).takeWhile isBare = name :=
    MediaTags.Text.takeWhile_append_eq hname.2 hrest
  have hdrop : (name ++ rest).dropWhile isBare = rest := by
    rw [List.dropWhile_append_of_pos hname.2]
    exact MediaTags.Text.dropWhile_eq_self hrest
  obtain ⟨c, cs, hcs, hc⟩ := isBare_head hname rest
  rw [readName, htake, hdrop]
  · simp [hname.1]
  all_goals
    intro more hmore
    rw [hmore] at hcs
    cases hcs
    exact absurd hc (by decide)

theorem readPath_bare {name rest cs : List Char} {c : Char} (limit : Nat)
    (hname : IsBareName name) (hrest : ∀ c ∈ rest.head?, isBare c = false)
    (hskip : skipSpace rest = c :: cs) (hc : c ≠ '.') :
    readPath (limit + 1) (name ++ rest) = some (⟨[], .ofList name⟩, c :: cs) := by
  rw [readPath, skipSpace_bare hname, readName_bare hname hrest]
  simp [hskip, hc]

theorem readLine_header {name : List Char} (hname : IsBareName name) (rest : List Char) :
    readLine ('[' :: (name ++ ']' :: '\n' :: rest)) =
      some (.table ⟨[], .ofList name⟩, rest) := by
  have hpath : readPath 79 (name ++ ']' :: '\n' :: rest) =
      some (⟨[], .ofList name⟩, ']' :: '\n' :: rest) :=
    readPath_bare 78 hname (by simp [isBare]) rfl (by decide)
  obtain ⟨c, cs, hcs, hc⟩ := isBare_head hname (']' :: '\n' :: rest)
  have hother : c ≠ '[' := by rintro rfl; cases hc
  rw [readLine, maxDepth, hpath]
  · rfl
  · rintro more hmore
    rw [hcs] at hmore
    exact hother (List.cons.inj hmore).1

theorem readLine_pair {name text : List Char} {v : Value} (hname : IsBareName name)
    (htext : Writes text v) (rest : List Char) :
    readLine (name ++ ' ' :: '=' :: ' ' :: (text ++ '\n' :: rest)) =
      some (.pair ⟨[], .ofList name⟩ v, rest) := by
  have hpath : readPath 79 (name ++ ' ' :: '=' :: ' ' :: (text ++ '\n' :: rest)) =
      some (⟨[], .ofList name⟩, '=' :: ' ' :: (text ++ '\n' :: rest)) :=
    readPath_bare 78 hname (by simp [isBare]) rfl (by decide)
  obtain ⟨⟨first, hfirst, hspace⟩, hread⟩ := htext
  obtain ⟨more, rfl⟩ := List.head?_eq_some_iff.1 hfirst
  have hskip : skipSpace (' ' :: (first :: more ++ '\n' :: rest)) =
      first :: more ++ '\n' :: rest := skipSpace_eq_self hspace _
  have hpair : readPair (readValue maxDepth)
      (name ++ ' ' :: '=' :: ' ' :: (first :: more ++ '\n' :: rest)) =
        some ((⟨[], .ofList name⟩, v), '\n' :: rest) := by
    rw [readPair, maxDepth, hpath]
    simp only [Option.bind_eq_bind, Option.bind_some]
    rw [hskip, ← maxDepth, hread]
    rfl
  obtain ⟨c, cs, hcs, hc⟩ :=
    isBare_head hname (' ' :: '=' :: ' ' :: (first :: more ++ '\n' :: rest))
  have hother : c ≠ '[' := by rintro rfl; cases hc
  rw [readLine, hpair]
  · rfl
  all_goals
    intro tail htail
    rw [hcs] at htail
    exact hother (List.cons.inj htail).1

/-- Lines as they are written: headers, pairs of a name and a value, and blank lines. -/
inductive Written : List Char → List Line → Prop
  | done : Written [] []
  | blank {rest : List Char} {lines : List Line} :
      Written rest lines → Written ('\n' :: rest) lines
  | header {name : String} {rest : List Char} {lines : List Line} :
      IsBareName name.toList → Written rest lines →
      Written ('[' :: (name.toList ++ ']' :: '\n' :: rest)) (.table ⟨[], name⟩ :: lines)
  | pair {name : String} {text rest : List Char} {v : Value} {lines : List Line} :
      IsBareName name.toList → Writes text v → Written rest lines →
      Written (name.toList ++ ' ' :: '=' :: ' ' :: (text ++ '\n' :: rest))
        (.pair ⟨[], name⟩ v :: lines)

theorem readLines_cons {c : Char} {cs rest : List Char} {line : Line} (limit : Nat)
    (hspace : isSpace c = false) (hblank : isBlankLine (c :: cs) = false)
    (h : readLine (c :: cs) = some (line, rest)) :
    readLines (limit + 1) (c :: cs) = (readLines limit rest).map (line :: ·) := by
  rw [readLines, skipSpace_eq_self hspace]
  simp [hblank, h]

theorem readLines_of_written {cs : List Char} {lines : List Line} (h : Written cs lines)
    {limit : Nat} (hlimit : cs.length < limit) : readLines limit cs = some lines := by
  induction h generalizing limit with
  | done =>
    obtain ⟨limit, rfl⟩ := Nat.exists_eq_add_one.2 hlimit
    rfl
  | @blank rest lines _ ih =>
    obtain ⟨limit, rfl⟩ := Nat.exists_eq_add_one.2 (by omega : 0 < limit)
    exact ih (by simpa using hlimit)
  | @header name rest lines hname _ ih =>
    obtain ⟨limit, rfl⟩ := Nat.exists_eq_add_one.2 (by omega : 0 < limit)
    rw [readLines_cons limit rfl rfl (readLine_header hname rest), ih, String.ofList_toList]
    · rfl
    · simp at hlimit
      omega
  | @pair name text rest v lines hname htext _ ih =>
    obtain ⟨limit, rfl⟩ := Nat.exists_eq_add_one.2 (by omega : 0 < limit)
    have hline := readLine_pair hname htext rest
    have hrest : rest.length < limit := by
      simp at hlimit
      omega
    obtain ⟨c, cs, hcs, hc⟩ :=
      isBare_head hname (' ' :: '=' :: ' ' :: (text ++ '\n' :: rest))
    rw [String.ofList_toList, hcs] at hline
    rw [hcs]
    have hblank : isBlankLine (c :: cs) = false := by
      by_contra h
      simp only [isBlankLine, Bool.not_eq_false, Bool.or_eq_true, beq_iff_eq] at h
      obtain (rfl | rfl) | rfl := h <;> exact absurd hc (by decide)
    rw [readLines_cons limit (isSpace_of_isBare hc) hblank hline, ih hrest]
    rfl

end MediaTags.Toml
