import Mathlib.Data.Nat.Digits.Defs
import MediaTags.Proofs.Text.LeadingNumber
import MediaTags.Proofs.Text.Utf8

/-!
# What a leading number is worth

A text with a number in front consists of blanks, at most one sign, all the digits of the number
and the rest. The number is worth what its digits are at their places, however many they are, up
to the largest count, and with a minus it is worth nothing.

Under guard the text is read from its bytes. The reading breaks off where a cut does not fall
between two characters and where a number leaves its type, and the value of the digits stops at
the largest number of 64 bits. It never breaks off, and it comes to the same.
-/

namespace MediaTags.Text

/-! ## The parts of a text with a number in front -/

/-- A text with a number in front, in its parts. No digit follows those of the number. -/
structure Numbered where
  blanks : List Char
  sign : List Char
  digits : List Char
  rest : List Char
  isBlank_of_mem : ∀ c ∈ blanks, isBlank c
  sign_eq : sign = [] ∨ sign = ['+'] ∨ sign = ['-']
  digits_ne_nil : digits ≠ []
  isDigit_of_mem : ∀ c ∈ digits, c.isDigit
  rest_head : ∀ c ∈ rest.head?, c.isDigit = false

namespace Numbered

def chars (t : Numbered) : List Char := t.blanks ++ (t.sign ++ (t.digits ++ t.rest))

/-- What the digits are worth at their places, of which the last one counts units. -/
def value (t : Numbered) : Nat :=
  Nat.ofDigits 10 (t.digits.reverse.map fun d => d.toNat - '0'.toNat)

def count (t : Numbered) : Nat := if t.sign = ['-'] then 0 else min t.value maxCount

theorem digitsValue_digits (t : Numbered) : digitsValue t.digits = t.value := by
  rw [digitsValue, value, List.foldl_eq_foldr_reverse, Nat.ofDigits_eq_foldr, List.foldr_map]
  simp only [Nat.cast_id, Nat.mul_comm, Nat.add_comm]

theorem leadingNumber?_eq {t : Numbered} {s : String} (h : t.chars = s.toList) :
    leadingNumber? s = some t.count := by
  obtain ⟨digit, more, hcons⟩ := List.exists_cons_of_ne_nil t.digits_ne_nil
  have hdigit : digit.isDigit := t.isDigit_of_mem digit (by simp [hcons])
  have hstart : trimStartChars s.toList = t.sign ++ (t.digits ++ t.rest) := by
    rw [← h, chars, hcons]
    exact trimStartChars_signed _ t.isBlank_of_mem t.sign_eq hdigit
  have hsign : splitSign (t.sign ++ (t.digits ++ t.rest)) =
      (decide (t.sign = ['-']), t.digits ++ t.rest) := by
    rw [hcons]
    exact splitSign_signed _ t.sign_eq hdigit
  have hdigits : (t.digits ++ t.rest).takeWhile Char.isDigit = t.digits :=
    takeWhile_append_eq t.isDigit_of_mem t.rest_head
  simp only [leadingNumber?, hstart, hsign, hdigits, t.digitsValue_digits, List.isEmpty_iff,
    if_neg t.digits_ne_nil, decide_eq_true_eq, count]
  split <;> rfl

end Numbered

theorem exists_numbered {cs : List Char} (h : StartsWithNumber cs) :
    ∃ t : Numbered, t.chars = cs := by
  obtain ⟨blanks, sign, digit, rest, rfl, hblanks, hsign, hdigit⟩ := h
  refine ⟨{ blanks, sign
            digits := (digit :: rest).takeWhile Char.isDigit
            rest := (digit :: rest).dropWhile Char.isDigit
            isBlank_of_mem := hblanks
            sign_eq := hsign
            digits_ne_nil := by simp [hdigit]
            isDigit_of_mem := fun c hc => List.mem_takeWhile_imp hc
            rest_head := fun c hc => ?_ }, ?_⟩
  · obtain ⟨more, hmore⟩ := List.head?_eq_some_iff.1 hc
    exact head_dropWhile_eq_false hmore
  · rw [Numbered.chars, List.takeWhile_append_dropWhile]

theorem leadingNumber?_eq_some_iff {s : String} {n : Nat} :
    leadingNumber? s = some n ↔ ∃ t : Numbered, t.chars = s.toList ∧ t.count = n := by
  constructor
  · intro h
    obtain ⟨t, ht⟩ := exists_numbered (isSome_leadingNumber?.1 (Option.isSome_of_eq_some h))
    rw [t.leadingNumber?_eq ht] at h
    exact ⟨t, ht, Option.some.inj h⟩
  · rintro ⟨t, ht, rfl⟩
    exact t.leadingNumber?_eq ht

theorem leadingNumber?_eq_none_iff {s : String} :
    leadingNumber? s = none ↔ ¬ StartsWithNumber s.toList := by
  rw [← isSome_leadingNumber?, Option.not_isSome_iff_eq_none]

/-! ## Reading the bytes -/

/-- Why a guarded reading breaks off. -/
inductive Halt where
  | badCut
  | overflow
  deriving DecidableEq, Repr

namespace Guarded

/-- Cut the bytes of a text in two. Both pieces must be texts again, which they are not when the
cut falls inside a character. -/
def splitAt (count : Nat) (bs : List UInt8) : Except Halt (List UInt8 × List UInt8) :=
  if count ≤ bs.length ∧ (Utf8.decode? (bs.take count)).isSome ∧
      (Utf8.decode? (bs.drop count)).isSome then
    .ok (bs.take count, bs.drop count)
  else .error .badCut

def splitSign (bs : List UInt8) : Except Halt (Bool × List UInt8) :=
  if bs.head? = some 0x2D then (splitAt 1 bs).map fun parts => (true, parts.2)
  else if bs.head? = some 0x2B then (splitAt 1 bs).map fun parts => (false, parts.2)
  else .ok (false, bs)

def isDigitByte (b : UInt8) : Bool := 0x30 ≤ b && b ≤ 0x39

/-- The largest number of 64 bits stands for all that are larger. -/
def saturate (n : Nat) : Nat := min n (UInt64.size - 1)

def sub (b c : UInt8) : Except Halt UInt8 := if c ≤ b then .ok (b - c) else .error .overflow

/-- Put one more digit behind a number. -/
def push (n : Nat) (b : UInt8) : Except Halt Nat :=
  (sub b 0x30).map fun d => saturate (saturate (n * 10) + d.toNat)

def leadingNumber? (s : String) : Except Halt (Option Nat) := do
  let (negative, bs) ← splitSign (Utf8.encode (trimStartChars s.toList))
  let (digits, _) ← splitAt (bs.takeWhile isDigitByte).length bs
  if digits.isEmpty then return none
  else if negative then return some 0
  else
    let n ← digits.foldlM push 0
    return some (if n < UInt32.size then n else maxCount)

theorem splitAt_encode (cs ds : List Char) :
    splitAt (Utf8.encode cs).length (Utf8.encode (cs ++ ds)) =
      .ok (Utf8.encode cs, Utf8.encode ds) := by
  rw [Utf8.encode_append, splitAt, List.take_left, List.drop_left, Utf8.decode?_encode,
    Utf8.decode?_encode]
  simp

theorem splitAt_one {c : Char} (hc : c.toNat < 0x80) (cs : List Char) :
    splitAt 1 (Utf8.encode (c :: cs)) = .ok (Utf8.encode [c], Utf8.encode cs) := by
  have hone : (Utf8.encode [c]).length = 1 := by simp [Utf8.encodeChar_ascii hc]
  rw [← hone]
  exact splitAt_encode [c] cs

theorem splitSign_encode (cs : List Char) :
    splitSign (Utf8.encode cs) =
      .ok ((Text.splitSign cs).1, Utf8.encode (Text.splitSign cs).2) := by
  have hminus : (Utf8.encode cs).head? = some 0x2D ↔ cs.head? = some '-' :=
    Utf8.head?_encode_eq_iff (d := '-') (by decide)
  have hplus : (Utf8.encode cs).head? = some 0x2B ↔ cs.head? = some '+' :=
    Utf8.head?_encode_eq_iff (d := '+') (by decide)
  simp only [splitSign, hminus, hplus]
  cases cs with
  | nil => rfl
  | cons c cs =>
    by_cases hc : c = '-'
    · subst hc
      rw [if_pos List.head?_cons, splitAt_one (by decide)]
      rfl
    by_cases hc' : c = '+'
    · subst hc'
      rw [if_neg (by simp), if_pos List.head?_cons, splitAt_one (by decide)]
      rfl
    simp [Text.splitSign, hc, hc']

theorem isDigitByte_iff {b : UInt8} : isDigitByte b ↔ 48 ≤ b.toNat ∧ b.toNat ≤ 57 := by
  simp only [isDigitByte, Bool.and_eq_true, decide_eq_true_eq, UInt8.le_iff_toNat_le]
  rfl

/-- The digits in front of the bytes are those in front of the text. -/
theorem takeWhile_isDigitByte_encode (cs : List Char) :
    (Utf8.encode cs).takeWhile isDigitByte = Utf8.encode (cs.takeWhile Char.isDigit) := by
  induction cs with
  | nil => rfl
  | cons c cs ih =>
    rw [Utf8.encode_cons]
    obtain ⟨hc, henc⟩ | ⟨hc, b, bs, henc, hb⟩ := Utf8.encodeChar_cases c
    · have hbyte : isDigitByte (.ofNat c.toNat) = c.isDigit := by
        rw [Bool.eq_iff_iff, isDigitByte_iff, isDigit_iff, UInt8.toNat_ofNat']
        omega
      cases hdigit : c.isDigit <;> simp [henc, hbyte, hdigit, ih]
    · -- neither a longer character nor its first byte is taken for a digit
      have hbyte : isDigitByte b = false := by
        rw [Bool.eq_false_iff, ne_eq, isDigitByte_iff]
        omega
      have hchar : c.isDigit = false := by
        rw [Bool.eq_false_iff, ne_eq, isDigit_iff]
        omega
      simp [henc, hbyte, hchar]

theorem splitAt_digits (cs : List Char) :
    splitAt ((Utf8.encode cs).takeWhile isDigitByte).length (Utf8.encode cs) =
      .ok (Utf8.encode (cs.takeWhile Char.isDigit), Utf8.encode (cs.dropWhile Char.isDigit)) := by
  have hcut := splitAt_encode (cs.takeWhile Char.isDigit) (cs.dropWhile Char.isDigit)
  rw [List.takeWhile_append_dropWhile] at hcut
  rw [takeWhile_isDigitByte_encode, hcut]

theorem saturate_push (n d : Nat) :
    saturate (saturate (saturate n * 10) + d) = saturate (n * 10 + d) := by
  simp only [saturate]
  omega

theorem push_saturate {d : Char} (hd : d.isDigit) (n : Nat) :
    push (saturate n) (.ofNat d.toNat) = .ok (saturate (n * 10 + (d.toNat - '0'.toNat))) := by
  obtain ⟨hlow, hhigh⟩ := isDigit_iff.1 hd
  have hbyte : (UInt8.ofNat d.toNat).toNat = d.toNat := by
    rw [UInt8.toNat_ofNat']
    omega
  have hle : (0x30 : UInt8) ≤ .ofNat d.toNat := by
    rw [UInt8.le_iff_toNat_le, hbyte]
    exact hlow
  rw [push, sub, if_pos hle, Except.map, saturate_push, UInt8.toNat_sub_of_le _ _ hle, hbyte]
  rfl

/-- The digits that were read so far may be worth more than fits: what is kept of them is what
would be kept of their exact value. -/
theorem foldlM_push {ds : List Char} (hds : ∀ d ∈ ds, d.isDigit) (n : Nat) :
    (Utf8.encode ds).foldlM push (saturate n) =
      .ok (saturate (ds.foldl (fun n d => n * 10 + (d.toNat - '0'.toNat)) n)) := by
  induction ds generalizing n with
  | nil => rfl
  | cons d ds ih =>
    rw [List.forall_mem_cons] at hds
    obtain ⟨hd, hds⟩ := hds
    have hascii : d.toNat < 0x80 := by
      have := (isDigit_iff.1 hd).2
      omega
    rw [Utf8.encode_cons, Utf8.encodeChar_ascii hascii, List.cons_append, List.nil_append,
      List.foldlM_cons, push_saturate hd, List.foldl_cons]
    exact ih hds _

/-- What does not fit in 64 bits does not fit in 32 bits either. -/
theorem ite_saturate (n : Nat) :
    (if saturate n < UInt32.size then saturate n else maxCount) = min n maxCount := by
  by_cases h : saturate n < UInt32.size
  · rw [if_pos h]
    simp only [saturate, maxCount, UInt64.size, UInt32.size] at *
    omega
  · rw [if_neg h]
    simp only [saturate, maxCount, UInt64.size, UInt32.size] at *
    omega

theorem leadingNumber?_eq (s : String) : leadingNumber? s = .ok (Text.leadingNumber? s) := by
  rw [leadingNumber?, splitSign_encode, Text.leadingNumber?]
  obtain ⟨negative, cs⟩ := Text.splitSign (trimStartChars s.toList)
  have hpush : (Utf8.encode (cs.takeWhile Char.isDigit)).foldlM push 0 =
      .ok (saturate (digitsValue (cs.takeWhile Char.isDigit))) :=
    foldlM_push (fun d hd => List.mem_takeWhile_imp hd) 0
  simp only [bind, Except.bind, splitAt_digits, Utf8.isEmpty_encode, hpush, ite_saturate]
  split
  · rfl
  · split <;> rfl

end Guarded

/-- A text has no leading number when no digit follows the blanks and the sign in front. The number
of any other text is the value of all its digits in a row, at most the largest count, or zero after
a minus. The guarded reading gives the same for every text. -/
theorem leadingNumber_value (s : String) :
    (leadingNumber? s = none ↔ ¬ StartsWithNumber s.toList) ∧
    (∀ n, leadingNumber? s = some n ↔ ∃ t : Numbered, t.chars = s.toList ∧ t.count = n) ∧
    Guarded.leadingNumber? s = .ok (leadingNumber? s) :=
  ⟨leadingNumber?_eq_none_iff, fun _ => leadingNumber?_eq_some_iff, Guarded.leadingNumber?_eq s⟩

example : leadingNumber? "\u3000+0012é" = some 12 ∧ leadingNumber? " -12" = some 0 ∧
    leadingNumber? "99999999999999999999" = some maxCount ∧ leadingNumber? "+-1" = none := by
  decide

end MediaTags.Text
