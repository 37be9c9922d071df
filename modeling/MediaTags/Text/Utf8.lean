/-!
# UTF-8

The encoder, a decoder that accepts exactly what the encoder writes, and a lenient decoder that
puts one replacement character in place of each maximal part that cannot belong to a character.

A sequence is read as a lead byte and the continuation bytes that may follow it. `Form` holds how
many there are and the range of the first one, which is narrower than that of the others after
the lead bytes `E0`, `ED`, `F0` and `F4`.
-/

namespace MediaTags.Text.Utf8

/-- The lead byte's value bits, the number of continuation bytes and the range of the first. -/
structure Form where
  bits : Nat
  more : Nat
  low : Nat
  high : Nat

/-- The form that a lead byte announces; continuation bytes and unused values announce none. -/
def form? (b : Nat) : Option Form :=
  if b < 0x80 then some ⟨b, 0, 0, 0⟩
  else if b < 0xC2 then none
  else if b < 0xE0 then some ⟨b - 0xC0, 1, 0x80, 0xBF⟩
  else if b < 0xF0 then
    some ⟨b - 0xE0, 2, if b = 0xE0 then 0xA0 else 0x80, if b = 0xED then 0x9F else 0xBF⟩
  else if b < 0xF5 then
    some ⟨b - 0xF0, 3, if b = 0xF0 then 0x90 else 0x80, if b = 0xF4 then 0x8F else 0xBF⟩
  else none

/-- Read `more` continuation bytes, the first of them from `low` to `high`. The rest is what
follows the longest readable part; the value is missing when a byte was not readable. -/
def continue? (value : Nat) : Nat → Nat → Nat → List UInt8 → Option Nat × List UInt8
  | 0, _, _, bs => (some value, bs)
  | _ + 1, _, _, [] => (none, [])
  | more + 1, low, high, b :: bs =>
    if low ≤ b.toNat ∧ b.toNat ≤ high then
      continue? (value * 64 + (b.toNat - 0x80)) more 0x80 0xBF bs
    else (none, b :: bs)

theorem length_continue? (value more low high : Nat) (bs : List UInt8) :
    (continue? value more low high bs).2.length ≤ bs.length := by
  induction more generalizing value low high bs with
  | zero => simp [continue?]
  | succ more ih =>
    cases bs with
    | nil => simp [continue?]
    | cons b bs =>
      simp only [continue?]
      split
      · exact Nat.le_succ_of_le (ih ..)
      · simp

/-- One character, or nothing when the leading bytes are not one, and the bytes after it. -/
def step (b : UInt8) (bs : List UInt8) : Option Char × List UInt8 :=
  match form? b.toNat with
  | none => (none, bs)
  | some f =>
    let (value, rest) := continue? f.bits f.more f.low f.high bs
    (value.map Char.ofNat, rest)

theorem length_step (b : UInt8) (bs : List UInt8) : (step b bs).2.length ≤ bs.length := by
  simp only [step]
  split
  · exact Nat.le_refl _
  · exact length_continue? ..

/-- Decode a well-formed sequence after the characters in `done`, latest first. -/
def decodeFrom? (done : List Char) : List UInt8 → Option (List Char)
  | [] => some done.reverse
  | b :: bs =>
    match (step b bs).1 with
    | some c => decodeFrom? (c :: done) (step b bs).2
    | none => none
termination_by bs => bs.length
decreasing_by exact Nat.lt_succ_of_le (length_step b bs)

/-- Decode a well-formed sequence. -/
def decode? (bs : List UInt8) : Option (List Char) := decodeFrom? [] bs

/-- Decode any sequence after the characters in `done`, latest first. -/
def decodeLossyFrom (done : List Char) : List UInt8 → List Char
  | [] => done.reverse
  | b :: bs =>
    decodeLossyFrom ((step b bs).1.getD (Char.ofNat 0xFFFD) :: done) (step b bs).2
termination_by bs => bs.length
decreasing_by exact Nat.lt_succ_of_le (length_step b bs)

/-- Decode any sequence, with U+FFFD in place of what is not well formed. -/
def decodeLossy (bs : List UInt8) : List Char := decodeLossyFrom [] bs

theorem decodeLossyFrom_eq (done : List Char) (bs : List UInt8) :
    decodeLossyFrom done bs = done.reverse ++ decodeLossy bs := by
  suffices h : ∀ n, ∀ bs : List UInt8, bs.length ≤ n → ∀ done,
      decodeLossyFrom done bs = done.reverse ++ decodeLossyFrom [] bs from h _ _ (Nat.le_refl _) _
  intro n
  induction n with
  | zero =>
    intro bs h done
    obtain rfl := List.length_eq_zero_iff.1 (Nat.le_zero.1 h)
    simp [decodeLossyFrom]
  | succ n ih =>
    intro bs h done
    cases bs with
    | nil => simp [decodeLossyFrom]
    | cons b bs =>
      have hs := length_step b bs
      have hb : (step b bs).2.length ≤ n := by simp at h; omega
      rw [decodeLossyFrom, ih _ hb, decodeLossyFrom, ih _ hb [_]]
      simp

@[simp] theorem decodeLossy_nil : decodeLossy [] = [] := by
  simp [decodeLossy, decodeLossyFrom]

/-- Decoding takes one character, or one replacement, at a time. -/
theorem decodeLossy_cons (b : UInt8) (bs : List UInt8) :
    decodeLossy (b :: bs) =
      (step b bs).1.getD (Char.ofNat 0xFFFD) :: decodeLossy (step b bs).2 := by
  rw [decodeLossy, decodeLossyFrom, decodeLossyFrom_eq]
  simp

/-- The bytes of one character. -/
def encodeChar (c : Char) : List UInt8 :=
  let n := c.toNat
  let tail (k : Nat) : UInt8 := .ofNat (0x80 + n >>> (6 * k) % 64)
  if n < 0x80 then [.ofNat n]
  else if n < 0x800 then [.ofNat (0xC0 + n >>> 6), tail 0]
  else if n < 0x10000 then [.ofNat (0xE0 + n >>> 12), tail 1, tail 0]
  else [.ofNat (0xF0 + n >>> 18), tail 2, tail 1, tail 0]

def encode (cs : List Char) : List UInt8 := cs.flatMap encodeChar

@[simp] theorem encode_nil : encode [] = [] := rfl

@[simp] theorem encode_cons (c : Char) (cs : List Char) :
    encode (c :: cs) = encodeChar c ++ encode cs := rfl

end MediaTags.Text.Utf8
