import Mathlib.Tactic
import MediaTags.Text.Utf8

/-!
# What was encoded is read back

The bytes of a character are read as that character, whatever follows them. So decoding gives
back every text that was encoded, and puts no replacement characters into it.
-/

namespace MediaTags.Text.Utf8

theorem continue?_tail {value more low high t : Nat} (ht : t < 64) (hlow : low ≤ 0x80 + t)
    (hhigh : 0x80 + t ≤ high) (bs : List UInt8) :
    continue? value (more + 1) low high (.ofNat (0x80 + t) :: bs) =
      continue? (value * 64 + t) more 0x80 0xBF bs := by
  have hb : (UInt8.ofNat (0x80 + t)).toNat = 0x80 + t := by
    rw [UInt8.toNat_ofNat']
    omega
  rw [continue?, hb, if_pos ⟨hlow, hhigh⟩, Nat.add_sub_cancel_left]

/-- The code points that characters have. -/
theorem toNat_bounds (c : Char) : c.toNat < 0xD800 ∨ 0xDFFF < c.toNat ∧ c.toNat < 0x110000 :=
  c.valid

theorem step_one (n : Nat) (h : n < 0x80) (bs : List UInt8) :
    step (.ofNat n) bs = (some (Char.ofNat n), bs) := by
  have hb : (UInt8.ofNat n).toNat = n := by
    rw [UInt8.toNat_ofNat']
    omega
  simp [step, hb, form?, h, continue?]

theorem step_two (n : Nat) (hmin : 0x80 ≤ n) (hmax : n < 0x800) (bs : List UInt8) :
    step (.ofNat (0xC0 + n >>> 6)) (.ofNat (0x80 + n % 64) :: bs) =
      (some (Char.ofNat n), bs) := by
  rw [Nat.shiftRight_eq_div_pow]
  have hb : (UInt8.ofNat (0xC0 + n / 2 ^ 6)).toNat = 0xC0 + n / 64 := by
    rw [UInt8.toNat_ofNat']
    omega
  have hform : form? (0xC0 + n / 64) = some ⟨n / 64, 1, 0x80, 0xBF⟩ := by
    grind [form?]
  have hn : n / 64 * 64 + n % 64 = n := by omega
  simp only [step, hb, hform]
  rw [continue?_tail (by omega) (by omega) (by omega), hn]
  simp [continue?]

theorem step_three (n : Nat) (hmin : 0x800 ≤ n) (hmax : n < 0x10000)
    (h : n < 0xD800 ∨ 0xDFFF < n) (bs : List UInt8) :
    step (.ofNat (0xE0 + n >>> 12))
        (.ofNat (0x80 + n >>> 6 % 64) :: .ofNat (0x80 + n % 64) :: bs) =
      (some (Char.ofNat n), bs) := by
  rw [Nat.shiftRight_eq_div_pow, Nat.shiftRight_eq_div_pow]
  have hb : (UInt8.ofNat (0xE0 + n / 2 ^ 12)).toNat = 0xE0 + n / 4096 := by
    rw [UInt8.toNat_ofNat']
    omega
  have hform : form? (0xE0 + n / 4096) =
      some ⟨n / 4096, 2, if 0xE0 + n / 4096 = 0xE0 then 0xA0 else 0x80,
        if 0xE0 + n / 4096 = 0xED then 0x9F else 0xBF⟩ := by
    grind [form?]
  have hn : (n / 4096 * 64 + n / 2 ^ 6 % 64) * 64 + n % 64 = n := by omega
  simp only [step, hb, hform]
  -- The first continuation byte leaves out what two bytes could write, and the surrogates.
  rw [continue?_tail (by omega) (by split <;> omega) (by split <;> omega),
    continue?_tail (by omega) (by omega) (by omega), hn]
  simp [continue?]

theorem step_four (n : Nat) (hmin : 0x10000 ≤ n) (hmax : n < 0x110000) (bs : List UInt8) :
    step (.ofNat (0xF0 + n >>> 18))
        (.ofNat (0x80 + n >>> 12 % 64) :: .ofNat (0x80 + n >>> 6 % 64) ::
          .ofNat (0x80 + n % 64) :: bs) =
      (some (Char.ofNat n), bs) := by
  rw [Nat.shiftRight_eq_div_pow, Nat.shiftRight_eq_div_pow, Nat.shiftRight_eq_div_pow]
  have hb : (UInt8.ofNat (0xF0 + n / 2 ^ 18)).toNat = 0xF0 + n / 262144 := by
    rw [UInt8.toNat_ofNat']
    omega
  have hform : form? (0xF0 + n / 262144) =
      some ⟨n / 262144, 3, if 0xF0 + n / 262144 = 0xF0 then 0x90 else 0x80,
        if 0xF0 + n / 262144 = 0xF4 then 0x8F else 0xBF⟩ := by
    grind [form?]
  have hn : ((n / 262144 * 64 + n / 2 ^ 12 % 64) * 64 + n / 2 ^ 6 % 64) * 64 + n % 64 = n := by
    omega
  simp only [step, hb, hform]
  rw [continue?_tail (by omega) (by split <;> omega) (by split <;> omega),
    continue?_tail (by omega) (by omega) (by omega),
    continue?_tail (by omega) (by omega) (by omega), hn]
  simp [continue?]

/-- The bytes of a character are read as that character, and nothing after them is. -/
theorem step_encodeChar (c : Char) :
    ∃ b bs, encodeChar c = b :: bs ∧ ∀ rest, step b (bs ++ rest) = (some c, rest) := by
  have hc := toNat_bounds c
  have hof : Char.ofNat c.toNat = c := Char.ofNat_toNat c
  by_cases h1 : c.toNat < 0x80
  · have henc : encodeChar c = [.ofNat c.toNat] := by simp [encodeChar, h1]
    refine ⟨_, _, henc, fun rest => ?_⟩
    rw [List.nil_append, step_one _ h1, hof]
  by_cases h2 : c.toNat < 0x800
  · have henc : encodeChar c =
        [.ofNat (0xC0 + c.toNat >>> 6), .ofNat (0x80 + c.toNat % 64)] := by
      simp [encodeChar, h1, h2]
    refine ⟨_, _, henc, fun rest => ?_⟩
    rw [List.cons_append, List.nil_append, step_two _ (by omega) h2, hof]
  by_cases h3 : c.toNat < 0x10000
  · have henc : encodeChar c = [.ofNat (0xE0 + c.toNat >>> 12),
        .ofNat (0x80 + c.toNat >>> 6 % 64), .ofNat (0x80 + c.toNat % 64)] := by
      simp [encodeChar, h1, h2, h3]
    refine ⟨_, _, henc, fun rest => ?_⟩
    rw [List.cons_append, List.cons_append, List.nil_append,
      step_three _ (by omega) h3 (by omega), hof]
  · have henc : encodeChar c = [.ofNat (0xF0 + c.toNat >>> 18),
        .ofNat (0x80 + c.toNat >>> 12 % 64), .ofNat (0x80 + c.toNat >>> 6 % 64),
        .ofNat (0x80 + c.toNat % 64)] := by
      simp [encodeChar, h1, h2, h3]
    refine ⟨_, _, henc, fun rest => ?_⟩
    rw [List.cons_append, List.cons_append, List.cons_append, List.nil_append,
      step_four _ (by omega) (by omega), hof]

/-- The first byte of a text announces a character, so it is none of a byte order mark's. -/
theorem head_encode_lt {cs : List Char} {b : UInt8} {bs : List UInt8} (h : encode cs = b :: bs) :
    b.toNat < 0xF5 := by
  cases cs with
  | nil => cases h
  | cons c cs =>
    obtain ⟨lead, tail, hc, hstep⟩ := step_encodeChar c
    rw [encode_cons, hc, List.cons_append] at h
    obtain ⟨rfl, -⟩ := List.cons.inj h
    have hread := hstep []
    rw [step] at hread
    split at hread
    · cases hread
    · next f hform => grind [form?]

theorem encodeChar_ascii {c : Char} (h : c.toNat < 0x80) : encodeChar c = [.ofNat c.toNat] :=
  if_pos h

/-- A character is one byte in ASCII, and otherwise its first byte is not in ASCII either. -/
theorem encodeChar_cases (c : Char) :
    (c.toNat < 0x80 ∧ encodeChar c = [.ofNat c.toNat]) ∨
      0x80 ≤ c.toNat ∧ ∃ b bs, encodeChar c = b :: bs ∧ 0x80 ≤ b.toNat := by
  have hc := toNat_bounds c
  by_cases h1 : c.toNat < 0x80
  · exact .inl ⟨h1, encodeChar_ascii h1⟩
  refine .inr ⟨by omega, ?_⟩
  simp only [encodeChar, h1, if_false]
  split
  · refine ⟨_, _, rfl, ?_⟩
    rw [UInt8.toNat_ofNat', Nat.shiftRight_eq_div_pow]
    omega
  · split
    · refine ⟨_, _, rfl, ?_⟩
      rw [UInt8.toNat_ofNat', Nat.shiftRight_eq_div_pow]
      omega
    · refine ⟨_, _, rfl, ?_⟩
      rw [UInt8.toNat_ofNat', Nat.shiftRight_eq_div_pow]
      omega

theorem ofNat_toNat_eq_iff {c d : Char} (hc : c.toNat < 0x80) (hd : d.toNat < 0x80) :
    UInt8.ofNat c.toNat = .ofNat d.toNat ↔ c = d := by
  rw [← UInt8.toNat_inj, UInt8.toNat_ofNat', UInt8.toNat_ofNat', ← Char.toNat_inj]
  omega

/-- A text starts with an ASCII character when its bytes do. -/
theorem head?_encode_eq_iff {cs : List Char} {d : Char} (hd : d.toNat < 0x80) :
    (encode cs).head? = some (.ofNat d.toNat) ↔ cs.head? = some d := by
  cases cs with
  | nil => simp
  | cons c cs =>
    rw [encode_cons]
    obtain ⟨hc, henc⟩ | ⟨hc, b, bs, henc, hb⟩ := encodeChar_cases c
    · simpa [henc] using ofNat_toNat_eq_iff hc hd
    · have hbyte : b ≠ .ofNat d.toNat := by
        rintro rfl
        rw [UInt8.toNat_ofNat'] at hb
        omega
      have hchar : c ≠ d := by
        rintro rfl
        omega
      simp [henc, hbyte, hchar]

@[simp] theorem encode_append (cs ds : List Char) : encode (cs ++ ds) = encode cs ++ encode ds :=
  List.flatMap_append

theorem decodeLossy_encodeChar_append (c : Char) (rest : List UInt8) :
    decodeLossy (encodeChar c ++ rest) = c :: decodeLossy rest := by
  obtain ⟨b, bs, hc, hstep⟩ := step_encodeChar c
  rw [hc, List.cons_append, decodeLossy_cons, hstep, Option.getD_some]

@[simp] theorem decodeLossy_encode (cs : List Char) : decodeLossy (encode cs) = cs := by
  induction cs with
  | nil => simp
  | cons c cs ih => rw [encode_cons, decodeLossy_encodeChar_append, ih]

theorem encode_injective : Function.Injective encode := by
  intro cs ds h
  rw [← decodeLossy_encode cs, h, decodeLossy_encode]

@[simp] theorem isEmpty_encode (cs : List Char) : (encode cs).isEmpty = cs.isEmpty := by
  rw [Bool.eq_iff_iff, List.isEmpty_iff, List.isEmpty_iff]
  exact encode_injective.eq_iff' encode_nil

theorem decodeFrom?_encodeChar_append (done : List Char) (c : Char) (rest : List UInt8) :
    decodeFrom? done (encodeChar c ++ rest) = decodeFrom? (c :: done) rest := by
  obtain ⟨b, bs, hc, hstep⟩ := step_encodeChar c
  rw [hc, List.cons_append, decodeFrom?, hstep]

/-- The strict decoder accepts what was encoded. -/
theorem decode?_encode (cs : List Char) : decode? (encode cs) = some cs := by
  have hfrom (done : List Char) : decodeFrom? done (encode cs) = some (done.reverse ++ cs) := by
    induction cs generalizing done with
    | nil => simp [decodeFrom?]
    | cons c cs ih => rw [encode_cons, decodeFrom?_encodeChar_append, ih]; simp
  exact hfrom []

end MediaTags.Text.Utf8
