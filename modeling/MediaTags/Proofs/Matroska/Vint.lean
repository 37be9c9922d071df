import MediaTags.Matroska.Vint
import MediaTags.Proofs.Bytes

/-!
# Ids and sizes that were written are read back

A number of `width` bytes with its marker lies between two powers of two, so that its first byte
tells the width. An id is such a number itself; the marker is put in front of a size.
-/

namespace MediaTags.Matroska

theorem takeBytes_eq (value count : Nat) (bs : List UInt8) :
    takeBytes value count bs =
      if count ≤ bs.length then
        .ok (value * 256 ^ count + Bytes.bigEndian (bs.take count), bs.drop count)
      else .error .endOfData := by
  induction count generalizing value bs with
  | zero => simp [takeBytes]
  | succ count ih =>
    cases bs with
    | nil => simp [takeBytes]
    | cons b bs =>
      rw [takeBytes, ih, List.length_cons, List.take_succ_cons, List.drop_succ_cons,
        Bytes.bigEndian_cons]
      by_cases h : count ≤ bs.length
      · rw [if_pos h, if_pos (Nat.succ_le_succ h), List.length_take_of_le h]
        congr 2
        ring
      · rw [if_neg h, if_neg (by omega)]

theorem takeBytes_append (value : Nat) (bs rest : List UInt8) :
    takeBytes value bs.length (bs ++ rest) =
      .ok (value * 256 ^ bs.length + Bytes.bigEndian bs, rest) := by
  rw [takeBytes_eq, if_pos (by simp), List.take_left, List.drop_left]

/-- The first byte of a number tells its width by its highest bit. -/
theorem markedWidth_eq_iff {b : UInt8} {width : Nat} (hpos : 1 ≤ width) (hmax : width ≤ 8) :
    markedWidth b = width ↔ 2 ^ (8 - width) ≤ b.toNat ∧ b.toNat < 2 ^ (9 - width) := by
  have hb := b.toNat_lt
  simp only [markedWidth, UInt8.le_iff_toNat_le, UInt8.toNat_ofNat]
  interval_cases width <;> grind

/-- Some of the bits of a power of two make up whole bytes. -/
theorem two_pow_eq_mul_pow {n m k : Nat} (h : n = m + 8 * k) : 2 ^ n = 2 ^ m * 256 ^ k := by
  rw [h, Nat.pow_add, Nat.pow_mul]

/-- A number of `width` bytes, marker included. -/
def Marked (width n : Nat) : Prop := 2 ^ (7 * width) ≤ n ∧ n < 2 ^ (7 * width + 1)

instance (width n : Nat) : Decidable (Marked width n) := inferInstanceAs (Decidable (_ ∧ _))

theorem Marked.first_byte {k n : Nat} (h : Marked (k + 1) n) (hk : k < 8) :
    2 ^ (8 - (k + 1)) ≤ n / 256 ^ k ∧ n / 256 ^ k < 2 ^ (9 - (k + 1)) := by
  obtain ⟨hlow, hhigh⟩ := h
  have hlow' : 2 ^ (7 * (k + 1)) = 2 ^ (8 - (k + 1)) * 256 ^ k := two_pow_eq_mul_pow (by omega)
  have hhigh' : 2 ^ (7 * (k + 1) + 1) = 2 ^ (9 - (k + 1)) * 256 ^ k :=
    two_pow_eq_mul_pow (by omega)
  constructor
  · rw [Nat.le_div_iff_mul_le (by positivity), ← hlow']
    exact hlow
  · rw [Nat.div_lt_iff_lt_mul (by positivity), ← hhigh']
    exact hhigh

/-- The digits of a number with its marker: the first tells the width, and all give the number. -/
theorem Marked.ofNumber {width n : Nat} (h : Marked width n) (hpos : 1 ≤ width)
    (hmax : width ≤ 8) :
    ∃ b bs, Bytes.ofNumber width n = b :: bs ∧ markedWidth b = width ∧ bs.length = width - 1 ∧
      2 ^ (8 - width) ≤ b.toNat ∧ b.toNat < 2 ^ (9 - width) ∧
      b.toNat * 256 ^ bs.length + Bytes.bigEndian bs = n := by
  obtain ⟨k, rfl⟩ : ∃ k, width = k + 1 := ⟨width - 1, by omega⟩
  obtain ⟨hlow, hhigh⟩ := h.first_byte (by omega)
  have hbyte : n / 256 ^ k < 256 :=
    hhigh.trans_le (Nat.pow_le_pow_right (by decide) (by omega : 9 - (k + 1) ≤ 8))
  have hb : (UInt8.ofNat (n / 256 ^ k)).toNat = n / 256 ^ k := by
    rw [UInt8.toNat_ofNat', Nat.mod_eq_of_lt hbyte]
  refine ⟨_, _, rfl, ?_, ?_, ?_, ?_, ?_⟩
  · rw [markedWidth_eq_iff hpos hmax, hb]
    exact ⟨hlow, hhigh⟩
  · simp
  · rw [hb]
    exact hlow
  · rw [hb]
    exact hhigh
  · rw [hb, Bytes.length_ofNumber, Bytes.bigEndian_ofNumber]
    exact Nat.div_add_mod' n (256 ^ k)

/-- The bytes that an id takes. -/
def idWidth (id : Nat) : Nat :=
  if id < 0x100 then 1 else if id < 0x10000 then 2 else if id < 0x1000000 then 3 else 4

def IsId (id : Nat) : Prop := Marked (idWidth id) id

instance (id : Nat) : Decidable (IsId id) := inferInstanceAs (Decidable (Marked _ _))

def idBytes (id : Nat) : List UInt8 := Bytes.ofNumber (idWidth id) id

/-- A size in `width` bytes. -/
def sizeBytes (width size : Nat) : List UInt8 := Bytes.ofNumber width (2 ^ (7 * width) + size)

theorem idWidth_bounds (id : Nat) : 1 ≤ idWidth id ∧ idWidth id ≤ 4 := by
  unfold idWidth
  repeat' split
  all_goals decide

@[simp] theorem length_idBytes (id : Nat) : (idBytes id).length = idWidth id := by
  simp [idBytes]

@[simp] theorem length_sizeBytes (width size : Nat) : (sizeBytes width size).length = width := by
  simp [sizeBytes]

theorem readId_idBytes {id : Nat} (h : IsId id) (rest : List UInt8) :
    readId (idBytes id ++ rest) = .ok (id, rest) := by
  obtain ⟨hpos, hmax⟩ := idWidth_bounds id
  obtain ⟨b, bs, hbytes, hwidth, hlen, -, -, hid⟩ := h.ofNumber hpos (by omega)
  rw [idBytes, hbytes, List.cons_append, readId, hwidth, if_neg (by omega), ← hlen,
    takeBytes_append, hid]

theorem unknownSize_eq (width : Nat) : unknownSize width = 2 ^ (7 * width) - 1 := by
  rw [unknownSize, Nat.one_shiftLeft]

theorem readSize_sizeBytes {width size : Nat} (hpos : 1 ≤ width) (hmax : width ≤ 8)
    (h : size < 2 ^ (7 * width)) (rest : List UInt8) :
    readSize (sizeBytes width size ++ rest) =
      .ok (if size = unknownSize width then none else some size, rest) := by
  have hmarked : Marked width (2 ^ (7 * width) + size) :=
    ⟨Nat.le_add_right _ _, by rw [Nat.pow_succ]; omega⟩
  obtain ⟨b, bs, hbytes, hwidth, hlen, hlow, hhigh, hsum⟩ := hmarked.ofNumber hpos hmax
  have hvalue : b.toNat % 2 ^ (8 - width) = b.toNat - 2 ^ (8 - width) := by
    have hdouble : 2 ^ (9 - width) = 2 ^ (8 - width) * 2 := by
      rw [← Nat.pow_succ]
      congr 1
      omega
    rw [Nat.mod_eq_sub_mod hlow, Nat.mod_eq_of_lt (by omega)]
  have hmark : 2 ^ (7 * width) = 2 ^ (8 - width) * 256 ^ bs.length :=
    two_pow_eq_mul_pow (by omega)
  -- The marker is the part of the first byte that is left out.
  have hsize : (b.toNat - 2 ^ (8 - width)) * 256 ^ bs.length + Bytes.bigEndian bs = size := by
    rw [Nat.sub_mul, ← hmark]
    have : 2 ^ (7 * width) ≤ b.toNat * 256 ^ bs.length := by
      rw [hmark]
      exact Nat.mul_le_mul_right _ hlow
    omega
  rw [sizeBytes, hbytes, List.cons_append, readSize]
  simp only [hwidth, Nat.one_shiftLeft]
  rw [if_neg (by omega), hvalue, ← hlen, takeBytes_append, hsize]
  rfl

end MediaTags.Matroska
