import Mathlib.Tactic
import MediaTags.Bytes

/-!
# Pieces of byte strings

Reading a range of a byte string is dropping what is in front of it and taking what is in it. A
number is written in base 256 with as many digits as are wanted, and read back from them.
-/

namespace MediaTags.Bytes

theorem window_eq (b : Bytes) (start count : Nat) :
    b.window start count = (b.toList.drop start).take count := by
  simp [window]

@[simp] theorem length_window (b : Bytes) (start count : Nat) :
    (b.window start count).length = min count (b.size - start) := by
  simp [window_eq]

@[simp] theorem window_zero (b : Bytes) (start : Nat) : b.window start 0 = [] := by
  simp [window_eq]

theorem take_window (b : Bytes) (start m n : Nat) :
    (b.window start m).take n = b.window start (min n m) := by
  rw [window_eq, window_eq, List.take_take]

theorem drop_window (b : Bytes) (start m n : Nat) :
    (b.window start m).drop n = b.window (start + n) (m - n) := by
  rw [window_eq, window_eq, List.drop_take, List.drop_drop]

theorem window_add (b : Bytes) (start m n : Nat) :
    b.window start (m + n) = b.window start m ++ b.window (start + m) n := by
  rw [window_eq, window_eq, window_eq, List.take_add, List.drop_drop]

/-- A window is as long as it is wide, or ends with the bytes. -/
theorem window_min (b : Bytes) (start count : Nat) :
    b.window start (min count (b.size - start)) = b.window start count := by
  rw [window_eq, window_eq, List.take_eq_take_iff]
  simp

/-- The bytes from a position on start with some. -/
def Holds (b : Bytes) (pos : Nat) (bs : List UInt8) : Prop := bs <+: b.toList.drop pos

instance (b : Bytes) (pos : Nat) (bs : List UInt8) : Decidable (b.Holds pos bs) :=
  inferInstanceAs (Decidable (_ <+: _))

theorem Holds.left {b : Bytes} {pos : Nat} {bs cs : List UInt8} (h : b.Holds pos (bs ++ cs)) :
    b.Holds pos bs :=
  (List.prefix_append bs cs).trans h

theorem Holds.right {b : Bytes} {pos : Nat} {bs cs : List UInt8} (h : b.Holds pos (bs ++ cs)) :
    b.Holds (pos + bs.length) cs := by
  obtain ⟨rest, hrest⟩ := h
  refine ⟨rest, ?_⟩
  rw [← List.drop_drop, ← hrest, List.append_assoc, List.drop_left]

theorem Holds.slice? {b : Bytes} {pos : Nat} {bs : List UInt8} (h : b.Holds pos bs)
    (hpos : pos ≤ b.size) : b.slice? pos bs.length = some bs := by
  have hlen : bs.length ≤ b.size - pos := by simpa using h.length_le
  have hwindow : b.window pos bs.length = bs := by
    rw [window_eq, ← List.prefix_iff_eq_take.1 h]
  rw [Bytes.slice?, if_pos (by omega)]
  exact congrArg some hwindow

theorem length_of_slice? {b : Bytes} {start count : Nat} {bs : List UInt8}
    (h : b.slice? start count = some bs) : bs.length = count := by
  unfold slice? at h
  split at h
  · cases h
    simp
    omega
  · cases h

theorem Holds.window {b : Bytes} {pos : Nat} {bs : List UInt8} (h : b.Holds pos bs) (count : Nat)
    (hcount : bs.length ≤ count) : ∃ rest, b.window pos count = bs ++ rest := by
  obtain ⟨rest, hrest⟩ := h
  refine ⟨rest.take (count - bs.length), ?_⟩
  rw [window_eq, ← hrest, List.take_append, List.take_of_length_le hcount]

theorem foldl_bigEndian (value : Nat) (bs : List UInt8) :
    bs.foldl (fun n b => n * 256 + b.toNat) value = value * 256 ^ bs.length + bigEndian bs := by
  induction bs generalizing value with
  | nil => simp
  | cons b bs ih =>
    rw [bigEndian, List.foldl_cons, List.foldl_cons, ih, ih (0 * 256 + b.toNat), List.length_cons]
    ring

theorem bigEndian_cons (b : UInt8) (bs : List UInt8) :
    bigEndian (b :: bs) = b.toNat * 256 ^ bs.length + bigEndian bs := by
  rw [bigEndian, List.foldl_cons, foldl_bigEndian]
  simp

theorem bigEndian_lt (bs : List UInt8) : bigEndian bs < 256 ^ bs.length := by
  induction bs with
  | nil => simp
  | cons b bs ih =>
    have hb : b.toNat + 1 ≤ 256 := b.toNat_lt
    calc bigEndian (b :: bs) = b.toNat * 256 ^ bs.length + bigEndian bs := bigEndian_cons b bs
      _ < (b.toNat + 1) * 256 ^ bs.length := by rw [Nat.succ_mul]; omega
      _ ≤ 256 * 256 ^ bs.length := Nat.mul_le_mul_right _ hb
      _ = 256 ^ (b :: bs).length := by rw [List.length_cons, pow_succ']

/-- The last `width` digits of a number, most significant first. -/
def ofNumber : Nat → Nat → List UInt8
  | 0, _ => []
  | width + 1, n => .ofNat (n / 256 ^ width) :: ofNumber width n

@[simp] theorem length_ofNumber (width n : Nat) : (ofNumber width n).length = width := by
  induction width with
  | zero => rfl
  | succ width ih => rw [ofNumber, List.length_cons, ih]

theorem bigEndian_ofNumber (width n : Nat) : bigEndian (ofNumber width n) = n % 256 ^ width := by
  induction width with
  | zero => simp [ofNumber, Nat.mod_one]
  | succ width ih =>
    have hb : (UInt8.ofNat (n / 256 ^ width)).toNat = n / 256 ^ width % 256 := UInt8.toNat_ofNat'
    rw [ofNumber, bigEndian_cons, ih, hb, length_ofNumber, Nat.mod_pow_succ, Nat.mul_comm]
    exact Nat.add_comm _ _

/-- The digits further in front do not matter. -/
theorem ofNumber_mul_add (width a n : Nat) :
    ofNumber width (a * 256 ^ width + n) = ofNumber width n := by
  induction width generalizing a with
  | zero => rfl
  | succ width ih =>
    have hpos : 0 < 256 ^ width := by positivity
    have hsplit : a * 256 ^ (width + 1) + n = a * 256 * 256 ^ width + n := by ring
    have hdigit : (a * 256 * 256 ^ width + n) / 256 ^ width = a * 256 + n / 256 ^ width := by
      rw [Nat.add_comm, Nat.add_mul_div_right _ _ hpos, Nat.add_comm]
    rw [ofNumber, ofNumber, hsplit, ih, hdigit]
    congr 1
    rw [← UInt8.toNat_inj, UInt8.toNat_ofNat', UInt8.toNat_ofNat']
    omega

/-- Bytes are told by how many they are and by the number that they write. -/
theorem ofNumber_bigEndian (bs : List UInt8) : ofNumber bs.length (bigEndian bs) = bs := by
  induction bs with
  | nil => rfl
  | cons b bs ih =>
    have hlt := bigEndian_lt bs
    have hdigit : (b.toNat * 256 ^ bs.length + bigEndian bs) / 256 ^ bs.length = b.toNat := by
      rw [Nat.mul_comm, Nat.mul_add_div (by positivity), Nat.div_eq_of_lt hlt, Nat.add_zero]
    rw [bigEndian_cons, List.length_cons, ofNumber, hdigit, ofNumber_mul_add, ih]
    simp

end MediaTags.Bytes
