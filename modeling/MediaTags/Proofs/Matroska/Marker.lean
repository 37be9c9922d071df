import MediaTags.Proofs.Matroska.Vint

/-!
# Which bytes are ids and sizes

An id and a size are read where their first byte carries a length marker and as many bytes follow
as it says, and nowhere else. What is read is the number that these bytes write, with its marker if
it is an id and without it if it is a size.
-/

namespace MediaTags.Matroska

open Bytes (bigEndian)

/-- The first byte of a number tells how many bytes it has: as many zero bits stand in front of its
highest one as bytes follow. -/
def CarriesMarker : List UInt8 → Prop
  | [] => False
  | b :: more =>
    more.length < 8 ∧ 2 ^ (7 - more.length) ≤ b.toNat ∧ b.toNat < 2 ^ (8 - more.length)

theorem carriesMarker_iff_markedWidth {b : UInt8} {more : List UInt8} :
    CarriesMarker (b :: more) ↔ more.length < 8 ∧ markedWidth b = more.length + 1 := by
  refine and_congr_right fun hlt => ?_
  have hlow : 8 - (more.length + 1) = 7 - more.length := by omega
  have hhigh : 9 - (more.length + 1) = 8 - more.length := by omega
  rw [markedWidth_eq_iff (by omega) (by omega), hlow, hhigh]

/-- The bytes of a number with its marker in front. -/
theorem carriesMarker_of_take {b : UInt8} {bs : List UInt8} {width : Nat}
    (hwidth : markedWidth b = width) (hmax : width ≤ 8) (hlen : width - 1 ≤ bs.length) :
    CarriesMarker (b :: bs.take (width - 1)) := by
  have hpos := markedWidth_pos b
  rw [carriesMarker_iff_markedWidth, List.length_take_of_le hlen]
  omega

/-- An id is read where it is written, marker included, and from no other bytes. -/
theorem readId_eq_ok_iff {bs rest : List UInt8} {id : Nat} :
    readId bs = .ok (id, rest) ↔
      ∃ written, CarriesMarker written ∧ written.length ≤ 4 ∧ bs = written ++ rest ∧
        id = bigEndian written := by
  constructor
  · intro h
    cases bs with
    | nil => cases h
    | cons b bs =>
      rw [readId] at h
      split at h
      · cases h
      next hmax =>
      rw [takeBytes_eq] at h
      split at h
      · next hlen =>
        cases h
        have hmarker := carriesMarker_of_take (b := b) rfl (by omega) hlen
        refine ⟨b :: bs.take (markedWidth b - 1), hmarker, ?_, ?_, ?_⟩
        · rw [List.length_cons, List.length_take_of_le hlen]
          omega
        · rw [List.cons_append, List.take_append_drop]
        · rw [Bytes.bigEndian_cons, List.length_take_of_le hlen]
      · cases h
  · rintro ⟨written, hmarker, hmax, rfl, rfl⟩
    cases written with
    | nil => cases hmarker
    | cons b more =>
      obtain ⟨-, hwidth⟩ := carriesMarker_iff_markedWidth.1 hmarker
      rw [List.length_cons] at hmax
      rw [List.cons_append, readId, hwidth, if_neg (by omega), Nat.add_sub_cancel,
        takeBytes_append, Bytes.bigEndian_cons]

/-- Bytes that carry their marker write a number that does. -/
theorem CarriesMarker.marked {bs : List UInt8} (h : CarriesMarker bs) :
    Marked bs.length (bigEndian bs) := by
  cases bs with
  | nil => cases h
  | cons b more =>
    obtain ⟨hlt, hlow, hhigh⟩ := h
    have hrest := Bytes.bigEndian_lt more
    have hmin : 2 ^ (7 * (more.length + 1)) = 2 ^ (7 - more.length) * 256 ^ more.length :=
      two_pow_eq_mul_pow (by omega)
    have hmax : 2 ^ (7 * (more.length + 1) + 1) = 2 ^ (8 - more.length) * 256 ^ more.length :=
      two_pow_eq_mul_pow (by omega)
    rw [Marked, List.length_cons, Bytes.bigEndian_cons, hmin, hmax]
    constructor
    · exact (Nat.mul_le_mul_right _ hlow).trans (Nat.le_add_right _ _)
    · calc b.toNat * 256 ^ more.length + bigEndian more
          < (b.toNat + 1) * 256 ^ more.length := by rw [Nat.succ_mul]; omega
        _ ≤ 2 ^ (8 - more.length) * 256 ^ more.length := Nat.mul_le_mul_right _ hhigh

/-- Bytes that carry their marker write a size of their width. -/
theorem CarriesMarker.exists_size {bs : List UInt8} (h : CarriesMarker bs) :
    ∃ n < 2 ^ (7 * bs.length), bs = sizeBytes bs.length n := by
  obtain ⟨hmin, hmax⟩ := h.marked
  rw [Nat.pow_succ] at hmax
  refine ⟨bigEndian bs - 2 ^ (7 * bs.length), by omega, ?_⟩
  rw [sizeBytes, Nat.add_sub_cancel' hmin, Bytes.ofNumber_bigEndian]

theorem CarriesMarker.length_bounds {bs : List UInt8} (h : CarriesMarker bs) :
    1 ≤ bs.length ∧ bs.length ≤ 8 := by
  cases bs with
  | nil => cases h
  | cons b more => exact ⟨Nat.succ_pos _, h.1⟩

/-- What a size is read from carries its marker. -/
theorem exists_carriesMarker_of_readSize {bs rest : List UInt8} {size : Option Nat}
    (h : readSize bs = .ok (size, rest)) :
    ∃ written more, CarriesMarker written ∧ bs = written ++ more := by
  cases bs with
  | nil => cases h
  | cons b bs =>
    simp only [readSize] at h
    split at h
    · cases h
    next hmax =>
    rw [takeBytes_eq] at h
    split at h
    · next hlen =>
      refine ⟨_, bs.drop (markedWidth b - 1), carriesMarker_of_take rfl (by omega) hlen, ?_⟩
      rw [List.cons_append, List.take_append_drop]
    · cases h

/-- A size is read where it is written in one to eight bytes, and from no other bytes. The largest
number of each width is the size that is not known. -/
theorem readSize_eq_ok_iff {bs rest : List UInt8} {size : Option Nat} :
    readSize bs = .ok (size, rest) ↔
      ∃ width n, 1 ≤ width ∧ width ≤ 8 ∧ n < 2 ^ (7 * width) ∧ bs = sizeBytes width n ++ rest ∧
        size = if n = 2 ^ (7 * width) - 1 then none else some n := by
  constructor
  · intro h
    obtain ⟨written, more, hmarker, rfl⟩ := exists_carriesMarker_of_readSize h
    obtain ⟨hpos, hmax⟩ := hmarker.length_bounds
    obtain ⟨n, hn, hwritten⟩ := hmarker.exists_size
    rw [hwritten, readSize_sizeBytes hpos hmax hn, unknownSize_eq] at h
    cases h
    exact ⟨written.length, n, hpos, hmax, hn, by rw [← hwritten], rfl⟩
  · rintro ⟨width, n, hpos, hmax, hn, rfl, rfl⟩
    rw [readSize_sizeBytes hpos hmax hn, unknownSize_eq]

/-- Of eight bytes the first holds nothing but the marker. -/
example : readSize (0x01 :: List.replicate 7 0xFF ++ [5]) = .ok (none, [5]) := by
  decide +kernel

/-- A size is accepted exactly where it is written in one to eight bytes. These bytes and no others
are taken, and the size is not known if all bits behind the marker are set. An id is accepted
exactly where one to four bytes carry their marker, and is the number that all of them write. -/
theorem accepts_iff_written (bs rest : List UInt8) :
    (∀ size, readSize bs = .ok (size, rest) ↔
      ∃ width n, 1 ≤ width ∧ width ≤ 8 ∧ n < 2 ^ (7 * width) ∧ bs = sizeBytes width n ++ rest ∧
        bs.length = width + rest.length ∧
        size = if n = 2 ^ (7 * width) - 1 then none else some n) ∧
    ∀ id, readId bs = .ok (id, rest) ↔
      ∃ written, CarriesMarker written ∧ written.length ≤ 4 ∧ bs = written ++ rest ∧
        id = bigEndian written := by
  refine ⟨fun size => readSize_eq_ok_iff.trans ?_, fun id => readId_eq_ok_iff⟩
  constructor
  · rintro ⟨width, n, hpos, hmax, hn, rfl, hsize⟩
    exact ⟨width, n, hpos, hmax, hn, rfl, by simp, hsize⟩
  · rintro ⟨width, n, hpos, hmax, hn, hbytes, -, hsize⟩
    exact ⟨width, n, hpos, hmax, hn, hbytes, hsize⟩

end MediaTags.Matroska
