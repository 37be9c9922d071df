import MediaTags.Bytes
import MediaTags.Matroska.Fault

/-!
# Ids and sizes

Both are numbers of varying width. The zero bits in front of the first byte say how many bytes
follow it. An id keeps its length marker and has at most four bytes. A size leaves the marker out
and has at most eight; the size with all its bits set means that the size is not known.
-/

namespace MediaTags.Matroska

/-- How many bytes a number has whose first byte is `b`; nine when the marker is missing. -/
def markedWidth (b : UInt8) : Nat :=
  if 0x80 ≤ b then 1
  else if 0x40 ≤ b then 2
  else if 0x20 ≤ b then 3
  else if 0x10 ≤ b then 4
  else if 0x08 ≤ b then 5
  else if 0x04 ≤ b then 6
  else if 0x02 ≤ b then 7
  else if 0x01 ≤ b then 8
  else 9

theorem markedWidth_pos (b : UInt8) : 0 < markedWidth b := by
  unfold markedWidth
  repeat' split
  all_goals decide

/-- Take `count` more bytes in front of `value`. -/
def takeBytes (value : Nat) : Nat → List UInt8 → Except Fault (Nat × List UInt8)
  | 0, bs => .ok (value, bs)
  | _ + 1, [] => .error .endOfData
  | count + 1, b :: bs => takeBytes (value * 256 + b.toNat) count bs

theorem length_of_takeBytes {value count n : Nat} {bs rest : List UInt8}
    (h : takeBytes value count bs = .ok (n, rest)) : bs.length = count + rest.length := by
  induction count generalizing value bs with
  | zero => simp only [takeBytes, Except.ok.injEq, Prod.mk.injEq] at h; simp [h.2]
  | succ count ih =>
    cases bs with
    | nil => simp [takeBytes] at h
    | cons b bs => simp only [takeBytes] at h; simp [ih h]; omega

/-- Read an id, marker included. -/
def readId : List UInt8 → Except Fault (Nat × List UInt8)
  | [] => .error .endOfData
  | b :: bs =>
    if 4 < markedWidth b then .error .idTooWide
    else takeBytes b.toNat (markedWidth b - 1) bs

/-- The largest number of a width, which no size has. -/
def unknownSize (width : Nat) : Nat := 1 <<< (7 * width) - 1

/-- Read a size, or nothing for the size that is not known. -/
def readSize : List UInt8 → Except Fault (Option Nat × List UInt8)
  | [] => .error .endOfData
  | b :: bs =>
    let width := markedWidth b
    if 8 < width then .error .sizeTooWide
    else
      (takeBytes (b.toNat % (1 <<< (8 - width))) (width - 1) bs).map fun (n, rest) =>
        (if n = unknownSize width then none else some n, rest)

theorem length_of_readId {n : Nat} {bs rest : List UInt8} (h : readId bs = .ok (n, rest)) :
    rest.length < bs.length := by
  cases bs with
  | nil => simp [readId] at h
  | cons b bs =>
    simp only [readId] at h
    split at h
    · cases h
    · have := length_of_takeBytes h
      simp; omega

theorem length_of_readSize {n : Option Nat} {bs rest : List UInt8}
    (h : readSize bs = .ok (n, rest)) : rest.length < bs.length := by
  cases bs with
  | nil => simp [readSize] at h
  | cons b bs =>
    simp only [readSize] at h
    split at h
    · cases h
    · match ht : takeBytes (b.toNat % (1 <<< (8 - markedWidth b))) (markedWidth b - 1) bs with
      | .error f => rw [ht] at h; cases h
      | .ok (m, r) =>
        rw [ht] at h
        simp only [Except.map, Except.ok.injEq, Prod.mk.injEq] at h
        have := length_of_takeBytes ht
        simp [← h.2]; omega

end MediaTags.Matroska
