/-!
# Byte strings

Files and payloads are byte arrays. Reading a range gives its bytes when all of it is there.
-/

namespace MediaTags

abbrev Bytes := Array UInt8

namespace Bytes

/-- The `count` bytes from `start` on, if the array holds them all. -/
def slice? (b : Bytes) (start count : Nat) : Option (List UInt8) :=
  if start + count ≤ b.size then some (b.extract start (start + count)).toList else none

/-- At most `count` bytes from `start` on. -/
def window (b : Bytes) (start count : Nat) : List UInt8 :=
  (b.extract start (start + count)).toList

/-- The number that the bytes write in base 256, most significant byte first. -/
def bigEndian (bs : List UInt8) : Nat :=
  bs.foldl (fun n b => n * 256 + b.toNat) 0

/-- Take `count` bytes off the front, if there are so many. -/
def takeBytes? (count : Nat) (bs : List UInt8) : Option (List UInt8 × List UInt8) :=
  let (head, rest) := bs.splitAt count
  if head.length = count then some (head, rest) else none

/-- Take a big-endian number of `width` bytes off the front. -/
def takeNumber? (width : Nat) (bs : List UInt8) : Option (Nat × List UInt8) :=
  (takeBytes? width bs).map fun (head, rest) => (bigEndian head, rest)

@[simp] theorem takeBytes?_eq (count : Nat) (bs : List UInt8) :
    takeBytes? count bs =
      if count ≤ bs.length then some (bs.take count, bs.drop count) else none := by
  simp only [takeBytes?, List.splitAt_eq, List.length_take]
  by_cases h : count ≤ bs.length
  · simp [h]
  · simp only [h, if_false, ite_eq_right_iff, reduceCtorEq, imp_false]; omega

@[simp] theorem bigEndian_nil : bigEndian [] = 0 := rfl

end Bytes

end MediaTags
