import MediaTags.Text.Blank

/-!
# Numbers at the head of a text

A tag such as `03/12` means its leading number. Blanks and one sign may come first; the value is
an unsigned 32-bit count, so a negative number is zero and a large one is the largest count.
-/

namespace MediaTags.Text

/-- The largest unsigned 32-bit number. -/
def maxCount : Nat := UInt32.size - 1

/-- The value of a run of decimal digits. -/
def digitsValue (cs : List Char) : Nat :=
  cs.foldl (fun n c => n * 10 + (c.toNat - '0'.toNat)) 0

/-- Split off one leading sign: whether it is a minus, and what follows. -/
def splitSign : List Char → Bool × List Char
  | '-' :: cs => (true, cs)
  | '+' :: cs => (false, cs)
  | cs => (false, cs)

/-- The leading number, or nothing when no digit follows the blanks and the sign. -/
def leadingNumber? (s : String) : Option Nat :=
  let (negative, cs) := splitSign (trimStartChars s.toList)
  let digits := cs.takeWhile Char.isDigit
  if digits.isEmpty then none
  else if negative then some 0
  else some (min (digitsValue digits) maxCount)

end MediaTags.Text
