/-!
# Sets of code points as ranges

A set is a list of closed ranges, in order and disjoint.
-/

namespace MediaTags.Text

def inRanges (ranges : List (Nat × Nat)) (c : Char) : Bool :=
  match ranges.find? (fun r => c.toNat ≤ r.2) with
  | some r => r.1 ≤ c.toNat
  | none => false

end MediaTags.Text
