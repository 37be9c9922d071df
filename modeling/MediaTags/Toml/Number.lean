import MediaTags.Text.LeadingNumber
import MediaTags.Toml.Text

/-!
# Numbers

Integers are signed 64-bit numbers, written in base ten or, without a sign, in base sixteen, eight
or two. A float has a fraction or an exponent and must not round to positive infinity, which has a
name of its own. Single underscores may stand between digits.
-/

namespace MediaTags.Toml.Number

/-- The rest of a run of digits. -/
def readDigitsAfter (isDigit : Char → Bool) : Reader (List Char)
  | '_' :: c :: cs =>
    if isDigit c then (readDigitsAfter isDigit cs).map fun (ds, rest) => (c :: ds, rest) else none
  | c :: cs =>
    if isDigit c then (readDigitsAfter isDigit cs).map fun (ds, rest) => (c :: ds, rest)
    else if c = '_' then none
    else some ([], c :: cs)
  | [] => some ([], [])

def readDigits (isDigit : Char → Bool) : Reader (List Char)
  | c :: cs =>
    if isDigit c then (readDigitsAfter isDigit cs).map fun (ds, rest) => (c :: ds, rest) else none
  | [] => none

/-- Digits without a zero in front. -/
def readDecimal : Reader (List Char)
  | '0' :: cs => some (['0'], cs)
  | cs => readDigits Char.isDigit cs

def isDigitBelow (base : Nat) (c : Char) : Bool :=
  match Text.hexValue? c with
  | some d => d < base
  | none => false

def valueIn (base : Nat) (ds : List Char) : Nat :=
  ds.foldl (fun n c => n * base + (Text.hexValue? c).getD 0) 0

/-- A number that fits in 64 bits with its sign. -/
def inRange? (n : Int) : Option Int :=
  if -0x8000000000000000 ≤ n ∧ n ≤ 0x7FFFFFFFFFFFFFFF then some n else none

def readIn (base : Nat) : Reader Int := fun cs => do
  let (ds, rest) ← readDigits (isDigitBelow base) cs
  let n ← inRange? (valueIn base ds)
  return (n, rest)

def readInteger : Reader Int
  | '0' :: 'x' :: cs => readIn 16 cs
  | '0' :: 'o' :: cs => readIn 8 cs
  | '0' :: 'b' :: cs => readIn 2 cs
  | cs => do
    let (negative, cs) := MediaTags.Text.splitSign cs
    let (ds, rest) ← readDecimal cs
    let n := valueIn 10 ds
    let n ← inRange? (if negative then -n else n)
    return (n, rest)

/-- The least number that rounds to infinity, half way beyond the largest 64-bit float. -/
def overflowBound : Nat := 1 <<< 1024 - 1 <<< 970

/-- Whether `ds` as a number, times ten to the `e`, rounds to infinity. -/
def overflows (ds : List Char) (e : Int) : Bool :=
  let ds := ds.dropWhile (· == '0')
  let digits : Int := ds.length
  if ds.isEmpty || digits + e < 300 then false
  else if 400 < digits + e then true
  else
    let n := valueIn 10 ds
    if 0 ≤ e then overflowBound ≤ n * Nat.pow 10 e.toNat
    else overflowBound * Nat.pow 10 (-e).toNat ≤ n

/-- The digits after the point, if there is one. -/
def readFraction : Reader (List Char)
  | '.' :: cs => readDigits Char.isDigit cs
  | cs => some ([], cs)

/-- The exponent, if there is one. -/
def readExponent (cs : List Char) : Option (Option Int × List Char) :=
  match cs with
  | c :: after =>
    if c = 'e' ∨ c = 'E' then do
      let (negative, digits) := MediaTags.Text.splitSign after
      let (ds, rest) ← readDigits Char.isDigit digits
      let n : Int := valueIn 10 ds
      return (some (if negative then -n else n), rest)
    else some (none, cs)
  | [] => some (none, [])

/-- What follows a float. -/
def afterFloat? (cs : List Char) : Option (List Char) := do
  let (negative, cs) := MediaTags.Text.splitSign cs
  match cs with
  | 'i' :: 'n' :: 'f' :: rest => return rest
  | 'n' :: 'a' :: 'n' :: rest => return rest
  | _ =>
    let (whole, cs) ← readDecimal cs
    let (fraction, cs) ← readFraction cs
    let (exponent, rest) ← readExponent cs
    if fraction.isEmpty ∧ exponent = none then none
    else if !negative && overflows (whole ++ fraction) (exponent.getD 0 - fraction.length) then none
    else return rest

end MediaTags.Toml.Number
