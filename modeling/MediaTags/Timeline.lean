/-!
# Time bases and milliseconds

A timestamp counts units of its time base, a fraction of a second. Timestamps are signed 64-bit
numbers, and so are the milliseconds made from them: a result out of range becomes the nearest
number in range.
-/

namespace MediaTags

/-- The largest signed 64-bit number. -/
def maxInstant : Int := 0x7FFFFFFFFFFFFFFF

/-- The smallest signed 64-bit number. -/
def minInstant : Int := -0x8000000000000000

def clampInstant (n : Int) : Int := max minInstant (min n maxInstant)

/-- The unit of a timestamp, `numer / denom` seconds. -/
structure TimeBase where
  numer : Nat
  denom : Nat
  deriving DecidableEq, Repr

/-- A timestamp in milliseconds, without its fraction. A unit without a denominator has no
length. -/
def TimeBase.toMillis (b : TimeBase) (ts : Int) : Int :=
  if b.denom = 0 then 0 else clampInstant ((ts * 1000 * b.numer).tdiv b.denom)

end MediaTags
