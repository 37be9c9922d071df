/-!
# UTF-16

Lenient decoding: a surrogate without its partner becomes U+FFFD.
-/

namespace MediaTags.Text.Utf16

inductive ByteOrder where
  | big
  | little
  deriving DecidableEq, Repr

/-- Pair up bytes into code units; an odd byte at the end is dropped. -/
def units (order : ByteOrder) : List UInt8 → List Nat
  | a :: b :: rest =>
    (match order with
      | .big => a.toNat * 256 + b.toNat
      | .little => b.toNat * 256 + a.toNat) :: units order rest
  | _ => []

def isHigh (u : Nat) : Bool := 0xD800 ≤ u && u < 0xDC00

def isLow (u : Nat) : Bool := 0xDC00 ≤ u && u < 0xE000

/-- The character of a surrogate pair. -/
def pair (high low : Nat) : Char :=
  Char.ofNat (0x10000 + (high - 0xD800) * 0x400 + (low - 0xDC00))

/-- The character of a unit that belongs to no pair. -/
def single (u : Nat) : Char :=
  if isHigh u || isLow u then Char.ofNat 0xFFFD else Char.ofNat u

def decodeLossy : List Nat → List Char
  | [] => []
  | [u] => [single u]
  | u :: v :: rest =>
    if isHigh u && isLow v then pair u v :: decodeLossy rest
    else single u :: decodeLossy (v :: rest)

/-- The code units of one character. -/
def encodeChar (c : Char) : List Nat :=
  let n := c.toNat
  if n < 0x10000 then [n]
  else [0xD800 + (n - 0x10000) / 0x400, 0xDC00 + (n - 0x10000) % 0x400]

def encodeUnit (order : ByteOrder) (u : Nat) : List UInt8 :=
  match order with
  | .big => [.ofNat (u / 256), .ofNat (u % 256)]
  | .little => [.ofNat (u % 256), .ofNat (u / 256)]

def encode (order : ByteOrder) (cs : List Char) : List UInt8 :=
  (cs.flatMap encodeChar).flatMap (encodeUnit order)

end MediaTags.Text.Utf16
