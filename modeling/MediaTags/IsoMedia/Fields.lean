import MediaTags.Bytes

/-!
# Reading fields off a payload

Each reader takes its bytes off the front, or takes nothing when there are too few.
-/

namespace MediaTags.IsoMedia

open Bytes (takeBytes? takeNumber?)

/-- The number of `width` bytes in front, or zero with nothing taken. -/
def takeNumber (width : Nat) (bs : List UInt8) : Nat × List UInt8 :=
  (takeNumber? width bs).getD (0, bs)

/-- What is left after `count` bytes, or everything if there are fewer. -/
def skip (count : Nat) (bs : List UInt8) : List UInt8 :=
  match takeBytes? count bs with
  | some (_, rest) => rest
  | none => bs

/-- The version in front of a payload, which three bytes of flags follow. Without the flags only
the version is taken, and it does not count. -/
def takeVersion (bs : List UInt8) : Option Nat × List UInt8 :=
  match takeNumber? 1 bs with
  | none => (none, bs)
  | some (version, rest) =>
    match takeBytes? 3 rest with
    | some (_, rest) => (some version, rest)
    | none => (none, rest)

/-- At most `limit` numbers of `width` bytes each. `done` has those before, latest first. -/
def numbersFrom (width : Nat) (done : List Nat) : Nat → List UInt8 → List Nat
  | 0, _ => done.reverse
  | limit + 1, bs =>
    match takeNumber? width bs with
    | some (n, rest) => numbersFrom width (n :: done) limit rest
    | none => done.reverse

/-- At most `limit` rows of `columns` four-byte numbers each. `done` has those before, latest
first. -/
def rowsFrom (columns : Nat) (done : List (List Nat)) : Nat → List UInt8 → List (List Nat)
  | 0, _ => done.reverse
  | limit + 1, bs =>
    match takeBytes? (4 * columns) bs with
    | some (head, rest) => rowsFrom columns (numbersFrom 4 [] columns head :: done) limit rest
    | none => done.reverse

/-- The numbers in front, at most `limit`; a part of one at the end is passed over. -/
def numbers (width limit : Nat) (bs : List UInt8) : List Nat := numbersFrom width [] limit bs

/-- The rows of a table, at most `limit`; a part of one at the end is passed over. -/
def rows (columns limit : Nat) (bs : List UInt8) : List (List Nat) := rowsFrom columns [] limit bs

end MediaTags.IsoMedia
