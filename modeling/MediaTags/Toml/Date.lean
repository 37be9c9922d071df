import MediaTags.Toml.Space

/-!
# Dates and times

A date, a time of day, or both with or without an offset. Only their extent matters here, so the
functions give what follows them.
-/

namespace MediaTags.Toml.Date

/-- The digits of a number of a given width. -/
def readFixed : Nat → Nat → Reader Nat
  | 0, n, cs => some (n, cs)
  | _ + 1, _, [] => none
  | width + 1, n, c :: cs =>
    if c.isDigit then readFixed width (n * 10 + (c.toNat - '0'.toNat)) cs else none

/-- A number of two digits from `low` to `high`. -/
def readTwo (low high : Nat) : Reader Nat := fun cs =>
  match readFixed 2 0 cs with
  | some (n, rest) => if low ≤ n ∧ n ≤ high then some (n, rest) else none
  | none => none

def after? (c : Char) : List Char → Option (List Char)
  | d :: cs => if d = c then some cs else none
  | [] => none

def isLeapYear (y : Nat) : Bool := y % 4 == 0 && (y % 100 != 0 || y % 400 == 0)

def daysIn (year month : Nat) : Nat :=
  if month = 2 then if isLeapYear year then 29 else 28
  else if month = 4 ∨ month = 6 ∨ month = 9 ∨ month = 11 then 30
  else 31

def afterDate? (cs : List Char) : Option (List Char) := do
  let (year, cs) ← readFixed 4 0 cs
  let (month, cs) ← readTwo 1 12 (← after? '-' cs)
  let (day, cs) ← readTwo 1 31 (← after? '-' cs)
  if day ≤ daysIn year month then some cs else none

/-- What follows the fraction of a second, which needs a digit. -/
def afterFraction (cs : List Char) : List Char :=
  match cs with
  | '.' :: d :: rest => if d.isDigit then rest.dropWhile Char.isDigit else cs
  | _ => cs

def afterMinutes? (cs : List Char) : Option (List Char) := do
  let (_, cs) ← readTwo 0 23 cs
  let (_, cs) ← readTwo 0 59 (← after? ':' cs)
  return cs

/-- A leap second is allowed everywhere. -/
def afterTime? (cs : List Char) : Option (List Char) := do
  let cs ← afterMinutes? cs
  let (_, cs) ← readTwo 0 60 (← after? ':' cs)
  return afterFraction cs

def afterOffset (cs : List Char) : List Char :=
  match cs with
  | 'Z' :: rest => rest
  | 'z' :: rest => rest
  | '+' :: rest => (afterMinutes? rest).getD cs
  | '-' :: rest => (afterMinutes? rest).getD cs
  | _ => cs

def afterDateTime? (cs : List Char) : Option (List Char) :=
  match afterDate? cs with
  | none => afterTime? cs
  | some rest =>
    match rest with
    | c :: time =>
      if c = 'T' ∨ c = 't' ∨ c = ' ' then
        match afterTime? time with
        | some rest => some (afterOffset rest)
        | none => some (c :: time)
      else some (c :: time)
    | [] => some []

end MediaTags.Toml.Date
