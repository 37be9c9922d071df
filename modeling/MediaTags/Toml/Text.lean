import MediaTags.Toml.Space

/-!
# Texts

A text stands between double quotes, where a backslash escapes, or between single quotes, where
nothing does. Three quotes open a block that may run over several lines. Texts are written between
double quotes on one line.
-/

namespace MediaTags.Toml.Text

/-- The value of a hexadecimal digit. -/
def hexValue? (c : Char) : Option Nat :=
  let n := c.toNat
  if 0x30 ≤ n ∧ n ≤ 0x39 then some (n - 0x30)
  else if 0x41 ≤ n ∧ n ≤ 0x46 then some (n - 0x41 + 10)
  else if 0x61 ≤ n ∧ n ≤ 0x66 then some (n - 0x61 + 10)
  else none

/-- The number that `count` hexadecimal digits write, after those of `n`. -/
def hexNumber? : Nat → Nat → Reader Nat
  | 0, n, cs => some (n, cs)
  | _ + 1, _, [] => none
  | count + 1, n, c :: cs =>
    match hexValue? c with
    | some d => hexNumber? count (n * 16 + d) cs
    | none => none

/-- A character given by its code point in `count` digits. -/
def codePoint? (count : Nat) (cs : List Char) : Option (Char × List Char) :=
  match hexNumber? count 0 cs with
  | some (n, rest) => if n.isValidChar then some (Char.ofNat n, rest) else none
  | none => none

/-- The character that an escape stands for, after the backslash. -/
def escape? : Reader Char
  | 'b' :: cs => some ('\x08', cs)
  | 't' :: cs => some ('\t', cs)
  | 'n' :: cs => some ('\n', cs)
  | 'f' :: cs => some ('\x0c', cs)
  | 'r' :: cs => some ('\r', cs)
  | '"' :: cs => some ('"', cs)
  | '\\' :: cs => some ('\\', cs)
  | 'u' :: cs => codePoint? 4 cs
  | 'U' :: cs => codePoint? 8 cs
  | _ => none

theorem length_of_hexNumber? {count n m : Nat} {cs rest : List Char}
    (h : hexNumber? count n cs = some (m, rest)) : rest.length ≤ cs.length := by
  fun_induction hexNumber? count n cs with
  | case1 => simp_all
  | case2 => simp at h
  | case3 count n c cs d hd ih => exact Nat.le_succ_of_le (ih h)
  | case4 => simp at h

theorem length_of_codePoint? {count : Nat} {c : Char} {cs rest : List Char}
    (h : codePoint? count cs = some (c, rest)) : rest.length ≤ cs.length := by
  unfold codePoint? at h
  split at h
  · rename_i n r hn
    split at h
    · simp only [Option.some.injEq, Prod.mk.injEq] at h
      exact h.2 ▸ length_of_hexNumber? hn
    · simp at h
  · simp at h

theorem length_of_escape? {c : Char} {cs rest : List Char} (h : escape? cs = some (c, rest)) :
    rest.length < cs.length := by
  unfold escape? at h
  split at h <;> first
    | exact Nat.lt_succ_of_le (length_of_codePoint? h)
    | simp_all

/-- The rest of a text on one line, up to its closing quote. -/
def readLine (quote : Char) (escapes : Bool) (cs : List Char) : Option (List Char × List Char) :=
  match cs with
  | [] => none
  | c :: cs =>
    if c = quote then some ([], cs)
    else if escapes ∧ c = '\\' then
      match _h : escape? cs with
      | some (e, rest) => (readLine quote escapes rest).map fun (t, rest) => (e :: t, rest)
      | none => none
    else if isPlain c then (readLine quote escapes cs).map fun (t, rest) => (c :: t, rest)
    else none
termination_by cs.length
decreasing_by
  · have := length_of_escape? _h
    simp only [List.length_cons]
    omega
  · simp

/-- How many quotes a text starts with. -/
def leadingQuotes (quote : Char) (cs : List Char) : Nat := (cs.takeWhile (· == quote)).length

theorem length_skipLines_le (comments : Bool) (cs : List Char) :
    (skipLines comments cs).length ≤ cs.length := by
  fun_induction skipLines comments cs with
  | case1 cs line rest h ih =>
    have hn := length_of_afterNewline? h
    have hs : line.length ≤ cs.length := length_skipSpace_le cs
    have hc := length_skipComment_le line
    split at hn <;> omega
  | case2 cs line h => exact length_skipSpace_le cs

/-- The rest of a block. Up to two quotes in a row belong to the text, also right before the three
that close it. A line end is a line feed, and a backslash at the end of a line takes the line end
and all blank space behind it away. -/
def readBlock (quote : Char) (escapes : Bool) (cs : List Char) : Option (List Char × List Char) :=
  match cs with
  | [] => none
  | c :: cs =>
    if c = quote then
      let run := leadingQuotes quote cs + 1
      if 3 ≤ run then
        let extra := min (run - 3) 2
        some (List.replicate extra quote, cs.drop (extra + 2))
      else (readBlock quote escapes cs).map fun (t, rest) => (c :: t, rest)
    else if escapes ∧ c = '\\' then
      match _hn : afterNewline? (skipSpace cs) with
      | some rest => readBlock quote escapes (skipLines false rest)
      | none =>
        match _he : escape? cs with
        | some (e, rest) => (readBlock quote escapes rest).map fun (t, rest) => (e :: t, rest)
        | none => none
    else
      match _hl : afterNewline? (c :: cs) with
      | some rest => (readBlock quote escapes rest).map fun (t, rest) => ('\n' :: t, rest)
      | none =>
        if isPlain c then (readBlock quote escapes cs).map fun (t, rest) => (c :: t, rest)
        else none
termination_by cs.length
decreasing_by
  · simp
  · have := length_of_afterNewline? _hn
    have := length_skipSpace_le cs
    have := length_skipLines_le false rest
    simp only [List.length_cons]
    omega
  · have := length_of_escape? _he
    simp only [List.length_cons]
    omega
  · exact length_of_afterNewline? _hl
  · simp

/-- A line end right after the quotes that open a block is not part of it. -/
def openBlock (cs : List Char) : List Char := (afterNewline? cs).getD cs

def read : Reader String := fun cs =>
  let body := match cs with
    | '"' :: '"' :: '"' :: cs => readBlock '"' true (openBlock cs)
    | '\'' :: '\'' :: '\'' :: cs => readBlock '\'' false (openBlock cs)
    | '"' :: cs => readLine '"' true cs
    | '\'' :: cs => readLine '\'' false cs
    | _ => none
  body.map fun (t, rest) => (.ofList t, rest)

/-- The hexadecimal digit of a number below sixteen, as a capital. -/
def hexDigit (n : Nat) : Char := Char.ofNat (if n < 10 then 0x30 + n else 0x41 + (n - 10))

def encodeChar (c : Char) : List Char :=
  let n := c.toNat
  if c = '"' then ['\\', '"']
  else if c = '\\' then ['\\', '\\']
  else if n = 8 then ['\\', 'b']
  else if n = 9 then ['\\', 't']
  else if n = 10 then ['\\', 'n']
  else if n = 12 then ['\\', 'f']
  else if n = 13 then ['\\', 'r']
  else if n < 0x20 ∨ n = 0x7F then ['\\', 'u', '0', '0', hexDigit (n / 16), hexDigit (n % 16)]
  else [c]

def encode (s : String) : String := .ofList ('"' :: s.toList.flatMap encodeChar ++ ['"'])

end MediaTags.Toml.Text
