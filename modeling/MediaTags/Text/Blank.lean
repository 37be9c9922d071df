/-!
# Blank characters and trimming

A character is blank when Unicode gives it the property `White_Space`. Trimming drops blanks from
the ends of a text and keeps every character in between.
-/

namespace MediaTags.Text

/-- The twenty-five code points with the property `White_Space`. -/
def isBlank (c : Char) : Bool :=
  let n := c.toNat
  (9 ≤ n && n ≤ 13) || n == 0x20 || n == 0x85 || n == 0xA0 || n == 0x1680 ||
    (0x2000 ≤ n && n ≤ 0x200A) || n == 0x2028 || n == 0x2029 || n == 0x202F ||
    n == 0x205F || n == 0x3000

/-- Drop the characters that satisfy `p` from the end. -/
def dropEndWhile (p : Char → Bool) (cs : List Char) : List Char :=
  (cs.reverse.dropWhile p).reverse

def trimStartChars (cs : List Char) : List Char := cs.dropWhile isBlank

def trimEndChars (cs : List Char) : List Char := dropEndWhile isBlank cs

def trimChars (cs : List Char) : List Char := trimEndChars (trimStartChars cs)

def trimEnd (s : String) : String := .ofList (trimEndChars s.toList)

def trim (s : String) : String := .ofList (trimChars s.toList)

/-- Drop the NUL characters that pad the end of a fixed-width text. -/
def dropNulPadding (s : String) : String :=
  .ofList (dropEndWhile (· == Char.ofNat 0) s.toList)

/-- The trimmed text, unless nothing is left of it. -/
def present? (s : String) : Option String :=
  let t := trim s
  if t.isEmpty then none else some t

@[simp] theorem toList_trim (s : String) : (trim s).toList = trimChars s.toList := by
  simp [trim]

end MediaTags.Text
