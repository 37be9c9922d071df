import MediaTags.Text.CaseTable
import MediaTags.Text.Ranges

/-!
# Upper and lower case

Full case mapping: one character may become several. Lowercasing a final capital sigma gives the
final form of the letter.
-/

namespace MediaTags.Text

/-- Shift a code point by the run that covers it, if one does. -/
def shiftCase (runs : List CaseRun) (n : Nat) : Nat :=
  match runs.find? (fun r => n ≤ r.last) with
  | some r => if r.first ≤ n ∧ (n - r.first) % r.step = 0 then (n + r.shift).toNat else n
  | none => n

def mapCase (specials : List (Nat × List Nat)) (runs : List CaseRun) (c : Char) : List Char :=
  match specials.find? (fun p => c.toNat ≤ p.1) with
  | some (n, image) =>
    if n = c.toNat then image.map Char.ofNat else [Char.ofNat (shiftCase runs c.toNat)]
  | none => [Char.ofNat (shiftCase runs c.toNat)]

def upperChar (c : Char) : List Char := mapCase upperSpecials upperRuns c

def lowerChar (c : Char) : List Char := mapCase lowerSpecials lowerRuns c

def upperChars (cs : List Char) : List Char := cs.flatMap upperChar

def upper (s : String) : String := .ofList (upperChars s.toList)

@[simp] theorem toList_upper (s : String) : (upper s).toList = upperChars s.toList := by
  simp [upper]

@[simp] theorem upperChars_append (a b : List Char) :
    upperChars (a ++ b) = upperChars a ++ upperChars b := by
  simp [upperChars]

def isCased (c : Char) : Bool := inRanges casedRanges c

def isCaseIgnorable (c : Char) : Bool := inRanges caseIgnorableRanges c

/-- Whether the first character that is not case-ignorable is a letter with case. -/
def meetsCased (cs : List Char) : Bool :=
  (cs.dropWhile isCaseIgnorable).head?.any isCased

/-- A capital sigma is final when a letter with case comes before it and none after it. -/
def isFinalSigma (before after : List Char) : Bool :=
  meetsCased before && !meetsCased after

/-- Lowercase the rest of a text; `before` holds the characters passed, latest first. -/
def lowerFrom (before : List Char) : List Char → List Char
  | [] => []
  | c :: cs =>
    let image :=
      if c.toNat = 0x3A3 then
        [Char.ofNat (if isFinalSigma before cs then 0x3C2 else 0x3C3)]
      else lowerChar c
    image ++ lowerFrom (c :: before) cs

def lower (s : String) : String := .ofList (lowerFrom [] s.toList)

/-- Lowercase the letters A to Z and keep everything else. -/
def asciiLower (s : String) : String :=
  .ofList (s.toList.map Char.toLower)

end MediaTags.Text
