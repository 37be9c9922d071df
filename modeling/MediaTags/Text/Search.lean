/-!
# Finding one text inside another

The three searches the library needs: what follows a leading text, whether a text occurs at all,
and replacing its first occurrence.
-/

namespace MediaTags.Text

/-- What follows `lead` in a text that starts with it. -/
def afterChars? : List Char → List Char → Option (List Char)
  | [], cs => some cs
  | _ :: _, [] => none
  | l :: lead, c :: cs => if l = c then afterChars? lead cs else none

theorem afterChars?_eq_some_iff {lead cs rest : List Char} :
    afterChars? lead cs = some rest ↔ cs = lead ++ rest := by
  induction lead generalizing cs with
  | nil => simp [afterChars?]
  | cons l lead ih =>
    cases cs with
    | nil => simp [afterChars?]
    | cons c cs =>
      by_cases h : l = c
      · subst h; simp [afterChars?, ih]
      · simp [afterChars?, h, Ne.symm h]

theorem length_of_afterChars? {lead cs rest : List Char} (h : afterChars? lead cs = some rest) :
    cs.length = lead.length + rest.length := by
  rw [afterChars?_eq_some_iff.1 h, List.length_append]

def after? (lead s : String) : Option String :=
  (afterChars? lead.toList s.toList).map .ofList

/-- Whether `part` occurs in a text, at any position. -/
def occursInChars (part : List Char) : List Char → Bool
  | [] => part.isEmpty
  | c :: cs => part.isPrefixOf (c :: cs) || occursInChars part cs

def occursIn (part s : String) : Bool := occursInChars part.toList s.toList

/-- Replace the first occurrence of `part`, if there is one. -/
def replaceFirstChars (part image : List Char) : List Char → List Char
  | [] => if part.isEmpty then image else []
  | c :: cs =>
    match afterChars? part (c :: cs) with
    | some rest => image ++ rest
    | none => c :: replaceFirstChars part image cs

def replaceFirst (part image s : String) : String :=
  .ofList (replaceFirstChars part.toList image.toList s.toList)

end MediaTags.Text
