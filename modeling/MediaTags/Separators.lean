import MediaTags.Text.Blank
import MediaTags.Text.Case
import MediaTags.Text.Search

/-!
# Separators between values in one text

Taggers put several artists or genres into one text. A text is cut at its delimiters from left to
right: at each place the longest delimiter that starts there is taken. The pieces in between are
trimmed, and blank ones are dropped.
-/

namespace MediaTags

/-- The delimiters to cut at, and the text to put between values when they are joined. -/
structure Separators where
  delimiters : List String
  joinWith : String
  deriving DecidableEq, Repr

namespace Separators

/-- Delimiters that are always recognised. -/
def builtins : List String :=
  [" feat. ", " ft. ", " Feat. ", " Ft. ", ";", ":", "|", "#", "/", " with ", "&"]

/-- An item separator with one of these characters in it only joins. -/
def reserved : List Char := [';', '/', ',', '&', '|', '#']

def defaultJoin : String := " / "

/-- Whether an item separator is used for cutting as well as for joining. -/
def cuts (item : String) : Bool :=
  !item.isEmpty && !item.toList.any (reserved.contains ·) && !builtins.contains item

/-- The built-in delimiters and a chosen item separator. -/
def ofItem (item : String) : Separators where
  delimiters := if cuts item then builtins ++ [item] else builtins
  joinWith := if item.isEmpty then defaultJoin else item

def standard : Separators := ofItem defaultJoin

/-- What follows the longest delimiter at the start of a text; an empty delimiter is none. -/
def afterDelimiter? : List (List Char) → List Char → Option (List Char)
  | [], _ => none
  | d :: ds, cs =>
    match Text.afterChars? d cs, afterDelimiter? ds cs with
    | some rest, some best =>
      if d.isEmpty || best.length ≤ rest.length then some best else some rest
    | some rest, none => if d.isEmpty then none else some rest
    | none, best => best

theorem length_of_afterDelimiter? {ds : List (List Char)} {cs rest : List Char}
    (h : afterDelimiter? ds cs = some rest) : rest.length < cs.length := by
  induction ds generalizing rest with
  | nil => simp [afterDelimiter?] at h
  | cons d ds ih =>
    have shorter {r : List Char} (hr : Text.afterChars? d cs = some r) (hd : ¬ d.isEmpty = true) :
        r.length < cs.length := by
      have := Text.length_of_afterChars? hr
      have : d.length ≠ 0 := by simpa using hd
      omega
    simp only [afterDelimiter?] at h
    split at h
    · next r best hr hbest =>
      split at h
      · cases h; exact ih hbest
      · next hd => cases h; exact shorter hr (by simp_all)
    · next r hr _ =>
      split at h
      · cases h
      · next hd => cases h; exact shorter hr hd
    · exact ih h

/-- Cut a text at its delimiters. `done` and `gap` hold the finished pieces and the characters of
the current one, latest first. -/
def gapsFrom (ds : List (List Char)) (done : List (List Char)) (gap : List Char) :
    List Char → List (List Char)
  | [] => (gap.reverse :: done).reverse
  | c :: cs =>
    match _h : afterDelimiter? ds (c :: cs) with
    | some rest => gapsFrom ds (gap.reverse :: done) [] rest
    | none => gapsFrom ds done (c :: gap) cs
termination_by cs => cs.length
decreasing_by
  · exact length_of_afterDelimiter? _h
  · exact Nat.lt_succ_self _

/-- The texts between the delimiters, untrimmed, blank ones included. -/
def gaps (ds : List (List Char)) (cs : List Char) : List (List Char) := gapsFrom ds [] [] cs

/-- The values in a text, cut at the delimiters and at `extra` ones for this once. -/
def splitWith (s : Separators) (value : String) (extra : List String) : List String :=
  (gaps ((s.delimiters ++ extra).map String.toList) value.toList).filterMap
    (fun gap => Text.present? (.ofList gap))

def split (s : Separators) (value : String) : List String := s.splitWith value []

def join (s : Separators) (values : List String) : String := s.joinWith.intercalate values

/-- Cut and join again, which leaves one kind of separator. -/
def rejoin (s : Separators) (value : String) : String := s.join (s.split value)

end Separators

/-- Uppercase the first character of each word; `start` says whether one begins here and `done`
holds the characters passed, latest first. -/
def capitalizeFrom (done : List Char) (start : Bool) : List Char → List Char
  | [] => done.reverse
  | c :: cs =>
    if Text.isBlank c then capitalizeFrom (c :: done) true cs
    else if start then capitalizeFrom ((Text.upperChar c).reverse ++ done) false cs
    else capitalizeFrom (c :: done) false cs

/-- Uppercase the first character of every word and keep the rest. -/
def capitalizeWords (value : String) : String := .ofList (capitalizeFrom [] true value.toList)

end MediaTags
