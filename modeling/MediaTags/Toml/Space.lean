/-!
# Space, line ends and comments

A line ends with a line feed, which a carriage return may precede. A comment runs to the end of
its line. Control characters other than the tab stand nowhere.
-/

namespace MediaTags.Toml

/-- A reader takes a value off the front of a text and leaves the rest. -/
abbrev Reader (α : Type) := List Char → Option (α × List Char)

def isSpace (c : Char) : Bool := c == ' ' || c == '\t'

/-- Whether a character may stand in a comment or a text. -/
def isPlain (c : Char) : Bool := c == '\t' || (0x20 ≤ c.toNat && c.toNat != 0x7F)

def skipSpace (cs : List Char) : List Char := cs.dropWhile isSpace

/-- What follows a line end. -/
def afterNewline? : List Char → Option (List Char)
  | '\n' :: cs => some cs
  | '\r' :: '\n' :: cs => some cs
  | _ => none

def skipComment : List Char → List Char
  | '#' :: cs => cs.dropWhile isPlain
  | cs => cs

/-- What follows a line with nothing more on it but space and a comment. -/
def afterLine? (cs : List Char) : Option (List Char) :=
  match skipComment (skipSpace cs) with
  | [] => some []
  | cs => afterNewline? cs

theorem length_skipSpace_le (cs : List Char) : (skipSpace cs).length ≤ cs.length :=
  (List.dropWhile_sublist _).length_le

theorem length_skipComment_le (cs : List Char) : (skipComment cs).length ≤ cs.length := by
  unfold skipComment
  split
  · exact Nat.le_succ_of_le (List.dropWhile_sublist _).length_le
  · exact Nat.le_refl _

theorem length_of_afterNewline? {cs rest : List Char} (h : afterNewline? cs = some rest) :
    rest.length < cs.length := by
  unfold afterNewline? at h
  split at h
  · cases h; exact Nat.lt_succ_self _
  · cases h; exact Nat.lt_add_of_pos_right (by decide : 0 < 2)
  · cases h

/-- Skip space and whole lines of it, with or without comments. -/
def skipLines (comments : Bool) (cs : List Char) : List Char :=
  let line := skipSpace cs
  match _h : afterNewline? (if comments then skipComment line else line) with
  | some rest => skipLines comments rest
  | none => line
termination_by cs.length
decreasing_by
  have hn := length_of_afterNewline? _h
  have hs : line.length ≤ cs.length := length_skipSpace_le cs
  have hc := length_skipComment_le line
  split at hn <;> omega

end MediaTags.Toml
