/-!
# Texts of a least width

Numbers are padded with zeros in front, labels with blanks behind. Nothing is cut off.
-/

namespace MediaTags.Text

/-- A number with at least two digits. -/
def twoDigits (n : Nat) : String := if n < 10 then "0" ++ toString n else toString n

/-- A text with blanks behind it, up to a width in characters. -/
def padRight (width : Nat) (s : String) : String :=
  s ++ .ofList (List.replicate (width - s.length) ' ')

end MediaTags.Text
