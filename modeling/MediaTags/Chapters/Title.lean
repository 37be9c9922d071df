import MediaTags.Text.Search
import MediaTags.Text.Blank

/-!
# Titles for chapters without one

A string table gives texts by number. The text for chapter titles holds a place for the number;
a text without the place gets the number at its end, and a missing text is taken from the English
table.
-/

namespace MediaTags

/-- Texts by number; a missing one is empty. -/
abbrev StringTable := Nat → String

namespace StringTable

def chapterTitleId : Nat := 25010

/-- Where a template wants the number. -/
def placeholder : String := "\x7b\x7d"

def english : StringTable := fun id => if id = chapterTitleId then "Chapter " ++ placeholder else ""

/-- The title of the chapter with a given number. -/
def chapterTitle (strings : StringTable) (number : Nat) : String :=
  let template := strings chapterTitleId
  if Text.occursIn placeholder template then
    Text.replaceFirst placeholder (toString number) template
  else if (Text.present? template).isNone then
    Text.replaceFirst placeholder (toString number) (english chapterTitleId)
  else Text.trimEnd template ++ " " ++ toString number

end StringTable

end MediaTags
