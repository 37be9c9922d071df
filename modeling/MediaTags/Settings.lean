import MediaTags.Separators

/-!
# Settings

What can be configured, with the values in force when nothing is.
-/

namespace MediaTags

structure TagSettings where
  itemSeparator : String := Separators.defaultJoin
  deriving DecidableEq, Repr

structure ProbeSettings where
  blockSize : Nat := 4096
  deriving DecidableEq, Repr

structure ChapterSettings where
  /-- Whether items refer to the container's picture. -/
  thumbnails : Bool := true
  /-- Chapters declared shorter than this are reported. -/
  minChapterMs : Int := 1000
  deriving DecidableEq, Repr

structure Settings where
  tags : TagSettings := {}
  probe : ProbeSettings := {}
  chapters : ChapterSettings := {}
  deriving DecidableEq, Repr

def Settings.separators (s : Settings) : Separators := .ofItem s.tags.itemSeparator

end MediaTags
