import MediaTags.Text.Quoted

/-!
# Warnings

Metadata that cannot be used is no failure; it is reported. Warnings stand in the order in which
they were found.
-/

namespace MediaTags

inductive Warning where
  /-- The value of a number field has no number. -/
  | malformedNumeric (key value : String)
  /-- The key means nothing in its scope. -/
  | unmappedKey (key : String)
  /-- A chapter was declared shorter than chapters are expected to be. -/
  | anomalousChapterDuration (index : Nat) (durationMs : Int)
  deriving DecidableEq, Repr

namespace Warning

def message : Warning → String
  | malformedNumeric key value =>
    "Malformed numeric value " ++ Text.Quoted.encode value ++ " for " ++ key
  | unmappedKey key => "Unmapped metadata key " ++ key
  | anomalousChapterDuration index ms =>
    "Chapter " ++ toString index ++ " is only " ++ toString ms ++ "ms long"

/-- Unknown keys are common and harmless; every other warning counts. -/
def isSignificant : Warning → Bool
  | unmappedKey _ => false
  | _ => true

end Warning

end MediaTags
