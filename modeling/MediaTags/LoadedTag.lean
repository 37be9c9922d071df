import MediaTags.Codec

/-!
# The tag of a whole file

The entries of the first audio stream are read first, so those of the container win over them.
-/

namespace MediaTags

structure LoadedTag where
  tag : Tag := {}
  warnings : List Warning := []
  deriving DecidableEq, Repr

namespace Container

/-- What the entries of a container and of its first audio stream say. -/
def describe (c : Container) (s : Separators) : LoadedTag :=
  let stream := (c.firstAudio?.map Stream.metadata).getD []
  { tag := (Tag.empty.normalize s .stream stream).normalize s .container c.metadata
    warnings := s.warnings .stream stream ++ s.warnings .container c.metadata }

/-- The tag of a container; `cover` is the picture to show when the container has none. -/
def loadTag (c : Container) (s : Separators) (cover : Option Picture) :
    Except ProbeFailure LoadedTag :=
  c.probeCodec.map fun facts =>
    let described := c.describe s
    { described with
      tag := { described.tag.applyFacts facts with art := c.art <|> cover }.finish }

end Container

end MediaTags
