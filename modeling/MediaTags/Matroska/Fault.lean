import MediaTags.Failure

/-!
# What can be wrong with a Matroska file
-/

namespace MediaTags.Matroska

inductive Fault where
  /-- The file ends where more bytes have to be read. -/
  | endOfData
  | idTooWide
  | sizeTooWide
  | overrun
  | payloadTooLarge
  | integerTooWide
  | floatWidth
  | missingHeader
  | missingSegment
  deriving DecidableEq, Repr

namespace Fault

def message : Fault → String
  | endOfData => "failed to fill whole buffer"
  | idTooWide => "matroska: element id wider than four bytes"
  | sizeTooWide => "matroska: element size wider than eight bytes"
  | overrun => "matroska: element overruns its parent"
  | payloadTooLarge => "matroska: element payload too large"
  | integerTooWide => "matroska: unsigned integer wider than eight bytes"
  | floatWidth => "matroska: float must be four or eight bytes"
  | missingHeader => "matroska: missing EBML header"
  | missingSegment => "matroska: missing segment"

def toIo (f : Fault) : IoFailure :=
  ⟨if f = endOfData then .unexpectedEof else .invalidData, f.message⟩

end Fault

end MediaTags.Matroska
