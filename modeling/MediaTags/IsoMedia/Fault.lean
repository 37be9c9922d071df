import MediaTags.Failure

/-!
# What can be wrong with an MP4 file
-/

namespace MediaTags.IsoMedia

inductive Fault where
  /-- The file ends where more bytes have to be read. -/
  | endOfData
  | overrun
  | payloadTooLarge
  deriving DecidableEq, Repr

namespace Fault

def message : Fault → String
  | endOfData => "failed to fill whole buffer"
  | overrun => "mp4: atom overruns its parent"
  | payloadTooLarge => "mp4: atom payload too large"

def toIo (f : Fault) : IoFailure :=
  ⟨if f = endOfData then .unexpectedEof else .invalidData, f.message⟩

end Fault

end MediaTags.IsoMedia
