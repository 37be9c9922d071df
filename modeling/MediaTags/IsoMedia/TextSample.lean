import MediaTags.IsoMedia.Fields
import MediaTags.IsoMedia.Fault
import MediaTags.IsoMedia.SampleTable
import MediaTags.Text.Blank
import MediaTags.Text.Utf16
import MediaTags.Text.Utf8

/-!
# Text samples

A text sample is a length of two bytes and that many bytes of text, in UTF-16 if a byte order mark
comes first and in UTF-8 if not. What follows the text does not matter.
-/

namespace MediaTags.IsoMedia

/-- A sample longer than this is taken for empty. -/
def maxTextSample : Nat := 64 * 1024

/-- Decode text with or without a byte order mark. -/
def decodeText : List UInt8 → List Char
  | 0xFE :: 0xFF :: rest => Text.Utf16.decodeLossy (Text.Utf16.units .big rest)
  | 0xFF :: 0xFE :: rest => Text.Utf16.decodeLossy (Text.Utf16.units .little rest)
  | bs => Text.Utf8.decodeLossy bs

/-- The text in the bytes of a sample, as far as they go. -/
def sampleText (bs : List UInt8) : String :=
  let (declared, rest) := takeNumber 2 bs
  Text.trim (Text.dropNulPadding (.ofList (decodeText (rest.take declared))))

/-- Read the text of a sample; one that is too short or too long has none. -/
def Sample.text (file : Bytes) (s : Sample) : Except Fault String :=
  if 2 ≤ s.size ∧ s.size ≤ maxTextSample then
    match file.slice? s.offset s.size with
    | some bs => .ok (sampleText bs)
    | none => .error .endOfData
  else .ok ""

end MediaTags.IsoMedia
