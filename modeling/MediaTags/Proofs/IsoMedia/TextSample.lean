import MediaTags.IsoMedia.TextSample
import MediaTags.Proofs.IsoMedia.Fields
import MediaTags.Proofs.Text.Blank
import MediaTags.Proofs.Text.Utf16

/-!
# Written text samples

A title is written as its length in bytes and its text, in UTF-8 or behind a byte order mark in
UTF-16, and more may follow. It is read back wherever a file holds these bytes.
-/

namespace MediaTags.IsoMedia

/-- How the text of a sample is encoded. -/
inductive TextForm where
  | utf8
  | utf16 (order : Text.Utf16.ByteOrder)
  deriving DecidableEq, Repr

namespace TextForm

/-- The bytes in front that tell the form; UTF-8 has none. -/
def byteOrderMark : TextForm → List UInt8
  | utf8 => []
  | utf16 .big => [0xFE, 0xFF]
  | utf16 .little => [0xFF, 0xFE]

/-- The bytes of a text, mark included. -/
def encode (form : TextForm) (text : String) : List UInt8 :=
  form.byteOrderMark ++
    match form with
    | utf8 => Text.Utf8.encode text.toList
    | utf16 order => Text.Utf16.encode order text.toList

/-- A title with its length in front and any bytes behind it. -/
def sample (form : TextForm) (title : String) (more : List UInt8) : List UInt8 :=
  Bytes.ofNumber 2 (form.encode title).length ++ (form.encode title ++ more)

theorem length_sample (form : TextForm) (title : String) (more : List UInt8) :
    (form.sample title more).length = 2 + (form.encode title).length + more.length := by
  rw [sample, List.length_append, List.length_append, Bytes.length_ofNumber, Nat.add_assoc]

end TextForm

theorem decodeText_encode (cs : List Char) : decodeText (Text.Utf8.encode cs) = cs := by
  have hdecode := Text.Utf8.decodeLossy_encode cs
  unfold decodeText
  split
  · next h => exact absurd (Text.Utf8.head_encode_lt h) (by decide)
  · next h => exact absurd (Text.Utf8.head_encode_lt h) (by decide)
  · exact hdecode

/-- The form of a text is told by its first bytes. -/
theorem decodeText_form (form : TextForm) (text : String) :
    decodeText (form.encode text) = text.toList := by
  cases form with
  | utf8 => exact decodeText_encode text.toList
  | utf16 order =>
    have hdecode := Text.Utf16.decodeLossy_encode order text.toList
    cases order with
    | big => exact hdecode
    | little => exact hdecode

/-- The text of a sample is the title that was written, whatever follows it. -/
theorem sampleText_sample (form : TextForm) {title : String} {more : List UInt8}
    (htrim : Text.trim title = title) (hend : title.toList.getLast? ≠ some (Char.ofNat 0))
    (hlen : (form.sample title more).length ≤ maxTextSample) :
    sampleText (form.sample title more) = title := by
  have hlt : (form.encode title).length < 256 ^ 2 := by
    have hmax : 2 + (form.encode title).length + more.length ≤ 65536 :=
      form.length_sample title more ▸ hlen
    omega
  rw [sampleText, TextForm.sample, takeNumber_ofNumber hlt]
  simp only [List.take_left]
  rw [decodeText_form, String.ofList_toList, Text.dropNulPadding_eq_self hend, htrim]

theorem Sample.text_of_holds {file : Bytes} {pos : Nat} {bs : List UInt8} {title : String}
    (h : file.Holds pos bs) (hmin : 2 ≤ bs.length) (hmax : bs.length ≤ maxTextSample)
    (htext : sampleText bs = title) : Sample.text file ⟨pos, bs.length⟩ = .ok title := by
  have hpos : pos ≤ file.size := by
    have hle : bs.length ≤ file.size - pos := by simpa using h.length_le
    omega
  rw [Sample.text, if_pos ⟨hmin, hmax⟩, h.slice? hpos]
  exact congrArg Except.ok htext

/-- A trimmed title that does not end like a padded one is read from its sample wherever a file
holds it, in each of the three forms and whatever other bytes belong to the sample. -/
theorem text_sample (file : Bytes) (pos : Nat) (form : TextForm) (title : String)
    (more : List UInt8) (htrim : Text.trim title = title)
    (hend : title.toList.getLast? ≠ some (Char.ofNat 0))
    (hlen : (form.sample title more).length ≤ maxTextSample)
    (hholds : file.Holds pos (form.sample title more)) :
    Sample.text file ⟨pos, (form.sample title more).length⟩ = .ok title := by
  have hmin : 2 ≤ (form.sample title more).length := by
    rw [TextForm.length_sample]
    omega
  exact Sample.text_of_holds hholds hmin hlen (sampleText_sample form htrim hend hlen)

/-- A title with a surrogate pair, and a letter behind it that does not belong to the text. -/
def clefSample : List UInt8 := (TextForm.utf16 .little).sample "Aria 𝄞" [65, 0]

theorem text_sample_clef :
    Text.trim "Aria 𝄞" = "Aria 𝄞" ∧ "Aria 𝄞".toList.getLast? ≠ some (Char.ofNat 0) ∧
    clefSample.length ≤ maxTextSample ∧ Bytes.Holds (7 :: clefSample).toArray 1 clefSample ∧
    Sample.text (7 :: clefSample).toArray ⟨1, clefSample.length⟩ = .ok "Aria 𝄞" := by
  have htrim : Text.trim "Aria 𝄞" = "Aria 𝄞" := by decide +kernel
  have hend : "Aria 𝄞".toList.getLast? ≠ some (Char.ofNat 0) := by decide +kernel
  have hlen : clefSample.length ≤ maxTextSample := by decide +kernel
  have hholds : Bytes.Holds (7 :: clefSample).toArray 1 clefSample := by decide +kernel
  have htext := text_sample _ 1 (.utf16 .little) _ [65, 0] htrim hend hlen hholds
  exact ⟨htrim, hend, hlen, hholds, htext⟩

/-- The sample of a chapter. -/
structure TextSample where
  title : String
  duration : Nat
  /-- What follows the text. -/
  more : List UInt8 := []
  trimmed : Text.trim title = title := by decide
  plain : title.toList.getLast? ≠ some (Char.ofNat 0) := by decide
  duration_lt : duration < 256 ^ 4 := by decide
  length_le : 2 + (Text.Utf8.encode title.toList).length + more.length ≤ maxTextSample := by decide

namespace TextSample

def text (s : TextSample) : List UInt8 := Text.Utf8.encode s.title.toList

def bytes (s : TextSample) : List UInt8 := Bytes.ofNumber 2 s.text.length ++ (s.text ++ s.more)

theorem length_bytes (s : TextSample) :
    s.bytes.length = 2 + s.text.length + s.more.length := by
  rw [bytes, List.length_append, List.length_append, Bytes.length_ofNumber, Nat.add_assoc]

theorem length_bytes_le (s : TextSample) : s.bytes.length ≤ maxTextSample :=
  s.length_bytes ▸ s.length_le

theorem sampleText_bytes (s : TextSample) : sampleText s.bytes = s.title := by
  have hsample : s.bytes = TextForm.utf8.sample s.title s.more := rfl
  rw [hsample]
  exact sampleText_sample .utf8 s.trimmed s.plain (hsample ▸ s.length_bytes_le)

/-- A sample is read as its title where a file holds it. -/
theorem text_of_holds {file : Bytes} {pos : Nat} {s : TextSample} (h : file.Holds pos s.bytes) :
    Sample.text file ⟨pos, s.bytes.length⟩ = .ok s.title := by
  have hmin : 2 ≤ s.bytes.length := by
    rw [length_bytes]
    omega
  exact Sample.text_of_holds h hmin s.length_bytes_le s.sampleText_bytes

end TextSample

end MediaTags.IsoMedia
