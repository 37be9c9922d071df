import MediaTags.Matroska.Element
import MediaTags.Text.Blank
import MediaTags.Text.Utf8

/-!
# The values of elements

Payloads as bytes, unsigned numbers, floating-point numbers and texts.
-/

namespace MediaTags.Matroska

/-- The longest payload that is read. -/
def maxPayload : Nat := 0x100000

def payload (file : Bytes) (e : Element) : Except Fault (List UInt8) :=
  if maxPayload < e.size then .error .payloadTooLarge
  else
    match file.slice? e.dataStart e.size with
    | some bs => .ok bs
    | none => .error .endOfData

def uint (file : Bytes) (e : Element) : Except Fault Nat :=
  if 8 < e.size then .error .integerTooWide
  else (payload file e).map Bytes.bigEndian

/-- A number of four or eight bytes; an empty one is zero. -/
def float (file : Bytes) (e : Element) : Except Fault Float := do
  let bs ← payload file e
  match bs.length with
  | 0 => .ok 0
  | 4 => .ok (Float32.ofBits (.ofNat (Bytes.bigEndian bs))).toFloat
  | 8 => .ok (Float.ofBits (.ofNat (Bytes.bigEndian bs)))
  | _ => .error .floatWidth

/-- A text, which may be padded with NUL. -/
def text (file : Bytes) (e : Element) : Except Fault String :=
  (payload file e).map fun bs =>
    .ofList (Text.dropEndWhile (· == Char.ofNat 0) (Text.Utf8.decodeLossy bs))

end MediaTags.Matroska
