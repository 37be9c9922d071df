import MediaTags.Tag
import MediaTags.Text.Case
import MediaTags.Text.Utf8

/-!
# Pictures in FLAC files

A FLAC file starts with a marker and a row of metadata blocks. The first one describes the stream;
some of the others may hold pictures. A picture that cannot be read is passed over, but a block that
runs past the end of the file makes the whole file unreadable.
-/

namespace MediaTags.Flac

open Bytes (takeBytes? takeNumber?)

/-- The kind of a metadata block and its payload. -/
structure Block where
  kind : Nat
  payload : List UInt8
  deriving DecidableEq, Repr

namespace Block

def streamInfoKind : Nat := 0

def pictureKind : Nat := 6

/-- The least size of the block that describes the stream. -/
def minStreamInfo : Nat := 18

/-- The kind of a block at `pos`, whether it is the last one, and the size of its payload. -/
def header? (file : Bytes) (pos : Nat) : Option (Nat × Bool × Nat) :=
  match file.slice? pos 4 with
  | some (b :: size) => some (b.toNat % 128, 128 ≤ b.toNat, Bytes.bigEndian size)
  | _ => none

/-- The blocks from `pos` on, up to the one that is marked as the last. -/
def readAll? (file : Bytes) (pos : Nat) : Option (List Block) :=
  match header? file pos with
  | some (kind, last, size) =>
    if pos + 4 + size ≤ file.size then
      let block := ⟨kind, file.window (pos + 4) size⟩
      if last then some [block] else (readAll? file (pos + 4 + size)).map (block :: ·)
    else none
  | none => none
termination_by file.size - pos

end Block

/-- The bytes that a FLAC file starts with. -/
def marker : List UInt8 := [0x66, 0x4C, 0x61, 0x43]

/-- The metadata blocks of a file, unless it is no FLAC file. -/
def blocks? (file : Bytes) : Option (List Block) :=
  if file.window 0 4 = marker then
    match Block.readAll? file 4 with
    | some (first :: rest) =>
      if first.kind = Block.streamInfoKind ∧ Block.minStreamInfo ≤ first.payload.length then
        some (first :: rest)
      else none
    | _ => none
  else none

/-- Take a count of four bytes and so many bytes after it off the front. -/
def takeSized? (bs : List UInt8) : Option (List UInt8 × List UInt8) :=
  match takeNumber? 4 bs with
  | some (size, rest) => takeBytes? size rest
  | none => none

/-- The media type that is reported for a picture of a declared type. -/
def mediaType (declared : String) : String :=
  let t := Text.lower declared
  if ["image/png", "image/gif", "image/bmp", "image/tiff"].contains t then t else "image/jpeg"

/-- What a picture is declared to show when it is the front cover. -/
def frontCover : Nat := 3

/-- What a picture block is declared to show, and the picture. Between the description and the
data stand the dimensions, which are passed over. -/
def readPicture? (payload : List UInt8) : Option (Nat × Picture) := do
  let (shows, rest) ← takeNumber? 4 payload
  let (declared, rest) ← takeSized? rest
  let declared ← Text.Utf8.decode? declared
  let (_, rest) ← takeSized? rest
  let (_, rest) ← takeBytes? 16 rest
  let (data, _) ← takeSized? rest
  return (shows, ⟨data.toArray, mediaType (.ofList declared)⟩)

/-- The front cover of a file, or else its first picture. -/
def cover? (file : Bytes) : Option Picture :=
  let pictures := ((blocks? file).getD []).filterMap fun b =>
    if b.kind = Block.pictureKind then readPicture? b.payload else none
  (pictures.find? (·.1 == frontCover) <|> pictures.head?).map (·.2)

end MediaTags.Flac
