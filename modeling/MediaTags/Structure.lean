import MediaTags.IsoMedia.Chapters
import MediaTags.Matroska.Info
import MediaTags.Source

/-!
# Structure read from the bytes

Demuxers leave out chapters and most of what Matroska declares. Where the first bytes tell one of
the known formats, the rest is read from the bytes, and the source ends up where it started.
-/

namespace MediaTags

/-- What was read from the bytes. -/
inductive Structure where
  | matroska (info : Matroska.Info)
  | isoMedia (chapters : List Chapter)
  deriving DecidableEq, Repr

/-- The formats whose structure can be read. -/
inductive Layout where
  | matroska
  | isoMedia
  deriving DecidableEq, Repr

namespace Layout

/-- How many bytes tell the format. -/
def headLength : Nat := 8

/-- The bytes that a Matroska file starts with. -/
def matroskaMagic : List UInt8 := [0x1A, 0x45, 0xDF, 0xA3]

/-- The format that the first bytes of a file tell. -/
def ofHead? (head : List UInt8) : Option Layout :=
  if head.length < headLength then none
  else if head.take 4 = matroskaMagic then some .matroska
  else if head.drop 4 = IsoMedia.kindOf "ftyp" then some .isoMedia
  else none

/-- Read a file of `len` bytes in a format. -/
def read (layout : Layout) (file : Bytes) (len : Nat) : Except (Abort IoFailure) Structure :=
  match layout with
  | matroska =>
    ((Matroska.readInfo file len).map .matroska).mapError fun f => .failure f.toIo
  | isoMedia =>
    ((IsoMedia.readChapters file len).map .isoMedia).mapError fun why =>
      why.map IsoMedia.Fault.toIo

end Layout

namespace Structure

def matroska? : Structure → Option Matroska.Info
  | matroska info => some info
  | isoMedia _ => none

/-- The declared chapters. -/
def chapters : Structure → List Chapter
  | matroska info => info.chapters
  | isoMedia chapters => chapters

end Structure

namespace Source

/-- Move to a target in the course of work that can overflow elsewhere. -/
def reseek (s : Source) (t : SeekTarget) : Except (Abort IoFailure) Source :=
  (s.seek t).mapError .failure

/-- Read the structure of a source that knows its length, can move and stands at its start. Faulty
structure is ignored, but an overflow is not. What is read follows from the bytes alone; on the way
the source is asked for them by the requests of `walk`, and it is put back whatever faults were
met. -/
def readStructure (s : Source) (walk : List Request := []) :
    Except (Abort IoFailure) (Option Structure × Source) :=
  match s.byteLen? with
  | none => .ok (none, s)
  | some len =>
    if s.isSeekable then do
      let s ← s.reseek (.current 0)
      if s.position ≠ 0 then return (none, s)
      let (head, s) := s.readExact Layout.headLength
      let s ← s.reseek (.start 0)
      match Layout.ofHead? head with
      | none => return (none, s)
      | some layout =>
        let found ← Abort.ignore (layout.read s.data len)
        let s ← (s.afterAll walk).reseek (.start 0)
        return (found, s)
    else .ok (none, s)

end Source

end MediaTags
