import MediaTags.Source
import MediaTags.Timeline

/-!
# Buffered sources

A buffered source reads blocks ahead and hands them out in pieces. It stands as many bytes behind
the source under it as the buffer holds.
-/

namespace MediaTags

structure Buffered where
  source : Source
  /-- What was read ahead and is still to be handed out. -/
  buffer : List UInt8 := []
  blockSize : Nat
  deriving DecidableEq, Repr

namespace Buffered

/-- Buffer a source in blocks of its own chunk size, or else of a default size. -/
def ofSource (s : Source) (defaultSize : Nat) : Buffered where
  source := s
  blockSize := if 1 < s.chunkSize then s.chunkSize else max defaultSize 1

def byteLen? (b : Buffered) : Option Nat := b.source.byteLen?

/-- Moving needs a source that can move and knows its length. -/
def isSeekable (b : Buffered) : Bool := b.source.isSeekable && b.byteLen?.isSome

/-- The position of the next byte that is handed out. -/
def position (b : Buffered) : Nat := b.source.position - b.buffer.length

/-- Hand out at most `n` bytes of the buffer. -/
def take (b : Buffered) (n : Nat) : List UInt8 × Buffered :=
  (b.buffer.take n, { b with buffer := b.buffer.drop n })

/-- Read at most `n` bytes. A long read with nothing in the buffer goes around it. -/
def read (b : Buffered) (n : Nat) : List UInt8 × Buffered :=
  match b.buffer with
  | _ :: _ => b.take n
  | [] =>
    if b.blockSize ≤ n then
      let (bytes, source) := b.source.read n
      (bytes, { b with source })
    else
      let (block, source) := b.source.read b.blockSize
      { b with source, buffer := block }.take n

/-- Move the source under the buffer and empty the buffer; after a failure nothing is changed. -/
def reposition (b : Buffered) (t : SeekTarget) : Except IoFailure Nat × Buffered :=
  match b.source.seek t with
  | .ok source => (.ok source.position, { b with source, buffer := [] })
  | .error e => (.error e, b)

/-- Move to a target and tell the position. Asking for the present position keeps the buffer. A
distance from there counts from the next byte that is handed out; when the distance for the source
below does not fit in 64 bits, the buffer is given back first. -/
def seek (b : Buffered) (t : SeekTarget) : Except IoFailure Nat × Buffered :=
  match t with
  | .current d =>
    if d = 0 then ((b.source.seek t).map fun _ => b.position, b)
    else if b.isSeekable then
      if minInstant ≤ d - b.buffer.length then b.reposition (.current (d - b.buffer.length))
      else
        match b.reposition (.current (-b.buffer.length)) with
        | (.ok _, b) => b.reposition t
        | failed => failed
    else (.error .cannotSeek, b)
  | _ => if b.isSeekable then b.reposition t else (.error .cannotSeek, b)

end Buffered

end MediaTags
