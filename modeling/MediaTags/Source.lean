import MediaTags.Bytes
import MediaTags.Failure

/-!
# Byte sources

A source is read from its position on, and may move to another one. Positions past the end are
allowed and give nothing to read. A source that does not tell its length, or cannot move, is read
from front to back.
-/

namespace MediaTags

/-- Where a source is told to move to. -/
inductive SeekTarget where
  | start (n : Nat)
  | current (d : Int)
  | fromEnd (d : Int)
  deriving DecidableEq, Repr

/-- What is asked of a source. -/
inductive Request where
  | read (n : Nat)
  | seek (target : SeekTarget)
  deriving DecidableEq, Repr

/-- How a source moves. -/
inductive Seeking where
  /-- To every unsigned 64-bit position. -/
  | memory
  /-- To every signed 64-bit position that is not negative. -/
  | file
  /-- Not at all, but it can tell where it is. -/
  | forward
  /-- It promises to move and then fails. -/
  | refused (cause : IoFailure)
  deriving DecidableEq, Repr

structure Source where
  data : Bytes
  position : Nat := 0
  /-- The size in which the source is read best; none if less than two. -/
  chunkSize : Nat := 0
  /-- Whether the length is known. -/
  sized : Bool := true
  seeking : Seeking := .memory
  /-- The most that each of the next reads gives, as a pipe gives what has arrived; a read gives at
  least one byte where there are any. Later reads give all that is asked for. -/
  grants : List Nat := []
  deriving DecidableEq, Repr

/-- What a source says that cannot move. -/
def IoFailure.cannotSeek : IoFailure := ⟨.unsupported, "source does not support seeking"⟩

namespace Source

/-- Bytes in memory. -/
def ofBytes (data : Bytes) : Source := { data }

/-- Bytes that come one after the other, in pieces of their own. -/
def forward (data : Bytes) (grants : List Nat := []) : Source :=
  { data, sized := false, seeking := .forward, grants }

/-- The contents of a file. -/
def ofFile (data : Bytes) : Source := { data, seeking := .file }

def byteLen? (s : Source) : Option Nat := if s.sized then some s.data.size else none

/-- Whether the source says that it can move. -/
def isSeekable (s : Source) : Bool := s.seeking != .forward

/-- What a read of at most `n` bytes gives, and the source after it. -/
def read (s : Source) (n : Nat) : List UInt8 × Source :=
  let bytes := s.data.window s.position (min n (max 1 (s.grants.headD n)))
  (bytes, { s with position := s.position + bytes.length, grants := s.grants.tail })

/-- Read `n` bytes, by as many reads as it takes. There are fewer where the data ends. -/
def readExact (s : Source) (n : Nat) : List UInt8 × Source :=
  if n = 0 then ([], s)
  else
    let (bytes, s) := s.read n
    if _h : bytes = [] then ([], s)
    else
      let (more, s) := s.readExact (n - bytes.length)
      (bytes ++ more, s)
termination_by n
decreasing_by
  have := List.length_pos_iff.2 _h
  omega

/-- The place that a target names, which may lie in front of the data. -/
def destination (s : Source) : SeekTarget → Int
  | .start n => n
  | .current d => s.position + d
  | .fromEnd d => s.data.size + d

/-- Move to a position below `limit`. -/
def moveTo (s : Source) (limit : Nat) (refusal : IoFailure) (p : Int) : Except IoFailure Source :=
  if 0 ≤ p ∧ p < limit then .ok { s with position := p.toNat } else .error refusal

/-- Move to a target. A source that fails stays where it was. -/
def seek (s : Source) (t : SeekTarget) : Except IoFailure Source :=
  match s.seeking with
  | .memory =>
    s.moveTo UInt64.size ⟨.invalidInput, "invalid seek to a negative or overflowing position"⟩
      (s.destination t)
  | .file =>
    s.moveTo 0x8000000000000000 ⟨.invalidInput, "Invalid argument (os error 22)"⟩
      (s.destination t)
  | .forward => if t = .current 0 then .ok s else .error .cannotSeek
  | .refused cause => .error cause

/-- The source after a request. One that fails leaves it where it was. -/
def after (s : Source) : Request → Source
  | .read n => (s.read n).2
  | .seek t => (s.seek t).toOption.getD s

/-- The source after one request and then the next. -/
def afterAll (s : Source) (requests : List Request) : Source := requests.foldl after s

end Source

end MediaTags
