import MediaTags.Demux.Revision
import MediaTags.Demux.Track
import MediaTags.Failure

/-!
# What a demuxer finds

A demuxer is asked for one thing after the other until a container turns up. Metadata may stand in
front of it.
-/

namespace MediaTags.Demux

/-- Why a demuxer fails. -/
inductive Fault where
  | unsupported (what : String)
  | malformed (what : String)
  | limit (what : String)
  | io (what : String)
  | notSeekable
  | reset
  deriving DecidableEq, Repr

namespace Fault

def message : Fault → String
  | unsupported what => "unsupported feature: " ++ what
  | malformed what => "malformed stream: " ++ what
  | limit what => "limit reached: " ++ what
  | io what => what
  | notSeekable => "seek error: stream is not seekable"
  | reset => "decoder needs to be reset"

/-- No format is left to try. -/
def exhausted : Fault := .unsupported "core (probe): no suitable format reader found"

end Fault

/-- A marked point in a container. -/
structure Cue where
  start : Nat
  tags : List RawTag := []
  deriving DecidableEq, Repr

/-- What is known of a container once it was read. -/
structure Format where
  tracks : List Track := []
  /-- The metadata in force, if there is any. -/
  revision : Option Revision := none
  cues : List Cue := []
  deriving DecidableEq, Repr

inductive Finding where
  | nothing (why : Fault)
  | metadata (block : Except Fault Revision)
  | container (format : Except Fault Format)
  deriving Repr

/-- The metadata ahead of the container and the container itself. Blocks already read come
first. -/
def Finding.collect (name : String) :
    List Finding → List Revision → Except ProbeFailure (List Revision × Format)
  | [], _ => .error (.unrecognized (name ++ ": " ++ Fault.exhausted.message))
  | .nothing why :: _, _ => .error (.unrecognized (name ++ ": " ++ why.message))
  | .metadata (.error why) :: _, _ => .error (.openFailed (name ++ ": " ++ why.message))
  | .metadata (.ok block) :: rest, blocks => collect name rest (blocks ++ [block])
  | .container (.error why) :: _, _ => .error (.openFailed (name ++ ": " ++ why.message))
  | .container (.ok format) :: _, blocks => .ok (blocks, format)

end MediaTags.Demux
