/-!
# Failures

Why a source, a container, a settings file or a whole request fails, each cause with its message.
Arithmetic that leaves its type is no such cause: nobody is told of it, and whatever was going on
ends.
-/

namespace MediaTags

/-- What breaks work off. -/
inductive Abort (ε : Type) where
  /-- A failure that the caller is told of. -/
  | failure (cause : ε)
  /-- A sum or a product that does not fit in its type. -/
  | overflow
  deriving DecidableEq, Repr

namespace Abort

def map {ε ε' : Type} (f : ε → ε') : Abort ε → Abort ε'
  | failure cause => failure (f cause)
  | overflow => overflow

/-- Go on without the result of work that failed. -/
def ignore {ε ε' α : Type} : Except (Abort ε) α → Except (Abort ε') (Option α)
  | .ok a => .ok (some a)
  | .error (failure _) => .ok none
  | .error overflow => .error overflow

end Abort

/-- The kinds of input and output failures that callers tell apart. -/
inductive IoKind where
  | unexpectedEof
  | invalidData
  | invalidInput
  | unsupported
  | notFound
  | other
  deriving DecidableEq, Repr

structure IoFailure where
  kind : IoKind
  message : String
  deriving DecidableEq, Repr

/-- Why a container cannot be opened or has no codec to name. -/
inductive ProbeFailure where
  | io (cause : IoFailure)
  | unrecognized (what : String)
  | openFailed (what : String)
  | noAudioStream
  deriving DecidableEq, Repr

namespace ProbeFailure

def message : ProbeFailure → String
  | io cause => "IO error: " ++ cause.message
  | unrecognized what => "Unrecognized container format: " ++ what
  | openFailed what => "Failed to open container: " ++ what
  | noAudioStream => "No audio stream found"

end ProbeFailure

/-- Why settings cannot be saved. -/
inductive SettingsFailure where
  | noDirectory
  | createDirectory (path : String) (cause : IoFailure)
  | outOfRange
  | write (path : String) (cause : IoFailure)
  | rename (source target : String) (cause : IoFailure)
  deriving DecidableEq, Repr

namespace SettingsFailure

def message : SettingsFailure → String
  | noDirectory => "Could not determine config directory"
  | createDirectory path cause =>
    "Failed to create config directory " ++ path ++ ": " ++ cause.message
  | outOfRange => "Failed to serialize config: out-of-range value for u64 type"
  | write path cause => "Failed to write config to " ++ path ++ ": " ++ cause.message
  | rename source target cause =>
    "Failed to rename temp file " ++ source ++ " to " ++ target ++ ": " ++ cause.message

end SettingsFailure

/-- Why a request fails. -/
inductive Failure where
  | probe (cause : ProbeFailure)
  | io (cause : IoFailure)
  | notFound (path : String)
  | settings (cause : SettingsFailure)
  | context (what : String) (cause : Failure)
  deriving DecidableEq, Repr

namespace Failure

def message : Failure → String
  | probe cause => cause.message
  | io cause => "IO error: " ++ cause.message
  | notFound path => "File not found: " ++ path
  | settings cause => cause.message
  | context what cause => what ++ ": " ++ cause.message

/-- The probe failure below all context. -/
def probe? : Failure → Option ProbeFailure
  | probe cause => some cause
  | context _ cause => cause.probe?
  | _ => none

/-- The message of a failure and of each cause below it. -/
def chain : Failure → List String
  | probe (.io cause) => [(ProbeFailure.io cause).message, cause.message]
  | io cause => ["IO error: " ++ cause.message, cause.message]
  | context what cause => (what ++ ": " ++ cause.message) :: cause.chain
  | f => [f.message]

end Failure

end MediaTags
