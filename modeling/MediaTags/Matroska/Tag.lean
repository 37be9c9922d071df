import MediaTags.Normalize
import MediaTags.Matroska.Id
import MediaTags.Matroska.Value

/-!
# Tags and their targets

A tag element holds entries and says what they are about. Track ids go before chapter ids, and
these before ids of anything else; a tag without ids is about the whole file, and its keys take
the name of the target type in front. An id of zero names nothing in particular.
-/

namespace MediaTags.Matroska

/-- One child of a tag's target list. -/
inductive TargetPart where
  | targetType (name : String)
  | track (uid : Nat)
  | chapter (uid : Nat)
  /-- An edition or an attachment. -/
  | other (uid : Nat)
  | ignored
  deriving DecidableEq, Repr

namespace TargetPart

def typeName? : TargetPart → Option String
  | targetType name => some name
  | _ => none

def trackUid? : TargetPart → Option Nat
  | track uid => if uid = 0 then none else some uid
  | _ => none

def chapterUid? : TargetPart → Option Nat
  | chapter uid => if uid = 0 then none else some uid
  | _ => none

def isOther : TargetPart → Bool
  | other uid => uid != 0
  | _ => false

def read (file : Bytes) (e : Element) : Except Fault TargetPart :=
  match e.id with
  | Id.targetType => (text file e).map targetType
  | Id.tagTrackUid => (uint file e).map track
  | Id.tagChapterUid => (uint file e).map chapter
  | Id.tagEditionUid => (uint file e).map other
  | Id.tagAttachmentUid => (uint file e).map other
  | _ => .ok ignored

end TargetPart

/-- What a tag is about. -/
inductive Target where
  /-- The whole file, under the name of a target type if there is one. -/
  | global (typeName : Option String)
  | tracks (uids : List Nat)
  | chapters (uids : List Nat)
  | other
  deriving DecidableEq, Repr

namespace Target

/-- The target that all parts of a tag's target lists name together. The last type counts, and
an empty one is none. -/
def ofParts (parts : List TargetPart) : Target :=
  let tracks := parts.filterMap TargetPart.trackUid?
  let chapters := parts.filterMap TargetPart.chapterUid?
  if !tracks.isEmpty then .tracks tracks
  else if !chapters.isEmpty then .chapters chapters
  else if parts.any TargetPart.isOther then .other
  else .global ((parts.filterMap TargetPart.typeName?).getLast?.filter (!·.isEmpty))

end Target

/-- One child of a tag. -/
inductive TagPart where
  | targets (parts : List TargetPart)
  | entry (entry : Option Entry)
  | ignored
  deriving DecidableEq, Repr

structure TagElement where
  target : Target
  entries : List Entry
  deriving DecidableEq, Repr

namespace TagElement

/-- Read one child of a simple tag beside the name and the text before. -/
def readSimplePart (file : Bytes) :
    Option String × Option String → Element → Except Fault (Option String × Option String)
  | (name, value), child =>
    match child.id with
    | Id.tagName => (text file child).map fun s => (some s, value)
    | Id.tagString => (text file child).map fun s => (name, some s)
    | _ => .ok (name, value)

/-- The name and the text of a simple tag, latest ones first served. -/
def readSimple (file : Bytes) (e : Element) : Except Fault (Option Entry) := do
  let (name, value) ← (children file e).foldlM (readSimplePart file) (none, none)
  match name, value with
  | some name, some value => return if name.isEmpty then none else some ⟨name, value⟩
  | _, _ => return none

def readPart (file : Bytes) (e : Element) : Except Fault TagPart :=
  match e.id with
  | Id.targets => ((children file e).mapM (TargetPart.read file)).map .targets
  | Id.simpleTag => (readSimple file e).map .entry
  | _ => .ok .ignored

def ofParts (parts : List TagPart) : TagElement where
  target := .ofParts (parts.flatMap fun
    | .targets ps => ps
    | _ => [])
  entries := parts.filterMap fun
    | .entry e => e
    | _ => none

def read (file : Bytes) (e : Element) : Except Fault TagElement :=
  ((children file e).mapM (readPart file)).map ofParts

/-- The entries about the whole file. -/
def globalEntries (t : TagElement) : List Entry :=
  match t.target with
  | .global (some name) => t.entries.map fun e => { e with key := name ++ "/" ++ e.key }
  | .global none => t.entries
  | _ => []

/-- The entries about a track. -/
def trackEntries (uid : Nat) (t : TagElement) : List Entry :=
  match t.target with
  | .tracks uids => if uid ∈ uids then t.entries else []
  | _ => []

/-- The entries about a chapter. -/
def chapterEntries (uid : Nat) (t : TagElement) : List Entry :=
  match t.target with
  | .chapters uids => if uid ∈ uids then t.entries else []
  | _ => []

end TagElement

end MediaTags.Matroska
