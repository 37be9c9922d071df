import MediaTags.Bytes
import MediaTags.Failure
import MediaTags.Resource

/-!
# Trees of files

A tree is a list of files and directories with the names that lead to them. Every directory on the
way to a file or to the working directory is there without being listed. A path is followed part
by part, so each part but the last has to be a directory that exists.
-/

namespace MediaTags

inductive FileNode where
  | file (data : Bytes)
  | directory
  deriving DecidableEq, Repr

/-- A place in a tree: the names on the way from the root. -/
abbrev Place := List String

structure FileTree where
  workingDirectory : Place := []
  nodes : List (Place × FileNode) := []
  deriving DecidableEq, Repr

namespace IoFailure

def noSuchFile : IoFailure := ⟨.notFound, "No such file or directory (os error 2)"⟩

def busy : IoFailure := ⟨.other, "Device or resource busy (os error 16)"⟩

def fileExists : IoFailure := ⟨.other, "File exists (os error 17)"⟩

def notADirectory : IoFailure := ⟨.other, "Not a directory (os error 20)"⟩

def isADirectory : IoFailure := ⟨.other, "Is a directory (os error 21)"⟩

end IoFailure

namespace FileTree

/-- Whether a place is on the way to another one. -/
def leadsTo (p q : Place) : Bool := p.isPrefixOf q && p.length < q.length

/-- Whether a place is a directory without being listed. -/
def isImplied (t : FileTree) (p : Place) : Bool :=
  p.isPrefixOf t.workingDirectory || t.nodes.any (fun n => leadsTo p n.1)

/-- What is at a place. -/
def get? (t : FileTree) (p : Place) : Option FileNode :=
  t.nodes.lookup p <|> (if t.isImplied p then some .directory else none)

/-- Take away what is listed at a place. -/
def remove (t : FileTree) (p : Place) : FileTree :=
  { t with nodes := t.nodes.filter (fun m => m.1 != p) }

/-- Put a file or directory at a place. -/
def set (t : FileTree) (p : Place) (n : FileNode) : FileTree :=
  { t with nodes := (t.remove p).nodes ++ [(p, n)] }

/-- Follow the segments of a path from a place on. The last one need not exist. -/
def follow (t : FileTree) : Place → List String → Except IoFailure Place
  | p, [] => .ok p
  | p, s :: rest =>
    match t.get? p with
    | some .directory =>
      if s = "" ∨ s = "." then follow t p rest
      else if s = ".." then follow t p.dropLast rest
      else follow t (p ++ [s]) rest
    | some (.file _) => .error .notADirectory
    | none => .error .noSuchFile

/-- Where a path starts. -/
def origin (t : FileTree) (path : String) : Place :=
  if path.toList.head? = some '/' then [] else t.workingDirectory

/-- The place that a path names, whether or not anything on the way exists. -/
def named (t : FileTree) (path : String) : Place :=
  (Resource.segments path).foldl (fun p s =>
    if s = "" ∨ s = "." then p else if s = ".." then p.dropLast else p ++ [s]) (t.origin path)

/-- The place that a path leads to. -/
def locate (t : FileTree) (path : String) : Except IoFailure Place :=
  if path = "" then .error .noSuchFile else t.follow (t.origin path) (Resource.segments path)

/-- What a path leads to. -/
def open? (t : FileTree) (path : String) : Except IoFailure FileNode :=
  match t.locate path with
  | .ok p =>
    match t.get? p with
    | some n => .ok n
    | none => .error .noSuchFile
  | .error e => .error e

def pathExists (t : FileTree) (path : String) : Bool :=
  match t.open? path with
  | .ok _ => true
  | .error _ => false

def isDirectory (t : FileTree) (path : String) : Bool :=
  match t.open? path with
  | .ok .directory => true
  | _ => false

/-- The contents of the file at a path. -/
def contents? (t : FileTree) (path : String) : Option Bytes :=
  match t.open? path with
  | .ok (.file data) => some data
  | _ => none

/-- The files below a place, with their names from there on. -/
def filesBelow (t : FileTree) (p : Place) : List (Place × Bytes) :=
  t.nodes.filterMap fun (q, n) =>
    match n with
    | .file data => if leadsTo p q then some (q.drop p.length, data) else none
    | .directory => none

/-- Make the directories on the way along segments. A failure tells what is wrong; the tree is what
was reached. A path is first tried as a whole, and part by part once something on it was `made`. -/
def makeDirectories (t : FileTree) (made : Bool) :
    Place → List String → Except IoFailure Unit × FileTree
  | _, [] => (.ok (), t)
  | p, s :: rest =>
    if s = "" ∨ s = "." then makeDirectories t made p rest
    else if s = ".." then makeDirectories t made p.dropLast rest
    else
      let q := p ++ [s]
      match t.get? q with
      | some .directory => makeDirectories t made q rest
      | some (.file _) =>
        (.error (if made || rest.isEmpty then .fileExists else .notADirectory), t)
      | none => makeDirectories (t.set q .directory) true q rest

/-- Make a directory and those above it. -/
def makeDirectory (t : FileTree) (path : String) : Except IoFailure Unit × FileTree :=
  t.makeDirectories false (t.origin path) (Resource.segments path)

/-- Write a file, which is made if it does not exist. -/
def write (t : FileTree) (path : String) (data : Bytes) : Except IoFailure FileTree :=
  match t.locate path with
  | .error e => .error e
  | .ok p =>
    match t.get? p with
    | some .directory => .error .isADirectory
    | _ => .ok (t.set p (.file data))

/-- The place that a file can be moved to: no directory, and not named as one. -/
def destination (t : FileTree) (path : String) : Except IoFailure Place :=
  let segments := Resource.segments path
  let named := (segments.reverse.dropWhile (· == "")).reverse
  match t.follow (t.origin path) (named.dropLast ++ [""]) with
  | .error e => .error e
  | .ok p =>
    match named.getLast? with
    | none => .error .busy
    | some s =>
      if s = "." ∨ s = ".." then .error .busy
      else if named.length < segments.length then .error .notADirectory
      else if t.get? (p ++ [s]) = some .directory then .error .isADirectory
      else .ok (p ++ [s])

/-- Move a file over another one or to a new place. -/
def rename (t : FileTree) (source target : String) : Except IoFailure FileTree :=
  match t.locate source, t.destination target with
  | .error e, _ => .error e
  | _, .error e => .error e
  | .ok p, .ok q =>
    match t.get? p with
    | none => .error .noSuchFile
    | some n => .ok ((t.remove p).set q n)

end FileTree

end MediaTags
