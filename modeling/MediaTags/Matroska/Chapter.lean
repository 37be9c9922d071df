import MediaTags.Container
import MediaTags.Matroska.Id
import MediaTags.Matroska.Value

/-!
# Editions and their chapters

The chapters are those of the default edition, or of the first one. An atom without an id, one
that is hidden or not enabled, and one that does not start after those before it are left out.
-/

namespace MediaTags.Matroska

/-- A chapter as declared, with its times in nanoseconds. -/
structure Atom where
  uid : Nat := 0
  start : Nat := 0
  stop : Option Nat := none
  hidden : Bool := false
  enabled : Bool := true
  title : Option String := none
  deriving DecidableEq, Repr

namespace Atom

/-- Times are in nanoseconds. -/
def timeBase : TimeBase := ⟨1, 1000000000⟩

/-- Only the first title counts; later ones are not even read. -/
def readDisplay (file : Bytes) (a : Atom) (e : Element) : Except Fault Atom :=
  if e.id = Id.chapString ∧ a.title = none then
    (text file e).map fun s => { a with title := some s }
  else .ok a

def readChild (file : Bytes) (a : Atom) (e : Element) : Except Fault Atom :=
  match e.id with
  | Id.chapterUid => (uint file e).map fun n => { a with uid := n }
  | Id.chapterTimeStart => (uint file e).map fun n => { a with start := n }
  | Id.chapterTimeEnd => (uint file e).map fun n => { a with stop := some n }
  | Id.chapterFlagHidden => (uint file e).map fun n => { a with hidden := n != 0 }
  | Id.chapterFlagEnabled => (uint file e).map fun n => { a with enabled := n != 0 }
  | Id.chapterDisplay =>
    if a.title = none then (children file e).foldlM (readDisplay file) a else .ok a
  | _ => .ok a

def read (file : Bytes) (e : Element) : Except Fault Atom :=
  (children file e).foldlM (readChild file) {}

def isUsable (a : Atom) : Bool := a.uid != 0 && !a.hidden && a.enabled

/-- Keep the usable atoms that start after those kept before, which `kept` holds latest first. -/
def keepFrom (kept : List Atom) : List Atom → List Atom
  | [] => kept.reverse
  | a :: rest =>
    if a.isUsable && kept.head?.all (·.start < a.start) then keepFrom (a :: kept) rest
    else keepFrom kept rest

def keep (atoms : List Atom) : List Atom := keepFrom [] atoms

/-- The title entry of an atom, if it has a title. -/
def entries (a : Atom) : List Entry :=
  match a.title with
  | some title => if title.isEmpty then [] else [⟨"title", title⟩]
  | none => []

/-- A start out of range becomes the last instant, an end out of range is not known. -/
def toChapter (a : Atom) (extra : List Entry) : Chapter where
  start := min (a.start : Int) maxInstant
  stop := (a.stop.map Int.ofNat).filter (· ≤ maxInstant)
  timeBase := timeBase
  metadata := a.entries ++ extra

end Atom

/-- An edition and whether it is the default one. -/
structure Edition where
  element : Element
  isDefault : Bool
  deriving DecidableEq, Repr

namespace Edition

/-- Read the flag that makes an edition the default one, if a child is that. -/
def readFlag (file : Bytes) (isDefault : Bool) (child : Element) : Except Fault Bool :=
  if child.id = Id.editionFlagDefault then (uint file child).map (· != 0) else .ok isDefault

def read (file : Bytes) (e : Element) : Except Fault Edition :=
  ((children file e).foldlM (readFlag file) false).map fun isDefault => ⟨e, isDefault⟩

/-- The default edition, or the first one. -/
def choose? (editions : List Edition) : Option Edition :=
  editions.find? Edition.isDefault <|> editions.head?

/-- The kept atoms of the chosen edition. -/
def readAtoms (file : Bytes) (chapters : Element) : Except Fault (List Atom) := do
  let editions ← (children file chapters).readAll Id.editionEntry (Edition.read file)
  match choose? editions with
  | none => return []
  | some edition =>
    let atoms ← (children file edition.element).readAll Id.chapterAtom (Atom.read file)
    return Atom.keep atoms

end Edition

end MediaTags.Matroska
