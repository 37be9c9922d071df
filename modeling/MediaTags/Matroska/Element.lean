import MediaTags.Matroska.Vint

/-!
# Elements and their children

An element is an id, a size and a payload of that size. The children of an element lie end to end
in its payload. They are listed up to the first header that cannot be read; what was wrong with
that one is kept beside them, because what is read from the earlier children comes first.
-/

namespace MediaTags.Matroska

/-- The id of an element and the range of its payload. -/
structure Element where
  id : Nat
  dataStart : Nat
  stop : Nat
  deriving DecidableEq, Repr

namespace Element

/-- An element of unknown size may stop before its payload starts; it has no payload then. -/
def size (e : Element) : Nat := e.stop - e.dataStart

end Element

/-- The most bytes that an id and a size take together. -/
def headerWidth : Nat := 12

/-- Read the header at `pos` of an element inside one that stops at `parentStop`. An element of
unknown size runs to the end of its parent. -/
def header (file : Bytes) (pos parentStop : Nat) : Except Fault Element :=
  let bs := file.window pos headerWidth
  match readId bs with
  | .error f => .error f
  | .ok (id, afterId) =>
    match readSize afterId with
    | .error f => .error f
    | .ok (size, rest) =>
      let dataStart := pos + (bs.length - rest.length)
      match size with
      | none => .ok ⟨id, dataStart, parentStop⟩
      | some n =>
        if dataStart + n ≤ parentStop then .ok ⟨id, dataStart, dataStart + n⟩
        else .error .overrun

/-- A header takes up room, and its element ends after it starts and within its parent. -/
theorem header_bounds {file : Bytes} {pos parentStop : Nat} {e : Element}
    (h : header file pos parentStop = .ok e) :
    pos < e.dataStart ∧ (pos < parentStop → pos < e.stop) ∧ e.stop ≤ parentStop := by
  simp only [header] at h
  split at h
  · cases h
  · next id afterId hid =>
    split at h
    · cases h
    · next size rest hsize =>
      have h₁ := length_of_readId hid
      have h₂ := length_of_readSize hsize
      split at h
      · cases h; simp; omega
      · split at h
        · cases h; simp; omega
        · cases h

/-- The children that can be read, and what is wrong with the first one that cannot. -/
structure Children where
  elements : List Element
  fault : Option Fault
  deriving DecidableEq, Repr

/-- List the elements from `pos` to `stop`, up to one that `last` holds for. `done` has those
before, latest first. -/
def childrenFrom (file : Bytes) (last : Element → Bool) (stop : Nat) (done : List Element)
    (pos : Nat) : Children :=
  if h : pos < stop then
    match he : header file pos stop with
    | .ok e =>
      if last e then ⟨done.reverse, none⟩
      else
        have := (header_bounds he).2.1 h
        childrenFrom file last stop (e :: done) e.stop
    | .error f => ⟨done.reverse, some f⟩
  else ⟨done.reverse, none⟩
termination_by stop - pos

/-- The children of an element before the first that `last` holds for. -/
def childrenUntil (file : Bytes) (last : Element → Bool) (parent : Element) : Children :=
  childrenFrom file last parent.stop [] parent.dataStart

def children (file : Bytes) (parent : Element) : Children :=
  childrenUntil file (fun _ => false) parent

namespace Children

/-- Read each child in order, and fail at the first that cannot be read. -/
def mapM {α : Type} (c : Children) (read : Element → Except Fault α) : Except Fault (List α) := do
  let values ← c.elements.mapM read
  match c.fault with
  | some f => .error f
  | none => .ok values

/-- Read the children in order into a value that each of them may change. -/
def foldlM {σ : Type} (c : Children) (read : σ → Element → Except Fault σ) (init : σ) :
    Except Fault σ := do
  let s ← c.elements.foldlM read init
  match c.fault with
  | some f => .error f
  | none => .ok s

/-- Read an element if it has the right id. -/
def readIf {α : Type} (wanted : Nat) (read : Element → Except Fault α) (e : Element) :
    Except Fault (Option α) :=
  if e.id = wanted then (read e).map some else .ok none

/-- Read those children that have an id. -/
def readAll {α : Type} (c : Children) (wanted : Nat) (read : Element → Except Fault α) :
    Except Fault (List α) := do
  let values ← c.mapM (readIf wanted read)
  return values.filterMap id

end Children

end MediaTags.Matroska
