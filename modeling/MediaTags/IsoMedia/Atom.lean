import MediaTags.Bytes
import MediaTags.IsoMedia.Fault

/-!
# Atoms

An atom is a size, a kind of four bytes and a payload. The size counts the header too. A size of
one means that a size of eight bytes follows the kind, a size of zero that the atom runs to the
end of its parent.
-/

namespace MediaTags.IsoMedia

/-- The kind of an atom and the range of its payload. -/
structure Atom where
  kind : List UInt8
  dataStart : Nat
  stop : Nat
  deriving DecidableEq, Repr

/-- The bytes of a kind's name. -/
def kindOf (name : String) : List UInt8 := name.toList.map fun c => .ofNat c.toNat

namespace Atom

def isKind (name : String) (a : Atom) : Bool := a.kind == kindOf name

/-- The width of a header without and with a large size. -/
def shortHeader : Nat := 8

def longHeader : Nat := 16

/-- The size of an atom at `pos` whose parent stops at `stop`, and the width of its header. -/
def extent (file : Bytes) (pos stop : Nat) (short : Nat) : Except Fault (Nat × Nat) :=
  if short = 0 then .ok (stop - pos, shortHeader)
  else if short = 1 then
    match file.slice? (pos + shortHeader) 8 with
    | some bs => .ok (Bytes.bigEndian bs, longHeader)
    | none => .error .endOfData
  else .ok (short, shortHeader)

/-- Read the atom at `pos` of a parent that stops at `stop`. -/
def read (file : Bytes) (pos stop : Nat) : Except Fault Atom :=
  match file.slice? pos shortHeader with
  | none => .error .endOfData
  | some head =>
    match extent file pos stop (Bytes.bigEndian (head.take 4)) with
    | .error f => .error f
    | .ok (size, width) =>
      if size < width ∨ stop < pos + size then .error .overrun
      else .ok ⟨head.drop 4, pos + width, pos + size⟩

/-- A header has at least eight bytes and lies, like its atom, within the parent. -/
theorem read_bounds {file : Bytes} {pos stop : Nat} {a : Atom} (h : read file pos stop = .ok a) :
    pos + 8 ≤ a.dataStart ∧ a.dataStart ≤ a.stop ∧ a.stop ≤ stop := by
  simp only [read] at h
  split at h
  · cases h
  · split at h
    · cases h
    · next size width hx =>
      have hw : 8 ≤ width := by
        simp only [extent] at hx
        split at hx
        · cases hx; decide
        · split at hx
          · split at hx
            · cases hx; decide
            · cases hx
          · cases hx; decide
      split at h
      · cases h
      · cases h; simp; omega

end Atom

/-- The atoms that lie end to end from `pos` to `stop`; fewer than eight bytes left over are
passed over. `done` has the atoms before, latest first. -/
def atomsFrom (file : Bytes) (stop : Nat) (done : List Atom) (pos : Nat) :
    Except Fault (List Atom) :=
  if _h : pos + 8 ≤ stop then
    match ha : Atom.read file pos stop with
    | .ok a =>
      have := Atom.read_bounds ha
      atomsFrom file stop (a :: done) a.stop
    | .error f => .error f
  else .ok done.reverse
termination_by stop - pos

/-- The atoms from `start` to `stop`. -/
def atoms (file : Bytes) (start stop : Nat) : Except Fault (List Atom) :=
  atomsFrom file stop [] start

/-- The atoms in the payload of an atom. -/
def Atom.children (file : Bytes) (a : Atom) : Except Fault (List Atom) :=
  atoms file a.dataStart a.stop

/-- The longest payload that is read. -/
def maxPayload : Nat := 0x100000

def Atom.payload (file : Bytes) (a : Atom) : Except Fault (List UInt8) :=
  if maxPayload < a.stop - a.dataStart then .error .payloadTooLarge
  else
    match file.slice? a.dataStart (a.stop - a.dataStart) with
    | some bs => .ok bs
    | none => .error .endOfData

end MediaTags.IsoMedia
