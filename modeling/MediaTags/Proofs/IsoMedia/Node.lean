import MediaTags.IsoMedia.Atom
import MediaTags.Proofs.Bytes
import MediaTags.Proofs.Fallible
import MediaTags.Proofs.Lists

/-!
# Written atoms

A node is an atom as it is written: a kind, a size in one of three forms, and a payload. Where a
file holds the bytes of a node, it is read as the atom that it is, and where a payload is nodes
laid end to end, these are the children.
-/

namespace MediaTags.IsoMedia

theorem Atom.kind_eq_of_isKind {a : Atom} {name : String} (h : a.isKind name) :
    a.kind = kindOf name := by
  simpa [isKind] using h

theorem Atom.not_isKind {a : Atom} {name : String} (h : a.isKind name) (other : String)
    (hne : kindOf name ≠ kindOf other) : a.isKind other = false := by
  rw [isKind, kind_eq_of_isKind h]
  simpa using hne

/-- How an atom says where it ends: by a size of four bytes, by one of eight bytes behind the kind,
or not at all, when it ends with its parent. -/
inductive SizeForm where
  | short
  | long
  | toEnd
  deriving DecidableEq, Repr

namespace SizeForm

/-- A payload of that length can be written with this form of size. -/
def Fits : SizeForm → Nat → Prop
  | short, n => Atom.shortHeader + n < 256 ^ 4
  | long, n => Atom.longHeader + n < 256 ^ 8
  | toEnd, _ => True

instance : (form : SizeForm) → (n : Nat) → Decidable (form.Fits n)
  | short, _ => inferInstanceAs (Decidable (_ < _))
  | long, _ => inferInstanceAs (Decidable (_ < _))
  | toEnd, _ => inferInstanceAs (Decidable True)

end SizeForm

/-- An atom to be written. -/
structure Node where
  kind : List UInt8
  form : SizeForm := .short
  payload : List UInt8
  length_kind : kind.length = 4 := by decide
  fits : form.Fits payload.length := by decide +kernel

namespace Node

def isKind (name : String) (n : Node) : Bool := n.kind == kindOf name

/-- The number in the four bytes in front. -/
def sizeWord (n : Node) : Nat :=
  match n.form with
  | .short => Atom.shortHeader + n.payload.length
  | .long => 1
  | .toEnd => 0

/-- The size behind the kind, if there is one. -/
def largeSize (n : Node) : List UInt8 :=
  match n.form with
  | .long => Bytes.ofNumber 8 (Atom.longHeader + n.payload.length)
  | _ => []

def head (n : Node) : List UInt8 := Bytes.ofNumber 4 n.sizeWord ++ n.kind ++ n.largeSize

def bytes (n : Node) : List UInt8 := n.head ++ n.payload

/-- The atom that a node is where its bytes start at `pos`. -/
def place (pos : Nat) (n : Node) : Atom where
  kind := n.kind
  dataStart := pos + n.head.length
  stop := pos + n.bytes.length

/-- The atoms that nodes are when they are laid end to end. -/
def placeAll (pos : Nat) : List Node → List Atom
  | [] => []
  | n :: ns => n.place pos :: placeAll (n.place pos).stop ns

/-- Nodes that lie end to end, with fewer bytes behind them than a header has. Only the last one
may be without a size, and then nothing comes behind it. -/
inductive Lays : List UInt8 → List Node → Prop
  | nil {rest : List UInt8} : rest.length < Atom.shortHeader → Lays rest []
  | cons {n : Node} {rest : List UInt8} {ns : List Node} :
      (n.form = .toEnd → rest = []) → Lays rest ns → Lays (n.bytes ++ rest) (n :: ns)

theorem lays_flatMap {ns : List Node} (h : ∀ n ∈ ns, n.form ≠ .toEnd) :
    Lays (ns.flatMap bytes) ns := by
  induction ns with
  | nil => exact .nil (by decide)
  | cons n ns ih =>
    rw [List.forall_mem_cons] at h
    exact .cons (fun hform => absurd hform h.1) (ih h.2)

theorem length_bytes (n : Node) : n.bytes.length = n.head.length + n.payload.length :=
  List.length_append

theorem length_head (n : Node) : n.head.length = 8 + n.largeSize.length := by
  rw [head, List.length_append, List.length_append, Bytes.length_ofNumber, n.length_kind]

theorem sizeWord_lt (n : Node) : n.sizeWord < 256 ^ 4 := by
  have hfits := n.fits
  rw [sizeWord]
  split
  · next hform =>
    rw [hform] at hfits
    exact hfits
  · decide
  · decide

/-- The size that a header writes is that of the node. -/
theorem extent_sizeWord {file : Bytes} {pos stop : Nat} {n : Node} (h : file.Holds pos n.bytes)
    (hend : n.form = .toEnd → stop = pos + n.bytes.length) :
    Atom.extent file pos stop n.sizeWord = .ok (n.bytes.length, n.head.length) := by
  have hfits := n.fits
  rw [length_bytes, length_head]
  cases hform : n.form with
  | short =>
    have hword : n.sizeWord = 8 + n.payload.length := by
      rw [sizeWord, hform]
      rfl
    have hlarge : n.largeSize = [] := by rw [largeSize, hform]
    rw [Atom.extent, if_neg (by omega), if_neg (by omega), hword, hlarge]
    rfl
  | long =>
    have hword : n.sizeWord = 1 := by rw [sizeWord, hform]
    have hlarge : n.largeSize = Bytes.ofNumber 8 (Atom.longHeader + n.payload.length) := by
      rw [largeSize, hform]
    have hlen : n.bytes.length ≤ file.size - pos := by simpa using h.length_le
    have hhead := n.length_head
    have hbytes := n.length_bytes
    have hholds : file.Holds (pos + 8) n.largeSize := by
      have := h.left.right
      rwa [List.length_append, Bytes.length_ofNumber, n.length_kind] at this
    have hslice := hholds.slice? (by omega)
    rw [hlarge, Bytes.length_ofNumber] at hslice
    rw [hform] at hfits
    rw [Atom.extent, hword, if_neg (by decide), if_pos rfl, Atom.shortHeader, hslice, hlarge,
      Bytes.length_ofNumber]
    simp only [Bytes.bigEndian_ofNumber, Nat.mod_eq_of_lt hfits]
    rfl
  | toEnd =>
    have hword : n.sizeWord = 0 := by rw [sizeWord, hform]
    have hlarge : n.largeSize = [] := by rw [largeSize, hform]
    rw [Atom.extent, if_pos hword, hend hform, Nat.add_sub_cancel_left, length_bytes, length_head,
      hlarge]
    rfl

/-- An atom is read back as it was written. -/
theorem read_place {file : Bytes} {pos stop : Nat} {n : Node} (h : file.Holds pos n.bytes)
    (hstop : pos + n.bytes.length ≤ stop)
    (hend : n.form = .toEnd → stop = pos + n.bytes.length) :
    Atom.read file pos stop = .ok (n.place pos) := by
  have hlen : n.bytes.length ≤ file.size - pos := by simpa using h.length_le
  have hbytes := n.length_bytes
  have hhead := n.length_head
  have hslice := h.left.left.slice? (by omega)
  rw [List.length_append, Bytes.length_ofNumber, n.length_kind] at hslice
  have hfour : (Bytes.ofNumber 4 n.sizeWord).length = 4 := Bytes.length_ofNumber ..
  rw [Atom.read, Atom.shortHeader, hslice]
  simp only [List.take_left' hfour, List.drop_left' hfour, Bytes.bigEndian_ofNumber,
    Nat.mod_eq_of_lt n.sizeWord_lt, extent_sizeWord h hend]
  rw [if_neg (by omega), place]

/-- Nodes laid end to end are listed one after the other. -/
theorem atomsFrom_placeAll {file : Bytes} {bs : List UInt8} {ns : List Node} (hns : Lays bs ns)
    {stop pos : Nat} (done : List Atom) (h : file.Holds pos bs) (hstop : stop = pos + bs.length) :
    atomsFrom file stop done pos = .ok (done.reverse ++ placeAll pos ns) := by
  induction hns generalizing pos done with
  | nil hrest =>
    rw [Atom.shortHeader] at hrest
    rw [atomsFrom, dif_neg (by omega), placeAll, List.append_nil]
  | @cons n rest ns hform _ ih =>
    rw [List.length_append] at hstop
    have hhead := n.length_head
    have hbytes := n.length_bytes
    have hread : Atom.read file pos stop = .ok (n.place pos) := by
      refine read_place h.left (by omega) fun hend => ?_
      rw [hstop, hform hend, List.length_nil, Nat.add_zero]
    rw [atomsFrom, dif_pos (by omega)]
    split
    · next a ha =>
      obtain rfl : n.place pos = a := Except.ok.inj (hread.symm.trans ha)
      have hrest : stop = (n.place pos).stop + rest.length := by
        rw [hstop]
        exact (Nat.add_assoc ..).symm
      refine (ih (n.place pos :: done) h.right hrest).trans ?_
      rw [List.reverse_cons, List.append_assoc]
      rfl
    · next f hf =>
      rw [hread] at hf
      cases hf

/-- The payload is made of nodes for which `P` holds. -/
def Contains (n : Node) (P : List Node → Prop) : Prop := ∃ ns, Lays n.payload ns ∧ P ns

/-- The payload is not too long to be read as a whole. -/
def Readable (n : Node) : Prop := n.payload.length ≤ maxPayload

instance (n : Node) : Decidable n.Readable := inferInstanceAs (Decidable (_ ≤ _))

end Node

/-- The payload of an atom is that of a node. -/
structure Stores (file : Bytes) (a : Atom) (n : Node) : Prop where
  kind_eq : a.kind = n.kind
  stop_eq : a.stop = a.dataStart + n.payload.length
  start_le : a.dataStart ≤ file.size
  holds : file.Holds a.dataStart n.payload

theorem Node.stores_place {file : Bytes} {pos : Nat} {n : Node} (h : file.Holds pos n.bytes) :
    Stores file (n.place pos) n where
  kind_eq := rfl
  stop_eq := by rw [place, length_bytes, Nat.add_assoc]
  start_le := by
    have hlen : n.bytes.length ≤ file.size - pos := by simpa using h.length_le
    have hbytes := n.length_bytes
    have hhead := n.length_head
    simp only [place]
    omega
  holds := h.right

theorem Node.stores_placeAll {file : Bytes} {bs : List UInt8} {ns : List Node}
    (hns : Node.Lays bs ns) {pos : Nat} (h : file.Holds pos bs) :
    List.Forall₂ (Stores file) (placeAll pos ns) ns := by
  induction hns generalizing pos with
  | nil => exact .nil
  | cons _ _ ih => exact .cons (stores_place h.left) (ih h.right)

/-- The atoms of a range are the nodes that its bytes are made of. -/
theorem exists_atoms {file : Bytes} {bs : List UInt8} {ns : List Node} (hns : Node.Lays bs ns)
    {pos stop : Nat} (h : file.Holds pos bs) (hstop : stop = pos + bs.length) :
    ∃ as, atoms file pos stop = .ok as ∧ List.Forall₂ (Stores file) as ns :=
  ⟨_, Node.atomsFrom_placeAll hns [] h hstop, Node.stores_placeAll hns h⟩

namespace Stores

variable {file : Bytes} {a : Atom} {n : Node}

theorem isKind_eq (h : Stores file a n) (name : String) : a.isKind name = n.isKind name := by
  rw [Atom.isKind, Node.isKind, h.kind_eq]

theorem payload_eq (h : Stores file a n) (hn : n.Readable) : a.payload file = .ok n.payload := by
  have hsize : a.stop - a.dataStart = n.payload.length := by
    rw [h.stop_eq, Nat.add_sub_cancel_left]
  rw [Atom.payload, hsize, if_neg (Nat.not_lt.2 hn), h.holds.slice? h.start_le]

/-- The children of an atom that stores a node store those of the node. -/
theorem exists_children (h : Stores file a n) {P : List Node → Prop} (hn : n.Contains P) :
    ∃ as ns, a.children file = .ok as ∧ List.Forall₂ (Stores file) as ns ∧ P ns := by
  obtain ⟨ns, hns, hP⟩ := hn
  obtain ⟨as, has, hstored⟩ := exists_atoms hns h.holds h.stop_eq
  exact ⟨as, ns, has, hstored, hP⟩

end Stores

section Lists

variable {file : Bytes} {as : List Atom} {ns : List Node}

/-- The first atom of a kind stores the first node of that kind. -/
theorem find?_stored (h : List.Forall₂ (Stores file) as ns) (name : String) :
    Option.Rel (Stores file) (as.find? (Atom.isKind name)) (ns.find? (Node.isKind name)) :=
  find?_forall₂ h fun _ _ h => h.isKind_eq name

theorem exists_find?_stored (h : List.Forall₂ (Stores file) as ns) {name : String} {n : Node}
    (hn : ns.find? (Node.isKind name) = some n) :
    ∃ a, as.find? (Atom.isKind name) = some a ∧ Stores file a n := by
  have hfind := find?_stored h name
  rw [hn] at hfind
  generalize as.find? (Atom.isKind name) = found at hfind
  cases hfind with
  | some hstored => exact ⟨_, rfl, hstored⟩

/-- Atoms can be read in order where each of them can, as what it stores. -/
theorem exists_foldlM_stored {σ : Type} {step : σ → Atom → Except Fault σ}
    (h : List.Forall₂ (Stores file) as ns)
    (hstep : ∀ a n, n ∈ ns → Stores file a n → ∀ s, ∃ s', step s a = .ok s') (s : σ) :
    ∃ s', as.foldlM step s = .ok s' := by
  refine exists_foldlM (fun a ha => ?_) s
  obtain ⟨n, hn, hstored⟩ := exists_of_mem_forall₂ h ha
  exact hstep a n hn hstored

end Lists

end MediaTags.IsoMedia
