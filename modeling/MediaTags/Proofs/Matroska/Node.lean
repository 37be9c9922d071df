import MediaTags.Matroska.Value
import MediaTags.Proofs.Matroska.Vint
import MediaTags.Proofs.Text.Blank
import MediaTags.Proofs.Text.Utf8

/-!
# Written elements

A node is an element as it is written: an id, a size in some width, and a payload. Where a file
holds the bytes of a node, its header is read as the element that it is, and where a payload is
nodes laid end to end, these are the children.
-/

namespace MediaTags.Matroska

/-- An element to be written, whose size is known and fits in the bytes meant for it. -/
structure Node where
  id : Nat
  sizeWidth : Nat
  payload : List UInt8
  isId : IsId id := by decide
  sizeWidth_pos : 1 ≤ sizeWidth := by decide
  sizeWidth_le : sizeWidth ≤ 8 := by decide
  length_lt : payload.length < unknownSize sizeWidth := by decide

namespace Node

def head (n : Node) : List UInt8 := idBytes n.id ++ sizeBytes n.sizeWidth n.payload.length

def bytes (n : Node) : List UInt8 := n.head ++ n.payload

/-- The payload of the node is made of other nodes. -/
def HasChildren (n : Node) (ns : List Node) : Prop := n.payload = ns.flatMap bytes

/-- The element that a node is where its bytes start at `pos`. -/
def place (pos : Nat) (n : Node) : Element where
  id := n.id
  dataStart := pos + n.head.length
  stop := pos + n.bytes.length

/-- The elements that nodes are when they are laid end to end. -/
def placeAll (pos : Nat) : List Node → List Element
  | [] => []
  | n :: ns => n.place pos :: placeAll (n.place pos).stop ns

theorem length_head_le (n : Node) : n.head.length ≤ headerWidth := by
  have := (idWidth_bounds n.id).2
  have := n.sizeWidth_le
  simp only [head, List.length_append, length_idBytes, length_sizeBytes, headerWidth]
  omega

theorem length_bytes_pos (n : Node) : 0 < n.bytes.length := by
  have := n.sizeWidth_pos
  simp only [bytes, head, List.length_append, length_sizeBytes]
  omega

/-- A header is read back as it was written. -/
theorem header_place {file : Bytes} {pos parentStop : Nat} {n : Node}
    (h : file.Holds pos n.bytes) (hstop : pos + n.bytes.length ≤ parentStop) :
    header file pos parentStop = .ok (n.place pos) := by
  obtain ⟨rest, hrest⟩ := h.left.window headerWidth n.length_head_le
  have hsize : n.payload.length < 2 ^ (7 * n.sizeWidth) := by
    have := n.length_lt
    rw [unknownSize_eq] at this
    omega
  have hknown : n.payload.length ≠ unknownSize n.sizeWidth := n.length_lt.ne
  have hwidth : n.head.length = (n.head ++ rest).length - rest.length := by simp
  have hbytes : n.bytes.length = n.head.length + n.payload.length := List.length_append
  simp only [header, hrest]
  rw [head, List.append_assoc, readId_idBytes n.isId]
  simp only [readSize_sizeBytes n.sizeWidth_pos n.sizeWidth_le hsize, if_neg hknown]
  rw [← List.append_assoc, ← head, ← hwidth, if_pos (by omega), place, hbytes, Nat.add_assoc]

/-- Nodes laid end to end are listed one after the other. -/
theorem childrenFrom_placeAll {file : Bytes} {last : Element → Bool} {stop : Nat}
    {ns : List Node} {pos : Nat} (done : List Element) (h : file.Holds pos (ns.flatMap bytes))
    (hstop : stop = pos + (ns.flatMap bytes).length) :
    childrenFrom file last stop done pos =
      ⟨done.reverse ++ (placeAll pos ns).takeWhile (fun e => !last e), none⟩ := by
  induction ns generalizing pos done with
  | nil =>
    rw [childrenFrom, dif_neg (by simp [hstop])]
    simp [placeAll]
  | cons n ns ih =>
    rw [List.flatMap_cons] at h hstop
    rw [List.length_append] at hstop
    have hpos := n.length_bytes_pos
    have hhead : header file pos stop = .ok (n.place pos) := header_place h.left (by omega)
    have hrest := ih (n.place pos :: done) h.right (by omega)
    rw [childrenFrom, dif_pos (by omega)]
    split
    · next e he =>
      obtain rfl : n.place pos = e := Except.ok.inj (hhead.symm.trans he)
      by_cases hlast : last (n.place pos)
      · simp [placeAll, hlast]
      · have htake : (placeAll pos (n :: ns)).takeWhile (fun e => !last e) =
            n.place pos :: (placeAll (pos + n.bytes.length) ns).takeWhile (fun e => !last e) :=
          List.takeWhile_cons_of_pos (by simpa using hlast)
        rw [if_neg hlast, htake]
        exact hrest.trans (by simp)
    · next f hf =>
      rw [hhead] at hf
      cases hf

end Node

/-- The payload of an element is that of a node. -/
structure Stores (file : Bytes) (e : Element) (n : Node) : Prop where
  id_eq : e.id = n.id
  stop_eq : e.stop = e.dataStart + n.payload.length
  start_le : e.dataStart ≤ file.size
  holds : file.Holds e.dataStart n.payload

theorem Node.stores_place {file : Bytes} {pos : Nat} {n : Node} (h : file.Holds pos n.bytes) :
    Stores file (n.place pos) n where
  id_eq := rfl
  stop_eq := by simp [place, bytes, Nat.add_assoc]
  start_le := by
    have hlen : n.bytes.length ≤ file.size - pos := by simpa using h.length_le
    have hpos := n.length_bytes_pos
    have hbytes : n.bytes.length = n.head.length + n.payload.length := List.length_append
    simp only [place]
    omega
  holds := h.right

theorem Node.stores_placeAll {file : Bytes} {pos : Nat} {ns : List Node}
    (h : file.Holds pos (ns.flatMap Node.bytes)) :
    List.Forall₂ (Stores file) (placeAll pos ns) ns := by
  induction ns generalizing pos with
  | nil => exact .nil
  | cons n ns ih =>
    rw [List.flatMap_cons] at h
    exact .cons (stores_place h.left) (ih h.right)

/-- An id that no node has is the id of no element that stores one. -/
theorem forall_id_ne {file : Bytes} {id : Nat} {es : List Element} {ns : List Node}
    (h : List.Forall₂ (Stores file) es ns) (hne : ∀ n ∈ ns, n.id ≠ id) : ∀ e ∈ es, e.id ≠ id := by
  induction h with
  | nil => simp
  | @cons e n es ns he _ ih =>
    rw [List.forall_mem_cons] at hne ⊢
    exact ⟨he.id_eq ▸ hne.1, ih hne.2⟩

namespace Stores

variable {file : Bytes} {e : Element} {n : Node}

theorem size_eq (h : Stores file e n) : e.size = n.payload.length := by
  rw [Element.size, h.stop_eq, Nat.add_sub_cancel_left]

theorem childrenUntil_eq (h : Stores file e n) {ns : List Node} (hn : n.HasChildren ns)
    (last : Element → Bool) :
    childrenUntil file last e =
      ⟨(Node.placeAll e.dataStart ns).takeWhile (fun e => !last e), none⟩ := by
  have hstop : e.stop = e.dataStart + (ns.flatMap Node.bytes).length := by
    rw [h.stop_eq, hn]
  rw [childrenUntil, Node.childrenFrom_placeAll [] (hn ▸ h.holds) hstop,
    List.reverse_nil, List.nil_append]

/-- The children of an element are the nodes that its payload is made of. -/
theorem exists_children (h : Stores file e n) {ns : List Node} (hn : n.HasChildren ns) :
    ∃ es, children file e = ⟨es, none⟩ ∧ List.Forall₂ (Stores file) es ns := by
  refine ⟨Node.placeAll e.dataStart ns, ?_, Node.stores_placeAll (hn ▸ h.holds)⟩
  rw [children, h.childrenUntil_eq hn]
  simp

theorem payload_eq (h : Stores file e n) (hmax : n.payload.length ≤ maxPayload) :
    payload file e = .ok n.payload := by
  rw [payload, h.size_eq, if_neg (by omega), h.holds.slice? h.start_le]

theorem uint_eq (h : Stores file e n) (hmax : n.payload.length ≤ 8) :
    uint file e = .ok (Bytes.bigEndian n.payload) := by
  have hpayload := h.payload_eq (hmax.trans (by decide))
  rw [uint, h.size_eq, if_neg (by omega), hpayload]
  rfl

/-- A text is read back if it does not end in what could be padding. -/
theorem text_eq (h : Stores file e n) {s : String} (hs : n.payload = Text.Utf8.encode s.toList)
    (hmax : n.payload.length ≤ maxPayload)
    (hend : s.toList.getLast? ≠ some (Char.ofNat 0)) : text file e = .ok s := by
  rw [text, h.payload_eq hmax, hs]
  simp only [Except.map, Text.Utf8.decodeLossy_encode, Text.dropEndWhile_nul_eq_self hend,
    String.ofList_toList]

end Stores

end MediaTags.Matroska
