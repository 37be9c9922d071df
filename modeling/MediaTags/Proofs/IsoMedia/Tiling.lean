import MediaTags.Proofs.IsoMedia.Checked
import MediaTags.Proofs.Tiling

/-!
# Atoms tile their range

Whatever bytes a range holds, its atoms lie end to end in it, up to one that cannot be read or to
what is too short for another header. Atoms that were written end to end, with sizes of any form,
are listed as they were written.
-/

namespace MediaTags.IsoMedia

/-- An atom is read at `pos`, and both its header and its payload end by `stop`. -/
structure StartsAt (file : Bytes) (stop pos : Nat) (a : Atom) : Prop where
  read_eq : Atom.read file pos stop = .ok a
  header_le : pos + 8 ≤ a.dataStart
  dataStart_le : a.dataStart ≤ a.stop
  stop_le : a.stop ≤ stop

/-- What can come of listing the atoms from `pos` to `stop`. -/
inductive Listing (file : Bytes) (stop pos : Nat) : Except Fault (List Atom) → Prop
  /-- Atoms lie end to end, and fewer bytes are left over than a header has. -/
  | whole {as : List Atom} {last : Nat} : Tiles (StartsAt file stop) Atom.stop pos as last →
      last ≤ stop → stop < last + 8 → Listing file stop pos (.ok as)
  /-- Behind atoms that lie end to end there is one that cannot be read. -/
  | faulty {before : List Atom} {last : Nat} {f : Fault} :
      Tiles (StartsAt file stop) Atom.stop pos before last → last + 8 ≤ stop →
      Atom.read file last stop = .error f → Listing file stop pos (.error f)

section Listing

variable {file : Bytes} {stop pos : Nat}

theorem startsAt_of_read {a : Atom} (h : Atom.read file pos stop = .ok a) :
    StartsAt file stop pos a :=
  have hbounds := Atom.read_bounds h
  ⟨h, hbounds.1, hbounds.2.1, hbounds.2.2⟩

/-- One more atom in front of a listing. -/
theorem Listing.cons {a : Atom} {r : Except Fault (List Atom)} (ha : StartsAt file stop pos a)
    (h : Listing file stop a.stop r) : Listing file stop pos (r.map (a :: ·)) := by
  cases h with
  | whole htiles hlast hrest => exact .whole (.cons ha htiles) hlast hrest
  | faulty htiles hlast hfault => exact .faulty (.cons ha htiles) hlast hfault

/-- The loop lists what follows, behind the atoms that were listed before. -/
theorem exists_listing {pos : Nat} (done : List Atom) (hpos : pos ≤ stop) :
    ∃ r, Listing file stop pos r ∧ atomsFrom file stop done pos = r.map (done.reverse ++ ·) := by
  rw [Checked.plain_atomsFrom_eq]
  split
  · next hroom =>
    cases hread : Atom.read file pos stop with
    | error f => exact ⟨.error f, .faulty (.nil pos) hroom hread, rfl⟩
    | ok a =>
      have ha := startsAt_of_read hread
      have hdecreases : stop - a.stop < stop - pos := by
        have := ha.header_le
        have := ha.dataStart_le
        omega
      obtain ⟨r, hr, hrest⟩ := exists_listing (a :: done) ha.stop_le
      refine ⟨r.map (a :: ·), hr.cons ha, ?_⟩
      change atomsFrom file stop (a :: done) a.stop = _
      rw [hrest]
      cases r <;> simp [Except.map]
  · next hroom => exact ⟨.ok [], .whole (.nil pos) hpos (by omega), by simp [Except.map]⟩
termination_by stop - pos

theorem listing_atoms (hpos : pos ≤ stop) : Listing file stop pos (atoms file pos stop) := by
  obtain ⟨r, hr, hatoms⟩ := exists_listing [] hpos
  have hself : r.map (([] : List Atom).reverse ++ ·) = r := by cases r <;> rfl
  rw [atoms, hatoms, hself]
  exact hr

end Listing

/-- Only the last of the nodes may be without a size. -/
theorem Node.lays_of_dropLast {ns : List Node} (h : ∀ n ∈ ns.dropLast, n.form ≠ .toEnd) :
    Lays (ns.flatMap bytes) ns := by
  induction ns with
  | nil => exact .nil (by decide)
  | cons n ns ih =>
    cases ns with
    | nil => exact .cons (fun _ => rfl) (.nil (by decide))
    | cons m ns =>
      rw [List.dropLast_cons_cons, List.forall_mem_cons] at h
      exact .cons (fun hform => absurd hform h.1) (ih h.2)

/-- Listing the atoms of any range comes to an end. They tile the range, with too few bytes left
over for another header, or the first one is reported that cannot be read; no atom ends before its
payload starts. Nodes written end to end, of which only the last may be without a size, are listed
as the atoms that they are. -/
theorem atoms_tile (file : Bytes) (start stop : Nat) (h : start ≤ stop) :
    Listing file stop start (atoms file start stop) ∧
    (∀ as, atoms file start stop = .ok as → 8 * as.length ≤ stop - start ∧
      ∀ a ∈ as, Checked.sub a.stop a.dataStart = .ok (a.stop - a.dataStart)) ∧
    ∀ ns, (∀ n ∈ ns.dropLast, n.form ≠ SizeForm.toEnd) →
      file.Holds start (ns.flatMap Node.bytes) → stop = start + (ns.flatMap Node.bytes).length →
      atoms file start stop = .ok (Node.placeAll start ns) ∧
        List.Forall₂ (Stores file) (Node.placeAll start ns) ns := by
  refine ⟨listing_atoms h, fun as has => ?_, fun ns hns hholds hstop => ?_⟩
  · have hlisting : Listing file stop start (atoms file start stop) := listing_atoms h
    rw [has] at hlisting
    cases hlisting with
    | whole htiles hlast _ =>
      have hwidth (pos : Nat) (a : Atom) (ha : StartsAt file stop pos a) : pos + 8 ≤ a.stop :=
        ha.header_le.trans ha.dataStart_le
      have hlength := htiles.add_mul_length_le hwidth
      refine ⟨by omega, fun a ha => ?_⟩
      obtain ⟨pos, -, hstarts⟩ := htiles.exists_starts
        (fun pos a ha => (Nat.le_add_right pos 8).trans (hwidth pos a ha)) ha
      exact if_pos hstarts.dataStart_le
  · have hlays := Node.lays_of_dropLast hns
    exact ⟨Node.atomsFrom_placeAll hlays [] hholds hstop, Node.stores_placeAll hlays hholds⟩

namespace ThreeForms

def node (kind : String) (form : SizeForm) (payload : List UInt8)
    (h : (kindOf kind).length = 4 ∧ form.Fits payload.length := by decide +kernel) : Node :=
  ⟨kindOf kind, form, payload, h.1, h.2⟩

/-- Nodes with a size in four bytes, in eight bytes and without one. -/
def nodes : List Node :=
  [node "free" .short [1, 2], node "moov" .long [], node "mdat" .toEnd [3]]

/-- The nodes stand behind two other bytes. -/
def file : Bytes := ([9, 9] ++ nodes.flatMap Node.bytes).toArray

def listed : List Atom :=
  [⟨kindOf "free", 10, 12⟩, ⟨kindOf "moov", 28, 28⟩, ⟨kindOf "mdat", 36, 37⟩]

end ThreeForms

open ThreeForms in
theorem atoms_tile_threeForms :
    2 ≤ file.size ∧ (∀ n ∈ nodes.dropLast, n.form ≠ SizeForm.toEnd) ∧
    file.Holds 2 (nodes.flatMap Node.bytes) ∧ file.size = 2 + (nodes.flatMap Node.bytes).length ∧
    atoms file 2 file.size = .ok listed ∧ List.Forall₂ (Stores file) listed nodes ∧
    Listing file file.size 2 (.ok listed) := by
  have hstart : 2 ≤ file.size := by decide +kernel
  have hforms : ∀ n ∈ nodes.dropLast, n.form ≠ SizeForm.toEnd := by decide +kernel
  have hholds : file.Holds 2 (nodes.flatMap Node.bytes) := by decide +kernel
  have hstop : file.size = 2 + (nodes.flatMap Node.bytes).length := by decide +kernel
  have hplace : Node.placeAll 2 nodes = listed := by decide +kernel
  obtain ⟨hlisting, -, hnodes⟩ := atoms_tile file 2 file.size hstart
  obtain ⟨hatoms, hstores⟩ := hnodes nodes hforms hholds hstop
  rw [hplace] at hatoms hstores
  rw [hatoms] at hlisting
  exact ⟨hstart, hforms, hholds, hstop, hatoms, hstores, hlisting⟩

end MediaTags.IsoMedia
