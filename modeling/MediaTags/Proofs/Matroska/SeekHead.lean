import MediaTags.Proofs.Matroska.RoundTrip

/-!
# Seek heads

A seek entry gives the id of a section and where it stands in the segment. The entries of a seek
head are read back as they were written. An entry leads to the section that stands where it says;
one that says something else leads nowhere.
-/

namespace MediaTags.Matroska

/-- The sections that are read. -/
def sectionIds : List Nat := [Id.info, Id.tracks, Id.chapters, Id.tags]

/-! ## Entries as they are written -/

namespace Node

/-- An id of at most four bytes. -/
def WritesId (n : Node) (id : Nat) : Prop :=
  n.payload.length ≤ 4 ∧ Bytes.bigEndian n.payload = id

instance (n : Node) (id : Nat) : Decidable (n.WritesId id) :=
  inferInstanceAs (Decidable (_ ∧ _))

structure ListsSeek (s : Seek) (ns : List Node) : Prop where
  id : Each Node.id Id.seekId WritesId ns [s.id]
  offset : Each Node.id Id.seekPosition WritesUint ns [s.offset]

def WritesSeek (n : Node) (s : Seek) : Prop := n.Contains (ListsSeek s)

def WritesSeekHead (n : Node) (seeks : List Seek) : Prop :=
  n.Contains fun ns => Each id Id.seek WritesSeek ns seeks

end Node

/-- The id that an element holds. -/
def HasId (file : Bytes) (e : Element) (id : Nat) : Prop :=
  ∃ bs, payload file e = .ok bs ∧ bs.length ≤ 4 ∧ Bytes.bigEndian bs = id

namespace Seek

variable {file : Bytes} {e : Element} {s s' : Option Nat × Option Nat}

theorem readPart_step (h : readPart file s e = .ok s') :
    Feeds Id.seekId (HasId file) (fun _ id => some id) e s.1 s'.1 ∧
    Feeds Id.seekPosition (HasUint file) (fun _ n => some n) e s.2 s'.2 := by
  obtain ⟨id, offset⟩ := s
  simp only [readPart] at h
  rw [feeds_iff, feeds_iff]
  split at h
  · next hid =>
    obtain ⟨bs, hbs, rfl⟩ := map_eq_ok.1 h
    refine ⟨⟨fun _ v hv => ?_, fun hne => absurd hid hne⟩,
      ⟨fun heq => absurd (hid.symm.trans heq) (by decide), fun _ => rfl⟩⟩
    obtain ⟨bs', hbs', hlen, rfl⟩ := hv
    cases hbs.symm.trans hbs'
    exact if_pos hlen
  · next hid =>
    obtain ⟨n, hn, rfl⟩ := map_eq_ok.1 h
    refine ⟨⟨fun heq => absurd (hid.symm.trans heq) (by decide), fun _ => rfl⟩,
      ⟨fun _ v hv => ?_, fun hne => absurd hid hne⟩⟩
    cases hn.symm.trans hv
    rfl
  · next hid hposition =>
    cases h
    exact ⟨⟨fun heq => absurd heq hid, fun _ => rfl⟩,
      ⟨fun heq => absurd heq hposition, fun _ => rfl⟩⟩

theorem exists_readPart {es : List Element} {id offset : Nat}
    (hid : Each Element.id Id.seekId (HasId file) es [id])
    (hoffset : Each Element.id Id.seekPosition (HasUint file) es [offset]) :
    ∀ e ∈ es, ∀ s, ∃ s', readPart file s e = .ok s' := by
  rintro e he ⟨id, offset⟩
  dsimp only [readPart]
  split
  · next hid' =>
    obtain ⟨v, -, bs, hbs, -⟩ := hid.exists_of_mem he hid'
    exact ⟨_, map_eq_ok.2 ⟨bs, hbs, rfl⟩⟩
  · next hid' => exact exists_map_eq_ok hoffset he hid'
  · exact ⟨_, rfl⟩

end Seek

namespace Stores

variable {file : Bytes} {e : Element} {n : Node}

theorem hasId {id : Nat} (h : Stores file e n) (hw : n.WritesId id) : HasId file e id := by
  obtain ⟨hlen, rfl⟩ := hw
  exact ⟨_, h.payload_eq (hlen.trans (by decide)), hlen, rfl⟩

theorem readSeek {s : Seek} (h : Stores file e n) (hw : n.WritesSeek s) :
    Seek.read file e = .ok (some s) := by
  obtain ⟨es, ns, hes, hstored, hlists⟩ := h.contains hw
  have hid := hlists.id.stored hstored fun _ _ _ => hasId
  have hoffset := hlists.offset.stored hstored fun _ _ _ => hasUint
  obtain ⟨⟨id?, offset?⟩, hfold⟩ := exists_foldlM (Seek.exists_readPart hid hoffset) (none, none)
  have hfst : id? = some s.id :=
    get_foldlM Prod.fst (fun _ _ _ h => (Seek.readPart_step h).1) hid hfold
  have hsnd : offset? = some s.offset :=
    get_foldlM Prod.snd (fun _ _ _ h => (Seek.readPart_step h).2) hoffset hfold
  have hread : (children file e).foldlM (Seek.readPart file) (none, none)
      = .ok (some s.id, some s.offset) := by
    rw [foldlM_children hes hfold, hfst, hsnd]
  exact bind_eq_ok.2 ⟨_, hread, rfl⟩

theorem readSeekHead {seeks : List Seek} (h : Stores file e n) (hw : n.WritesSeekHead seeks) :
    Seek.readHead file e = .ok seeks := by
  obtain ⟨es, ns, hes, hstored, hlists⟩ := h.contains hw
  have heach : Each Element.id Id.seek (fun e v => Seek.read file e = .ok v) es (seeks.map some) :=
    Each.map_iff.2 (hlists.stored hstored fun _ _ _ => readSeek)
  rw [Seek.readHead, readAll_children hes heach]
  simp [Except.map]

end Stores

/-! ## What an entry leads to -/

namespace Seek

/-- The entry says where in the segment a node stands. -/
structure LeadsTo (file : Bytes) (segment : Element) (s : Seek) (n : Node) : Prop where
  id_eq : s.id = n.id
  holds : file.Holds (segment.dataStart + s.offset) n.bytes
  stop_le : segment.dataStart + s.offset + n.bytes.length ≤ segment.stop

/-- The entry says where something stands that is not there, or that no more is needed: it points
out of the segment, at an unreadable header or at an element with another id, it names a section
that was found in `front`, or it names no section at all. -/
inductive Stray (file : Bytes) (segment : Element) (front : List Node) (s : Seek) : Prop where
  | outside (h : segment.stop ≤ segment.dataStart + s.offset)
  | unreadable {fault : Fault}
      (h : header file (segment.dataStart + s.offset) segment.stop = .error fault)
  | mismatched {e : Element}
      (h : header file (segment.dataStart + s.offset) segment.stop = .ok e) (hid : e.id ≠ s.id)
  | settled {n : Node} (h : n ∈ front) (hid : n.id = s.id)
  | foreign (h : s.id ∉ sectionIds)

variable {file : Bytes} {segment : Element} {s : Seek} {n : Node} {front : List Node}

theorem LeadsTo.target?_eq (h : LeadsTo file segment s n) :
    target? file segment s = some (n.place (segment.dataStart + s.offset)) := by
  have hpos := n.length_bytes_pos
  have hstop := h.stop_le
  have hid : (n.place (segment.dataStart + s.offset)).id = s.id := h.id_eq.symm
  simp only [target?, Node.header_place h.holds hstop]
  rw [if_pos (by omega), if_pos hid]

theorem target?_eq_some {e : Element} : target? file segment s = some e ↔
    segment.dataStart + s.offset < segment.stop ∧
      header file (segment.dataStart + s.offset) segment.stop = .ok e ∧ e.id = s.id := by
  simp only [target?]
  split
  · next hpos => cases header file (segment.dataStart + s.offset) segment.stop <;> grind
  · next hpos => simp [hpos]

/-- A stray entry leads to no section that is not in front. -/
theorem Stray.target?_ne (h : Stray file segment front s) {e : Element}
    (hid : e.id ∈ sectionIds) (hfront : ∀ n ∈ front, n.id ≠ e.id) :
    target? file segment s ≠ some e := by
  intro htarget
  have hs := (target?_eq_some.1 htarget).2.2
  cases h with
  | outside hout =>
    simp only [target?] at htarget
    rw [if_neg (by omega)] at htarget
    cases htarget
  | unreadable hfault =>
    simp only [target?, hfault, ite_self] at htarget
    cases htarget
  | mismatched hother hne =>
    simp only [target?, hother, if_neg hne, ite_self] at htarget
    cases htarget
  | settled hn hsame => exact hfront _ hn (hsame.trans hs.symm)
  | foreign hforeign => exact hforeign (hs ▸ hid)

end Seek

end MediaTags.Matroska
