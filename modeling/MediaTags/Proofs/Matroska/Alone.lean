import MediaTags.Matroska.Info
import MediaTags.Proofs.Matroska.Tiling
import MediaTags.Proofs.Matroska.Vint

/-!
# Parts that are read on their own

A part of a file is read on its own as if it were all of the file. What comes out holds where the
part stands as well, whatever stands around it, unless the part on its own ends too soon.
-/

namespace MediaTags.Matroska

/-- The reading `x` of a part on its own settles the reading `y` where the part stands: both come
to the same but for `f`, unless the part ends too soon. -/
def Settles {α β : Type} (f : α → β) (x : Except Fault α) (y : Except Fault β) : Prop :=
  x = .error .endOfData ∨ y = x.map f

namespace Settles

variable {α β γ δ : Type} {f : α → β} {x : Except Fault α} {y : Except Fault β}

theorem ok (f : α → β) (a : α) : Settles f (.ok a) (.ok (f a)) := .inr rfl

theorem error (f : α → β) (fault : Fault) : Settles f (.error fault) (.error fault) := .inr rfl

theorem bind {g : γ → δ} {k : α → Except Fault γ} {k' : β → Except Fault δ} (h : Settles f x y)
    (hk : ∀ a, Settles g (k a) (k' (f a))) : Settles g (x >>= k) (y >>= k') := by
  obtain rfl | rfl := h
  · exact .inl rfl
  · cases x with
    | error fault => exact error g fault
    | ok a => exact hk a

theorem map {g : γ → δ} {k : α → γ} {k' : β → δ} (h : Settles f x y)
    (hk : ∀ a, k' (f a) = g (k a)) : Settles g (x.map k) (y.map k') := by
  obtain rfl | rfl := h
  · exact .inl rfl
  · cases x with
    | error fault => exact error g fault
    | ok a => exact .inr (congrArg Except.ok (hk a))

theorem eq {y : Except Fault α} (h : Settles id x y) (hx : x ≠ .error .endOfData) : y = x := by
  obtain rfl | rfl := h
  · exact absurd rfl hx
  · cases x <;> rfl

variable {ι κ σ : Type} {g : ι → κ}

theorem foldlM {step : σ → ι → Except Fault σ} {step' : σ → κ → Except Fault σ}
    (h : ∀ s i, Settles id (step s i) (step' s (g i))) (is : List ι) (s : σ) :
    Settles id (is.foldlM step s) ((is.map g).foldlM step' s) := by
  induction is generalizing s with
  | nil => exact ok id s
  | cons i is ih =>
    rw [List.map_cons, List.foldlM_cons, List.foldlM_cons]
    exact (h s i).bind fun s => ih s

theorem mapM {read : ι → Except Fault α} {read' : κ → Except Fault β}
    (h : ∀ i, Settles f (read i) (read' (g i))) (is : List ι) :
    Settles (List.map f) (is.mapM read) ((is.map g).mapM read') := by
  induction is with
  | nil => exact ok (List.map f) []
  | cons i is ih =>
    rw [List.map_cons, List.mapM_cons, List.mapM_cons]
    exact (h i).bind fun a => ih.bind fun as => ok (List.map f) (a :: as)

end Settles

/-! ## Headers -/

/-- Bytes that were read from the front, when more follow. -/
def followedBy (more : List UInt8) {α : Type} : α × List UInt8 → α × List UInt8
  | (a, rest) => (a, rest ++ more)

theorem settles_takeBytes (value count : Nat) (bs more : List UInt8) :
    Settles (followedBy more) (takeBytes value count bs) (takeBytes value count (bs ++ more)) := by
  rw [takeBytes_eq, takeBytes_eq]
  by_cases hcount : count ≤ bs.length
  · have hmore : count ≤ (bs ++ more).length := by rw [List.length_append]; omega
    rw [if_pos hcount, if_pos hmore, List.take_append_of_le_length hcount,
      List.drop_append_of_le_length hcount]
    exact .ok _ _
  · rw [if_neg hcount]
    exact .inl rfl

theorem settles_readId (bs more : List UInt8) :
    Settles (followedBy more) (readId bs) (readId (bs ++ more)) := by
  cases bs with
  | nil => exact .inl rfl
  | cons b bs =>
    rw [List.cons_append, readId, readId]
    split
    · exact .error _ _
    · exact settles_takeBytes ..

theorem settles_readSize (bs more : List UInt8) :
    Settles (followedBy more) (readSize bs) (readSize (bs ++ more)) := by
  cases bs with
  | nil => exact .inl rfl
  | cons b bs =>
    rw [List.cons_append, readSize, readSize]
    dsimp only
    split
    · exact .error _ _
    · exact (settles_takeBytes ..).map fun _ => rfl

namespace Element

/-- An element of a part, where the part stands `d` bytes into the file. -/
def shift (d : Nat) (e : Element) : Element := ⟨e.id, d + e.dataStart, d + e.stop⟩

@[simp] theorem id_shift (d : Nat) (e : Element) : (e.shift d).id = e.id := rfl

@[simp] theorem size_shift (d : Nat) (e : Element) : (e.shift d).size = e.size :=
  Nat.add_sub_add_left ..

end Element

open Element (shift)

/-- The bytes of `part` stand in a file from a position on. -/
structure PartAt (file : Bytes) (d : Nat) (part : Bytes) : Prop where
  start_le : d ≤ file.size
  holds : file.Holds d part.toList

section Part

variable {part file : Bytes} {d : Nat}

theorem isPrefix_window (h : PartAt file d part) (pos count : Nat) :
    part.window pos count <+: file.window (d + pos) count := by
  rw [Bytes.window_eq, Bytes.window_eq, ← List.drop_drop]
  exact (h.holds.drop pos).take count

theorem settles_header (h : PartAt file d part) (pos parentStop : Nat) :
    Settles (shift d) (header part pos parentStop) (header file (d + pos) (d + parentStop)) := by
  obtain ⟨more, hmore⟩ := isPrefix_window h pos headerWidth
  rw [header, header, ← hmore]
  dsimp only
  generalize part.window pos headerWidth = bs
  obtain hend | hid := settles_readId bs more
  · exact .inl (by rw [hend])
  rw [hid]
  cases readId bs with
  | error fault => exact .error _ fault
  | ok r =>
    obtain ⟨id, afterId⟩ := r
    obtain hend | hsize := settles_readSize afterId more
    · exact .inl (by simp only [hend])
    dsimp only [Except.map, followedBy]
    rw [hsize]
    cases readSize afterId with
    | error fault => exact .error _ fault
    | ok r =>
      obtain ⟨size, rest⟩ := r
      have hstart : d + pos + ((bs ++ more).length - (rest ++ more).length)
          = d + (pos + (bs.length - rest.length)) := by
        simp only [List.length_append]
        omega
      dsimp only [Except.map, followedBy]
      rw [hstart]
      cases size with
      | none => exact .ok (shift d) _
      | some n =>
        generalize pos + (bs.length - rest.length) = start
        by_cases hfits : start + n ≤ parentStop
        · have hfits' : d + start + n ≤ d + parentStop := by omega
          dsimp only
          rw [if_pos hfits, if_pos hfits', Nat.add_assoc]
          exact .ok (shift d) _
        · have hfits' : ¬ d + start + n ≤ d + parentStop := by omega
          dsimp only
          rw [if_neg hfits, if_neg hfits']
          exact .error _ _

/-! ## Children -/

/-- What was listed before stays in front. -/
theorem reverse_prefix_childrenFrom (file : Bytes) (last : Element → Bool) (stop : Nat)
    (done : List Element) (pos : Nat) :
    done.reverse <+: (childrenFrom file last stop done pos).elements := by
  rw [childrenFrom_eq_append]
  exact List.prefix_append ..

namespace Children

/-- The children of a part, where the part stands `d` bytes into the file. -/
def shift (d : Nat) (c : Children) : Children := ⟨c.elements.map (Element.shift d), c.fault⟩

/-- What `c` lists for a part on its own is listed by `c'` where the part stands, which may go on
behind the end of the part. -/
def Extends (d : Nat) (c c' : Children) : Prop :=
  c' = c.shift d ∨
    c.fault = some .endOfData ∧ c.elements.map (Element.shift d) <+: c'.elements

/-- A value read from the children stands only if nothing is wrong with them. -/
def checked {α : Type} (c : Children) (value : α) : Except Fault α :=
  match c.fault with
  | some f => .error f
  | none => .ok value

/-- A reading of the listed elements, which fails for good where it fails, settles the reading of
all children. -/
theorem Extends.settles {α β : Type} {f : α → β} {c c' : Children} (h : Extends d c c')
    {read : List Element → Except Fault α} {read' : List Element → Except Fault β}
    (hread : Settles f (read c.elements) (read' (c.elements.map (Element.shift d))))
    (hfails : ∀ es more fault, read' es = .error fault → read' (es ++ more) = .error fault) :
    Settles f (read c.elements >>= c.checked) (read' c'.elements >>= c'.checked) := by
  obtain rfl | ⟨hend, more, hmore⟩ := h
  · refine hread.bind fun a => ?_
    unfold checked shift
    cases c.fault with
    | none => exact .ok f a
    | some fault => exact .error f fault
  · cases hc : read c.elements with
    | ok a =>
      refine .inl ?_
      simp only [bind, Except.bind, checked, hend]
    | error fault =>
      rw [hc] at hread
      obtain hfault | hread := hread
      · exact .inl (by rw [hfault]; rfl)
      · rw [← hmore, hfails _ more fault hread]
        exact .error f fault

variable {c c' : Children}

theorem Extends.foldlM {σ : Type} (h : Extends d c c')
    {step step' : σ → Element → Except Fault σ}
    (hstep : ∀ s e, Settles id (step s e) (step' s (e.shift d))) (s : σ) :
    Settles id (c.foldlM step s) (c'.foldlM step' s) := by
  refine h.settles (Settles.foldlM hstep c.elements s) fun es more fault hfault => ?_
  rw [List.foldlM_append, hfault]
  rfl

theorem Extends.mapM {α β : Type} {f : α → β} (h : Extends d c c')
    {read : Element → Except Fault α} {read' : Element → Except Fault β}
    (hread : ∀ e, Settles f (read e) (read' (e.shift d))) :
    Settles (List.map f) (c.mapM read) (c'.mapM read') := by
  refine h.settles (Settles.mapM hread c.elements) fun es more fault hfault => ?_
  rw [List.mapM_append, hfault]
  rfl

theorem Extends.readAll {α β : Type} {f : α → β} (h : Extends d c c') (wanted : Nat)
    {read : Element → Except Fault α} {read' : Element → Except Fault β}
    (hread : ∀ e, Settles f (read e) (read' (e.shift d))) :
    Settles (List.map f) (c.readAll wanted read) (c'.readAll wanted read') := by
  have hif (e : Element) :
      Settles (Option.map f) (readIf wanted read e) (readIf wanted read' (e.shift d)) := by
    rw [readIf, readIf, Element.id_shift]
    split
    · exact (hread e).map fun _ => rfl
    · exact .ok _ _
  refine (h.mapM hif).bind fun vs => .inr ?_
  simp [pure, Except.pure, Except.map, List.map_filterMap, List.filterMap_map]

end Children

/-- The children of an element of a part, where the part stands. -/
theorem childrenFrom_extends (h : PartAt file d part) (stop : Nat) (done : List Element)
    (pos : Nat) :
    (childrenFrom part (fun _ => false) stop done pos).Extends d
      (childrenFrom file (fun _ => false) (d + stop) (done.map (shift d)) (d + pos)) := by
  induction hn : stop - pos using Nat.strong_induction_on generalizing done pos with
  | _ n ih =>
    by_cases hpos : pos < stop
    · have hpos' : d + pos < d + stop := by omega
      have hheader := settles_header h pos stop
      cases hpart : header part pos stop with
      | ok e =>
        rw [hpart] at hheader
        obtain hend | hfile := hheader
        · cases hend
        have hnext := (header_bounds hpart).2.1 hpos
        have ih := ih (stop - e.stop) (by omega) (e :: done) e.stop rfl
        rw [childrenFrom_of_ok done hpos hpart, childrenFrom_of_ok _ hpos' hfile]
        exact ih
      | error fault =>
        rw [hpart] at hheader
        rw [childrenFrom_of_error done hpos hpart]
        obtain hend | hfile := hheader
        · cases hend
          refine .inr ⟨rfl, ?_⟩
          rw [List.map_reverse]
          exact reverse_prefix_childrenFrom ..
        · rw [childrenFrom_of_error _ hpos' hfile, ← List.map_reverse]
          exact .inl rfl
    · rw [childrenFrom_of_le done (by omega), childrenFrom_of_le _ (by omega), ← List.map_reverse]
      exact .inl rfl

theorem children_extends (h : PartAt file d part) (e : Element) :
    (children part e).Extends d (children file (e.shift d)) :=
  childrenFrom_extends h e.stop [] e.dataStart

/-! ## Values -/

theorem slice?_eq_window {start count : Nat} (h : start + count ≤ part.size) :
    part.slice? start count = some (part.window start count) :=
  if_pos h

theorem settles_payload (h : PartAt file d part) (e : Element) :
    Settles id (payload part e) (payload file (e.shift d)) := by
  rw [payload, payload, Element.size_shift]
  split
  · exact .error _ _
  · by_cases hsize : e.dataStart + e.size ≤ part.size
    · have hwindow : part.window e.dataStart e.size = file.window (e.shift d).dataStart e.size := by
        refine (isPrefix_window h e.dataStart e.size).eq_of_length_le ?_
        rw [Bytes.length_window, Bytes.length_window]
        omega
      have hfits : (e.shift d).dataStart + e.size ≤ file.size := by
        have hlength : part.size ≤ file.size - d := by simpa using h.holds.length_le
        have hstart := h.start_le
        simp only [shift]
        omega
      rw [slice?_eq_window hsize, slice?_eq_window hfits, hwindow]
      exact .ok id _
    · refine .inl ?_
      rw [Bytes.slice?, if_neg hsize]

theorem settles_uint (h : PartAt file d part) (e : Element) :
    Settles id (uint part e) (uint file (e.shift d)) := by
  rw [uint, uint, Element.size_shift]
  split
  · exact .error _ _
  · exact (settles_payload h e).map fun _ => rfl

theorem settles_float (h : PartAt file d part) (e : Element) :
    Settles id (float part e) (float file (e.shift d)) := by
  refine (settles_payload h e).bind fun bs => ?_
  dsimp only [id]
  split
  · exact .ok id _
  · exact .ok id _
  · exact .ok id _
  · exact .error id _

theorem settles_text (h : PartAt file d part) (e : Element) :
    Settles id (text part e) (text file (e.shift d)) :=
  (settles_payload h e).map fun _ => rfl

/-! ## Sections -/

theorem settles_readDurationPart (h : PartAt file d part) (s : Nat × Option Float) (e : Element) :
    Settles id (readDurationPart part s e) (readDurationPart file s (e.shift d)) := by
  obtain ⟨scale, duration⟩ := s
  unfold readDurationPart
  dsimp only [Element.id_shift]
  split
  · exact (settles_uint h e).map fun _ => rfl
  · exact (settles_float h e).map fun _ => rfl
  · exact .ok id _

theorem settles_readDuration (h : PartAt file d part) (e : Element) :
    Settles id (readDuration part e) (readDuration file (e.shift d)) :=
  ((children_extends h e).foldlM (settles_readDurationPart h) _).bind fun _ => .inr rfl

theorem settles_readAudio (h : PartAt file d part) (t : Track) (e : Element) :
    Settles id (Track.readAudio part t e) (Track.readAudio file t (e.shift d)) := by
  unfold Track.readAudio
  dsimp only [Element.id_shift]
  split
  · exact (settles_float h e).map fun _ => rfl
  · exact (settles_uint h e).map fun _ => rfl
  · exact (settles_uint h e).map fun _ => rfl
  · exact .ok id t

theorem settles_readTrackChild (h : PartAt file d part) (t : Track) (e : Element) :
    Settles id (Track.readChild part t e) (Track.readChild file t (e.shift d)) := by
  unfold Track.readChild
  dsimp only [Element.id_shift]
  split
  · exact (settles_uint h e).map fun _ => rfl
  · exact (settles_uint h e).map fun _ => rfl
  · exact (settles_uint h e).map fun _ => rfl
  · exact (settles_text h e).map fun _ => rfl
  · exact (settles_payload h e).map fun _ => rfl
  · exact (settles_text h e).map fun _ => rfl
  · exact (children_extends h e).foldlM (settles_readAudio h) t
  · exact .ok id t

theorem settles_readTrack (h : PartAt file d part) (e : Element) :
    Settles id (Track.read part e) (Track.read file (e.shift d)) :=
  (children_extends h e).foldlM (settles_readTrackChild h) {}

theorem settles_readTarget (h : PartAt file d part) (e : Element) :
    Settles id (TargetPart.read part e) (TargetPart.read file (e.shift d)) := by
  unfold TargetPart.read
  dsimp only [Element.id_shift]
  split
  · exact (settles_text h e).map fun _ => rfl
  · exact (settles_uint h e).map fun _ => rfl
  · exact (settles_uint h e).map fun _ => rfl
  · exact (settles_uint h e).map fun _ => rfl
  · exact (settles_uint h e).map fun _ => rfl
  · exact .ok id _

theorem settles_readSimplePart (h : PartAt file d part) (s : Option String × Option String)
    (e : Element) :
    Settles id (TagElement.readSimplePart part s e)
      (TagElement.readSimplePart file s (e.shift d)) := by
  obtain ⟨name, value⟩ := s
  unfold TagElement.readSimplePart
  dsimp only [Element.id_shift]
  split
  · exact (settles_text h e).map fun _ => rfl
  · exact (settles_text h e).map fun _ => rfl
  · exact .ok id _

theorem settles_readSimple (h : PartAt file d part) (e : Element) :
    Settles id (TagElement.readSimple part e) (TagElement.readSimple file (e.shift d)) := by
  refine ((children_extends h e).foldlM (settles_readSimplePart h) _).bind fun s => ?_
  obtain ⟨_ | name, _ | value⟩ := s <;> exact .ok id _

theorem settles_readPart (h : PartAt file d part) (e : Element) :
    Settles id (TagElement.readPart part e) (TagElement.readPart file (e.shift d)) := by
  unfold TagElement.readPart
  dsimp only [Element.id_shift]
  split
  · exact ((children_extends h e).mapM (settles_readTarget h)).map fun ps => by simp
  · exact (settles_readSimple h e).map fun _ => rfl
  · exact .ok id _

theorem settles_readTag (h : PartAt file d part) (e : Element) :
    Settles id (TagElement.read part e) (TagElement.read file (e.shift d)) :=
  ((children_extends h e).mapM (settles_readPart h)).map fun ps => by simp

theorem settles_readDisplay (h : PartAt file d part) (a : Atom) (e : Element) :
    Settles id (Atom.readDisplay part a e) (Atom.readDisplay file a (e.shift d)) := by
  unfold Atom.readDisplay
  rw [Element.id_shift]
  split
  · exact (settles_text h e).map fun _ => rfl
  · exact .ok id a

theorem settles_readAtomChild (h : PartAt file d part) (a : Atom) (e : Element) :
    Settles id (Atom.readChild part a e) (Atom.readChild file a (e.shift d)) := by
  unfold Atom.readChild
  dsimp only [Element.id_shift]
  split
  · exact (settles_uint h e).map fun _ => rfl
  · exact (settles_uint h e).map fun _ => rfl
  · exact (settles_uint h e).map fun _ => rfl
  · exact (settles_uint h e).map fun _ => rfl
  · exact (settles_uint h e).map fun _ => rfl
  · split
    · exact (children_extends h e).foldlM (settles_readDisplay h) a
    · exact .ok id a
  · exact .ok id a

theorem settles_readAtom (h : PartAt file d part) (e : Element) :
    Settles id (Atom.read part e) (Atom.read file (e.shift d)) :=
  (children_extends h e).foldlM (settles_readAtomChild h) {}

/-- An edition of a part, where the part stands. -/
def Edition.shift (d : Nat) (e : Edition) : Edition := ⟨e.element.shift d, e.isDefault⟩

theorem settles_readFlag (h : PartAt file d part) (isDefault : Bool) (e : Element) :
    Settles id (Edition.readFlag part isDefault e)
      (Edition.readFlag file isDefault (e.shift d)) := by
  unfold Edition.readFlag
  rw [Element.id_shift]
  split
  · exact (settles_uint h e).map fun _ => rfl
  · exact .ok id _

theorem settles_readEdition (h : PartAt file d part) (e : Element) :
    Settles (Edition.shift d) (Edition.read part e) (Edition.read file (e.shift d)) :=
  ((children_extends h e).foldlM (settles_readFlag h) false).map fun _ => rfl

theorem choose?_map_shift (editions : List Edition) :
    Edition.choose? (editions.map (Edition.shift d)) =
      (Edition.choose? editions).map (Edition.shift d) := by
  have hdefault : Edition.isDefault ∘ Edition.shift d = Edition.isDefault := rfl
  rw [Edition.choose?, Edition.choose?, List.find?_map, hdefault, List.head?_map]
  cases editions.find? Edition.isDefault <;> rfl

theorem settles_readAtoms (h : PartAt file d part) (e : Element) :
    Settles id (Edition.readAtoms part e) (Edition.readAtoms file (e.shift d)) := by
  refine ((children_extends h e).readAll _ (settles_readEdition h)).bind fun editions => ?_
  rw [choose?_map_shift]
  cases Edition.choose? editions with
  | none => exact .ok id []
  | some edition =>
    have hatoms := (children_extends h edition.element).readAll Id.chapterAtom (settles_readAtom h)
    refine hatoms.bind fun atoms => ?_
    rw [List.map_id]
    exact .ok id _

end Part

end MediaTags.Matroska
