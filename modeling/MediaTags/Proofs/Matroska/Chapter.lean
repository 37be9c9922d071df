import MediaTags.Matroska.Chapter
import MediaTags.Proofs.Matroska.Track

/-!
# What the children of a chapter atom say

Each child of an atom feeds one field of it. The first title counts, so a display feeds the title
only while there is none.
-/

namespace MediaTags.Matroska

namespace Atom

variable {file : Bytes} {a a' : Atom} {e : Element}

/-- What one child of a display does to an atom. -/
structure DisplayStep (file : Bytes) (e : Element) (a a' : Atom) : Prop where
  title : Feeds Id.chapString (HasText file) (fun t s => t <|> some s) e a.title a'.title
  frame : a' = { a with title := a'.title }

theorem readDisplay_step (h : readDisplay file a e = .ok a') : DisplayStep file e a a' := by
  unfold readDisplay at h
  split at h
  · next hid =>
    obtain ⟨s, hs, rfl⟩ := map_eq_ok.1 h
    constructor <;> simp [feeds_iff, HasText, hid, hs]
  · next hid =>
    cases h
    refine ⟨feeds_iff.2 ⟨fun heq s _ => ?_, fun _ => rfl⟩, rfl⟩
    cases htitle : a.title with
    | none => exact absurd ⟨heq, htitle⟩ hid
    | some t => rfl

/-- The title that a display gives, if it gives one. -/
def HasTitle (file : Bytes) (e : Element) (title : Option String) : Prop :=
  ∀ a, (children file e).foldlM (readDisplay file) a = .ok { a with title := a.title <|> title }

theorem frame_of_foldlM_readDisplay {es : List Element}
    (h : es.foldlM (readDisplay file) a = .ok a') : a' = { a with title := a'.title } := by
  refine foldlM_rel (P := fun a a' => a' = { a with title := a'.title }) (fun _ => rfl) ?_
    (fun _ _ _ h => (readDisplay_step h).frame) h
  intro s m s' hm hs
  rw [hs, hm]

/-- What one child of an atom does to it. -/
structure ChildStep (file : Bytes) (e : Element) (a a' : Atom) : Prop where
  uid : Feeds Id.chapterUid (HasUint file) (fun _ n => n) e a.uid a'.uid
  start : Feeds Id.chapterTimeStart (HasUint file) (fun _ n => n) e a.start a'.start
  stop : Feeds Id.chapterTimeEnd (HasUint file) (fun _ n => some n) e a.stop a'.stop
  hidden : Feeds Id.chapterFlagHidden (HasUint file) (fun _ n => n != 0) e a.hidden a'.hidden
  enabled : Feeds Id.chapterFlagEnabled (HasUint file) (fun _ n => n != 0) e a.enabled a'.enabled
  title : Feeds Id.chapterDisplay (HasTitle file) (fun t new => t <|> new) e a.title a'.title

theorem readChild_step (h : readChild file a e = .ok a') : ChildStep file e a a' := by
  unfold readChild at h
  split at h
  case h_6 hid =>
    have htitle (t : Option String) (ht : HasTitle file e t) : a'.title = (a.title <|> t) := by
      split at h
      · rw [ht a, Except.ok.injEq] at h
        rw [← h]
      · cases h
        cases hsome : a.title <;> simp_all
    have hframe : a' = { a with title := a'.title } := by
      split at h
      · exact frame_of_foldlM_readDisplay (Children.foldlM_eq_ok.1 h).2
      · cases h
        rfl
    -- A display gives a title and nothing else.
    constructor
    case title => exact .of_eq hid htitle
    all_goals
      refine .of_ne (by rw [hid]; decide) ?_
      rw [hframe]
  case h_7 =>
    cases h
    constructor <;> simp_all [feeds_iff, Id.chapterUid, Id.chapterTimeStart, Id.chapterTimeEnd,
      Id.chapterFlagHidden, Id.chapterFlagEnabled, Id.chapterDisplay]
  all_goals
    next hid =>
    obtain ⟨n, hn, rfl⟩ := map_eq_ok.1 h
    constructor <;> simp +decide [feeds_iff, HasUint, hid, hn]

theorem keepFrom_eq_append {atoms : List Atom} (husable : ∀ a ∈ atoms, a.isUsable)
    (hincreasing : atoms.Pairwise (·.start < ·.start)) {kept : List Atom}
    (hkept : ∀ k ∈ kept.head?, ∀ a ∈ atoms, k.start < a.start) :
    keepFrom kept atoms = kept.reverse ++ atoms := by
  induction atoms generalizing kept with
  | nil => simp [keepFrom]
  | cons a atoms ih =>
    obtain ⟨hfirst, hrest⟩ := List.pairwise_cons.1 hincreasing
    have hlater : kept.head?.all (·.start < a.start) := by
      rw [Option.all_eq_true]
      exact fun k hk => decide_eq_true (hkept k hk a (by simp))
    rw [keepFrom, husable a (by simp), hlater, Bool.and_self, if_pos rfl,
      ih (fun a ha => husable a (by simp [ha])) hrest (by simpa using hfirst)]
    simp

/-- Usable atoms that start one after the other are all kept. -/
theorem keep_eq_self {atoms : List Atom} (husable : ∀ a ∈ atoms, a.isUsable)
    (hincreasing : atoms.Pairwise (·.start < ·.start)) : keep atoms = atoms :=
  keepFrom_eq_append husable hincreasing (by simp)

end Atom

/-- The atoms that are read where an edition is the only one. -/
def HasAtoms (file : Bytes) (e : Element) (atoms : List Atom) : Prop :=
  ∃ edition, Edition.read file e = .ok edition ∧
    (children file edition.element).readAll Id.chapterAtom (Atom.read file) = .ok atoms

end MediaTags.Matroska
