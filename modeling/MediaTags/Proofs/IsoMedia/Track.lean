import MediaTags.IsoMedia.Track
import MediaTags.Proofs.Fallible
import MediaTags.Proofs.IsoMedia.Node

/-!
# What the children of a track say

Each child of a track feeds some fields of it: its header the id, its references the tracks that
it refers to, and its media the time scale and the sample table.
-/

namespace MediaTags.IsoMedia.Track

/-- The number in a header, behind its times. -/
def HasNumber (file : Bytes) (a : Atom) (n : Nat) : Prop :=
  (a.payload file).map afterTimes = .ok n

/-- The first sample table among the children. -/
def HasTable (file : Bytes) (a : Atom) (table : Option Atom) : Prop :=
  (a.children file).map (List.find? (Atom.isKind "stbl")) = .ok table

/-- The tracks that one reference names. -/
def HasNumbers (file : Bytes) (a : Atom) (refs : List Nat) : Prop :=
  (a.payload file).map (fun bs => numbers 4 bs.length bs) = .ok refs

/-- The tracks that references name together. -/
def HasReferences (file : Bytes) (a : Atom) (refs : List Nat) : Prop :=
  ∀ t, (a.children file >>= fun as => as.foldlM (readReference file) t) =
    .ok { t with chapterRefs := t.chapterRefs ++ refs }

/-- A time scale and a sample table. -/
def HasMedia (file : Bytes) (a : Atom) (m : Nat × Option Atom) : Prop :=
  ∀ t, (a.children file >>= fun as => as.foldlM (readMedia file) t) =
    .ok { t with timescale := m.1, sampleTable := m.2 }

variable {file : Bytes} {t t' : Track} {a : Atom} {as : List Atom}

/-- What one reference does to a track. -/
structure ReferenceStep (file : Bytes) (a : Atom) (t t' : Track) : Prop where
  chapterRefs : Feeds (Atom.isKind "chap") (HasNumbers file) (· ++ ·) a t.chapterRefs t'.chapterRefs
  frame : t' = { t with chapterRefs := t'.chapterRefs }

theorem readReference_step (h : readReference file t a = .ok t') : ReferenceStep file a t t' := by
  unfold readReference at h
  split at h
  · next hkind =>
    obtain ⟨bs, hbs, rfl⟩ := map_eq_ok.1 h
    constructor <;> simp [Feeds, HasNumbers, Except.map, hkind, hbs]
  · next hkind =>
    cases h
    constructor <;> simp [Feeds, hkind]

theorem frame_of_foldlM_readReference (h : as.foldlM (readReference file) t = .ok t') :
    t' = { t with chapterRefs := t'.chapterRefs } := by
  refine foldlM_rel (P := fun t t' => t' = { t with chapterRefs := t'.chapterRefs })
    (fun _ => rfl) ?_ (fun _ _ _ h => (readReference_step h).frame) h
  intro s m s' hm hs
  rw [hs, hm]

/-- What one child of a media atom does to a track. -/
structure MediaStep (file : Bytes) (a : Atom) (t t' : Track) : Prop where
  timescale : Feeds (Atom.isKind "mdhd") (HasNumber file) (fun _ n => n) a t.timescale t'.timescale
  sampleTable : Feeds (Atom.isKind "minf") (HasTable file) (fun _ s => s) a
    t.sampleTable t'.sampleTable
  frame : t' = { t with timescale := t'.timescale, sampleTable := t'.sampleTable }

theorem readMedia_step (h : readMedia file t a = .ok t') : MediaStep file a t t' := by
  unfold readMedia at h
  split at h
  · next hmdhd =>
    have hkind := Atom.kind_eq_of_isKind hmdhd
    obtain ⟨bs, hbs, rfl⟩ := map_eq_ok.1 h
    constructor <;> simp +decide [Feeds, HasNumber, Except.map, Atom.isKind, hkind, hbs]
  split at h
  · next _ hminf =>
    have hkind := Atom.kind_eq_of_isKind hminf
    obtain ⟨bs, hbs, rfl⟩ := map_eq_ok.1 h
    constructor <;> simp +decide [Feeds, HasTable, Except.map, Atom.isKind, hkind, hbs]
  · next hmdhd hminf =>
    cases h
    constructor <;> simp [Feeds, hmdhd, hminf]

theorem frame_of_foldlM_readMedia (h : as.foldlM (readMedia file) t = .ok t') :
    t' = { t with timescale := t'.timescale, sampleTable := t'.sampleTable } := by
  refine foldlM_rel
    (P := fun t t' => t' = { t with timescale := t'.timescale, sampleTable := t'.sampleTable })
    (fun _ => rfl) ?_ (fun _ _ _ h => (readMedia_step h).frame) h
  intro s m s' hm hs
  rw [hs, hm]

/-- What one child of a track does to it. -/
structure ChildStep (file : Bytes) (a : Atom) (t t' : Track) : Prop where
  id : Feeds (Atom.isKind "tkhd") (HasNumber file) (fun _ n => n) a t.id t'.id
  chapterRefs : Feeds (Atom.isKind "tref") (HasReferences file) (· ++ ·) a
    t.chapterRefs t'.chapterRefs
  media : Feeds (Atom.isKind "mdia") (HasMedia file) (fun _ m => m) a
    (t.timescale, t.sampleTable) (t'.timescale, t'.sampleTable)

theorem readChild_step (h : readChild file t a = .ok t') : ChildStep file a t t' := by
  unfold readChild at h
  split at h
  · next htkhd =>
    have hkind := Atom.kind_eq_of_isKind htkhd
    obtain ⟨bs, hbs, rfl⟩ := map_eq_ok.1 h
    constructor <;> simp +decide [Feeds, HasNumber, Except.map, Atom.isKind, hkind, hbs]
  split at h
  · next _ htref =>
    have hkind := Atom.kind_eq_of_isKind htref
    obtain ⟨as, has, hfold⟩ := bind_eq_ok.1 h
    have hframe := frame_of_foldlM_readReference hfold
    constructor
    case chapterRefs =>
      refine ⟨fun _ refs hrefs => ?_, fun hnot => absurd htref (by simp [hnot])⟩
      rw [Except.ok.inj (h.symm.trans (hrefs t))]
    all_goals
      rw [hframe]
      simp +decide [Feeds, Atom.isKind, hkind]
  split at h
  · next _ _ hmdia =>
    have hkind := Atom.kind_eq_of_isKind hmdia
    obtain ⟨as, has, hfold⟩ := bind_eq_ok.1 h
    have hframe := frame_of_foldlM_readMedia hfold
    constructor
    case media =>
      refine ⟨fun _ m hm => ?_, fun hnot => absurd hmdia (by simp [hnot])⟩
      rw [Except.ok.inj (h.symm.trans (hm t))]
    all_goals
      rw [hframe]
      simp +decide [Feeds, Atom.isKind, hkind]
  · next htkhd htref hmdia =>
    cases h
    constructor <;> simp [Feeds, htkhd, htref, hmdia]

end MediaTags.IsoMedia.Track
