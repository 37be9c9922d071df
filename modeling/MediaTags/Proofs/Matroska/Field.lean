import MediaTags.Proofs.Fallible
import MediaTags.Proofs.Lists
import MediaTags.Proofs.Matroska.Node

/-!
# What children with an id contribute

Children are read in order into one value, and each of its fields is fed by the children with one
id. The field then depends on these children alone, whatever lies between them.
-/

namespace MediaTags.Matroska

/-- Those of `xs` with an id have the values `vs`, in order. -/
def Each {ι α : Type} (idOf : ι → Nat) (id : Nat) (R : ι → α → Prop) (xs : List ι)
    (vs : List α) : Prop :=
  List.Forall₂ R (xs.filter (idOf · == id)) vs

namespace Each

variable {ι α : Type} {idOf : ι → Nat} {id : Nat} {R : ι → α → Prop} {xs : List ι} {vs : List α}

theorem cons_of_eq {x : ι} (hx : idOf x = id) :
    Each idOf id R (x :: xs) vs ↔ ∃ v rest, R x v ∧ vs = v :: rest ∧ Each idOf id R xs rest := by
  simp only [Each, List.filter_cons, hx, beq_self_eq_true, if_true, List.forall₂_cons_left_iff]
  grind

theorem cons_of_ne {x : ι} (hx : idOf x ≠ id) :
    Each idOf id R (x :: xs) vs ↔ Each idOf id R xs vs := by
  simp [Each, hx]

theorem exists_of_mem (h : Each idOf id R xs vs) {x : ι} (hx : x ∈ xs) (hid : idOf x = id) :
    ∃ v ∈ vs, R x v := by
  induction xs generalizing vs with
  | nil => cases hx
  | cons y xs ih =>
    by_cases hy : idOf y = id
    · obtain ⟨v, rest, hv, rfl, hrest⟩ := (cons_of_eq hy).1 h
      rcases List.mem_cons.1 hx with rfl | hx
      · exact ⟨v, by simp, hv⟩
      · obtain ⟨w, hw, hR⟩ := ih hrest hx
        exact ⟨w, List.mem_cons_of_mem _ hw, hR⟩
    · rcases List.mem_cons.1 hx with rfl | hx
      · exact absurd hid hy
      · exact ih ((cons_of_ne hy).1 h) hx

theorem map_iff {β : Type} {f : β → α} {ws : List β} :
    Each idOf id R xs (ws.map f) ↔ Each idOf id (fun x w => R x (f w)) xs ws :=
  List.forall₂_map_right_iff

/-- Where each of them has a value with a property, they have values that all have it. -/
theorem exists_of_forall {P : α → Prop} (h : ∀ x ∈ xs, idOf x = id → ∃ v, P v ∧ R x v) :
    ∃ vs, Each idOf id R xs vs ∧ ∀ v ∈ vs, P v := by
  induction xs with
  | nil => exact ⟨[], .nil, by simp⟩
  | cons x xs ih =>
    obtain ⟨vs, hvs, hP⟩ := ih fun y hy => h y (by simp [hy])
    by_cases hx : idOf x = id
    · obtain ⟨v, hv, hR⟩ := h x (by simp) hx
      exact ⟨v :: vs, (cons_of_eq hx).2 ⟨v, vs, hR, rfl, hvs⟩, by simpa [hv] using hP⟩
    · exact ⟨vs, (cons_of_ne hx).2 hvs, hP⟩

/-- A value that was found in two steps may be replaced by what the first step found. -/
theorem exists_of_singleton {β : Type} {Q : ι → β → Prop} {T : β → α → Prop} {v : α}
    (h : Each idOf id (fun x v => ∃ w, Q x w ∧ T w v) xs [v]) :
    ∃ w, Each idOf id Q xs [w] ∧ T w v :=
  exists_of_forall₂_singleton h

theorem nil_of_forall_ne (h : ∀ x ∈ xs, idOf x ≠ id) : Each idOf id R xs [] := by
  rw [Each, List.filter_eq_nil_iff.2 (by simpa using h)]
  exact .nil

end Each

/-- What nodes write is what the elements that store them say. -/
theorem Each.stored {α : Type} {file : Bytes} {id : Nat} {W : Node → α → Prop}
    {R : Element → α → Prop} {ns : List Node} {vs : List α} (hw : Each Node.id id W ns vs)
    {es : List Element} (h : List.Forall₂ (Stores file) es ns)
    (hread : ∀ e n v, Stores file e n → W n v → R e v) : Each Element.id id R es vs := by
  induction h generalizing vs with
  | nil => simpa [Each] using hw
  | @cons e n es ns he _ ih =>
    by_cases hid : n.id = id
    · obtain ⟨v, rest, hv, rfl, hrest⟩ := (Each.cons_of_eq hid).1 hw
      exact (Each.cons_of_eq (he.id_eq.trans hid)).2 ⟨v, rest, hread e n v he hv, rfl, ih hrest⟩
    · exact (Each.cons_of_ne (he.id_eq ▸ hid)).2 (ih ((Each.cons_of_ne hid).1 hw))

section Fold

variable {σ α β : Type} {step : σ → Element → Except Fault σ}

/-- A field takes the value of an element with the right id, and stays as it is at any other. -/
def Feeds (id : Nat) (R : Element → α → Prop) (put : β → α → β) (e : Element) (old new : β) :
    Prop :=
  MediaTags.Feeds (·.id == id) R put e old new

section Feeds

variable {id : Nat} {R : Element → α → Prop} {put : β → α → β} {e : Element} {old new : β}

theorem feeds_iff : Feeds id R put e old new ↔
    (e.id = id → ∀ v, R e v → new = put old v) ∧ (e.id ≠ id → new = old) := by
  simp [Feeds, MediaTags.Feeds]

theorem Feeds.of_eq (hid : e.id = id) (h : ∀ v, R e v → new = put old v) :
    Feeds id R put e old new :=
  feeds_iff.2 ⟨fun _ => h, fun hne => absurd hid hne⟩

theorem Feeds.of_ne (hid : e.id ≠ id) (h : new = old) : Feeds id R put e old new :=
  feeds_iff.2 ⟨fun heq => absurd heq hid, fun _ => h⟩

theorem Feeds.eq_of_ne (h : Feeds id R put e old new) (hid : e.id ≠ id) : new = old :=
  (feeds_iff.1 h).2 hid

end Feeds

/-- A field that is fed by the elements with an id is put together from their values. -/
theorem get_foldlM {id : Nat} {R : Element → α → Prop} {put : β → α → β} (get : σ → β)
    (hstep : ∀ s e s', step s e = .ok s' → Feeds id R put e (get s) (get s'))
    {es : List Element} {vs : List α} (hv : Each Element.id id R es vs) {s s' : σ}
    (h : es.foldlM step s = .ok s') : get s' = vs.foldl put (get s) :=
  foldlM_put get hstep hv h

end Fold

namespace Children

variable {α σ : Type} {c : Children}

theorem mapM_eq_ok {read : Element → Except Fault α} {vs : List α} :
    c.mapM read = .ok vs ↔
      c.fault = none ∧ List.Forall₂ (fun e v => read e = .ok v) c.elements vs := by
  obtain ⟨es, fault⟩ := c
  rw [← MediaTags.mapM_eq_ok, mapM]
  cases es.mapM read <;> cases fault <;> simp [bind, Except.bind]

theorem foldlM_eq_ok {step : σ → Element → Except Fault σ} {s s' : σ} :
    c.foldlM step s = .ok s' ↔ c.fault = none ∧ c.elements.foldlM step s = .ok s' := by
  rw [foldlM]
  cases c.elements.foldlM step s <;> cases c.fault <;> simp [bind, Except.bind]

theorem foldlM_cons (step : σ → Element → Except Fault σ) (e : Element) (c : Children) (s : σ) :
    foldlM ⟨e :: c.elements, c.fault⟩ step s = step s e >>= c.foldlM step := by
  rw [foldlM, List.foldlM_cons, bind_assoc]
  rfl

/-- Putting each value behind those before it is reading all children. -/
theorem foldlM_append_singleton (read : Element → Except Fault α) :
    c.foldlM (fun vs e => (read e).map (vs ++ [·])) [] = c.mapM read := by
  rw [foldlM, MediaTags.foldlM_append_singleton, mapM]
  cases c.elements.mapM read <;> rfl

/-- What is read of each child may be kept beside it. -/
theorem mapM_pair (read : Element → Except Fault α) :
    (c.mapM fun e => (read e).map (e, ·)).map List.unzip = (c.mapM read).map (c.elements, ·) := by
  have hpairs := MediaTags.mapM_pair read c.elements
  unfold mapM
  cases hleft : c.elements.mapM fun e => (read e).map (e, ·) <;>
    cases hright : c.elements.mapM read <;> cases c.fault <;>
    simp_all [bind, Except.bind, Except.map]

theorem forall₂_readIf {id : Nat} {read : Element → Except Fault α} {es : List Element}
    {vs : List α} :
    (∃ os, List.Forall₂ (fun e o => readIf id read e = .ok o) es os ∧
        os.filterMap (fun o => o) = vs) ↔
      Each Element.id id (fun e v => read e = .ok v) es vs := by
  induction es generalizing vs with
  | nil => simp [Each, eq_comm]
  | cons e es ih =>
    by_cases hid : e.id = id
    · have hread (o : Option α) : readIf id read e = .ok o ↔ ∃ v, read e = .ok v ∧ o = some v := by
        rw [readIf, if_pos hid]
        cases read e <;> simp [Except.map, eq_comm]
      rw [Each.cons_of_eq hid]
      simp only [← ih, List.forall₂_cons_left_iff, hread]
      constructor
      · rintro ⟨_, ⟨_, os, ⟨v, hv, rfl⟩, hos, rfl⟩, rfl⟩
        exact ⟨v, _, hv, rfl, os, hos, rfl⟩
      · rintro ⟨v, _, hv, rfl, os, hos, rfl⟩
        exact ⟨some v :: os, ⟨_, os, ⟨v, hv, rfl⟩, hos, rfl⟩, rfl⟩
    · have hread (o : Option α) : readIf id read e = .ok o ↔ o = none := by
        rw [readIf, if_neg hid, Except.ok.injEq, eq_comm]
      rw [Each.cons_of_ne hid]
      simp only [← ih, List.forall₂_cons_left_iff, hread]
      constructor
      · rintro ⟨_, ⟨_, os, rfl, hos, rfl⟩, rfl⟩
        exact ⟨os, hos, rfl⟩
      · rintro ⟨os, hos, rfl⟩
        exact ⟨none :: os, ⟨_, os, rfl, hos, rfl⟩, rfl⟩

theorem readAll_eq (id : Nat) (read : Element → Except Fault α) :
    c.readAll id read = (c.mapM (readIf id read)).map fun os => os.filterMap (fun o => o) :=
  rfl

/-- All children with an id are read, and the others are passed over. -/
theorem readAll_eq_ok {read : Element → Except Fault α} {id : Nat} {vs : List α} :
    c.readAll id read = .ok vs ↔
      c.fault = none ∧ Each Element.id id (fun e v => read e = .ok v) c.elements vs := by
  have hall : c.readAll id read = .ok vs ↔
      ∃ os, c.mapM (readIf id read) = .ok os ∧ os.filterMap (fun o => o) = vs := by
    rw [readAll_eq]
    cases c.mapM (readIf id read) <;> simp [Except.map]
  rw [hall, ← forall₂_readIf]
  simp only [mapM_eq_ok]
  grind

end Children

end MediaTags.Matroska
