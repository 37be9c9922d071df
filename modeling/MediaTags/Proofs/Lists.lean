import Mathlib.Tactic

/-!
# Lists in step

What is known of two lists whose elements correspond to each other one by one.
-/

namespace MediaTags

variable {α β γ : Type} {R : α → β → Prop} {xs : List α} {ys : List β}

theorem exists_of_mem_forall₂ (h : List.Forall₂ R xs ys) {x : α} (hx : x ∈ xs) :
    ∃ y ∈ ys, R x y := by
  induction h with
  | nil => cases hx
  | cons hR _ ih =>
    rcases List.mem_cons.1 hx with rfl | hx
    · exact ⟨_, by simp, hR⟩
    · obtain ⟨y, hy, hxy⟩ := ih hx
      exact ⟨y, by simp [hy], hxy⟩

/-- Where each element of a list has a value, the list has values one by one. -/
theorem exists_forall₂ (h : ∀ x ∈ xs, ∃ y, R x y) : ∃ ys, List.Forall₂ R xs ys := by
  induction xs with
  | nil => exact ⟨[], .nil⟩
  | cons x xs ih =>
    obtain ⟨y, hxy⟩ := h x (by simp)
    obtain ⟨ys, hys⟩ := ih fun x hx => h x (by simp [hx])
    exact ⟨y :: ys, .cons hxy hys⟩

theorem forall₂_comp {S : β → γ → Prop} {T : α → γ → Prop} {zs : List γ}
    (h : List.Forall₂ R xs ys) (h' : List.Forall₂ S ys zs)
    (hcomp : ∀ x y, ∀ z ∈ zs, R x y → S y z → T x z) : List.Forall₂ T xs zs := by
  induction h generalizing zs with
  | nil =>
    cases h'
    exact .nil
  | cons hR _ ih =>
    cases h' with
    | cons hS hrest =>
      rename_i z zs
      exact .cons (hcomp _ _ z (by simp) hR hS)
        (ih hrest fun x y z hz => hcomp x y z (by simp [hz]))

theorem exists_of_forall₂_append {zs : List β} (h : List.Forall₂ R xs (ys ++ zs)) :
    ∃ front back, xs = front ++ back ∧ List.Forall₂ R front ys ∧ List.Forall₂ R back zs :=
  ⟨_, _, (List.take_append_drop ..).symm, List.forall₂_take_append _ _ _ h,
    List.forall₂_drop_append _ _ _ h⟩

theorem filter_forall₂ {p : α → Bool} {q : β → Bool} (h : List.Forall₂ R xs ys)
    (hpq : ∀ x y, R x y → p x = q y) : List.Forall₂ R (xs.filter p) (ys.filter q) := by
  induction h with
  | nil => exact .nil
  | cons hR _ ih =>
    rw [List.filter_cons, List.filter_cons, hpq _ _ hR]
    split
    · exact .cons hR ih
    · exact ih

theorem find?_forall₂ {p : α → Bool} {q : β → Bool} (h : List.Forall₂ R xs ys)
    (hpq : ∀ x y, R x y → p x = q y) : Option.Rel R (xs.find? p) (ys.find? q) := by
  induction h with
  | nil => exact .none
  | cons hR _ ih =>
    rw [List.find?_cons, List.find?_cons, hpq _ _ hR]
    split
    · exact .some hR
    · exact ih

theorem exists_of_rel_some {o : Option α} {y : β} (h : Option.Rel R o (some y)) :
    ∃ x, o = some x ∧ R x y := by
  cases o with
  | none => cases h
  | some x =>
    cases h with
    | some hR => exact ⟨x, rfl, hR⟩

theorem eq_none_of_rel_none {o : Option α} (h : Option.Rel R o (none : Option β)) : o = none := by
  cases o with
  | none => rfl
  | some x => cases h

/-- Where values were found in two steps, the first step found some. -/
theorem exists_of_forall₂_exists {Q : α → β → Prop} {T : β → γ → Prop} {zs : List γ}
    (h : List.Forall₂ (fun x z => ∃ y, Q x y ∧ T y z) xs zs) :
    ∃ ys, List.Forall₂ Q xs ys ∧ List.Forall₂ T ys zs := by
  induction h with
  | nil => exact ⟨[], .nil, .nil⟩
  | cons hR _ ih =>
    obtain ⟨y, hQ, hT⟩ := hR
    obtain ⟨ys, hQs, hTs⟩ := ih
    exact ⟨y :: ys, .cons hQ hQs, .cons hT hTs⟩

theorem exists_of_forall₂_singleton {Q : α → β → Prop} {T : β → γ → Prop} {z : γ}
    (h : List.Forall₂ (fun x z => ∃ y, Q x y ∧ T y z) xs [z]) :
    ∃ y, List.Forall₂ Q xs [y] ∧ T y z := by
  obtain ⟨ys, hQ, hT⟩ := exists_of_forall₂_exists h
  obtain ⟨y, rest, hy, hrest, rfl⟩ := List.forall₂_cons_right_iff.1 hT
  cases hrest
  exact ⟨y, hQ, hy⟩

theorem filterMap_eq_of_forall₂ {f : α → Option γ} {g : β → Option γ} (h : List.Forall₂ R xs ys)
    (hfg : ∀ x y, R x y → g y = f x) : ys.filterMap g = xs.filterMap f := by
  induction h with
  | nil => rfl
  | cons hR _ ih => rw [List.filterMap_cons, List.filterMap_cons, hfg _ _ hR, ih]

theorem flatMap_eq_of_forall₂ {f : α → List γ} {g : β → List γ} (h : List.Forall₂ R xs ys)
    (hfg : ∀ x y, R x y → g y = f x) : ys.flatMap g = xs.flatMap f := by
  induction h with
  | nil => rfl
  | cons hR _ ih => rw [List.flatMap_cons, List.flatMap_cons, hfg _ _ hR, ih]

theorem eq_map_of_forall₂ {f : α → β} (h : List.Forall₂ R xs ys)
    (hf : ∀ x y, R x y → y = f x) : ys = xs.map f := by
  induction h with
  | nil => rfl
  | cons hR _ ih => rw [List.map_cons, hf _ _ hR, ih]

theorem flatMap_filter {p : α → Bool} {f : α → List γ} :
    (xs.filter p).flatMap f = xs.flatMap fun x => if p x then f x else [] := by
  induction xs with
  | nil => rfl
  | cons x xs ih => cases hp : p x <;> simp [hp, ih]

/-- What some of the elements have values for depends on these elements alone. -/
theorem filterMap_congr_of_filter {f : α → Option γ} {p : α → Bool} {xs' : List α}
    (hf : ∀ x, (f x).isSome → p x) (h : xs.filter p = xs'.filter p) :
    xs.filterMap f = xs'.filterMap f := by
  have hfilter (zs : List α) : (zs.filter p).filterMap f = zs.filterMap f := by
    rw [List.filterMap_filter]
    refine List.filterMap_congr fun x _ => ?_
    cases hx : f x with
    | none => simp
    | some v => simp [hf x (by simp [hx])]
  rw [← hfilter xs, h, hfilter]

theorem foldl_append_eq (parts : List (List α)) (vs : List α) :
    parts.foldl (· ++ ·) vs = vs ++ parts.flatten := by
  rw [List.foldl_append_eq_append, List.map_id']

end MediaTags
