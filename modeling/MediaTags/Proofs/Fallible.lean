import MediaTags.Failure
import MediaTags.Proofs.Lists

/-!
# Readings that may fail

What a successful reading was put together from. A list that is read into one value is followed
through one projection of that value at a time, which some of the elements set and the others
leave alone.
-/

namespace MediaTags

section Bind

variable {α β ε : Type} {x : Except ε α} {b : β}

theorem bind_eq_ok {f : α → Except ε β} : x >>= f = .ok b ↔ ∃ a, x = .ok a ∧ f a = .ok b := by
  cases x <;> simp [bind, Except.bind]

theorem map_eq_ok {f : α → β} : x.map f = .ok b ↔ ∃ a, x = .ok a ∧ f a = b := by
  cases x <;> simp [Except.map]

theorem exists_map_eq_ok_iff {f : α → β} : (∃ b, x.map f = .ok b) ↔ ∃ a, x = .ok a := by
  cases x <;> simp [Except.map]

theorem bind_eq_error {f : α → Except ε β} {e : ε} :
    x >>= f = .error e ↔ x = .error e ∨ ∃ a, x = .ok a ∧ f a = .error e := by
  cases x <;> simp [bind, Except.bind]

theorem map_eq_error {f : α → β} {e : ε} : x.map f = .error e ↔ x = .error e := by
  cases x <;> simp [Except.map]

theorem mapError_eq_ok {η : Type} {f : ε → η} {a : α} : x.mapError f = .ok a ↔ x = .ok a := by
  cases x <;> simp [Except.mapError]

theorem mapError_eq_error {η : Type} {f : ε → η} {e : η} :
    x.mapError f = .error e ↔ ∃ cause, x = .error cause ∧ f cause = e := by
  cases x <;> simp [Except.mapError]

/-- What only fails does not overflow. -/
theorem mapError_failure_ne_overflow : x.mapError Abort.failure ≠ .error .overflow := by
  cases x <;> simp [Except.mapError]

theorem mapError_map {η : Type} {f : ε → η} {g : α → β} :
    (x.mapError f).map g = (x.map g).mapError f := by
  cases x <;> rfl

theorem eq_bind_toOption_of_rel {ι : Type} {read : ι → Except ε α} {o : Option ι} {o' : Option α}
    (h : Option.Rel (fun e v => read e = .ok v) o o') :
    o' = o.bind fun e => (read e).toOption := by
  cases h with
  | none => rfl
  | some h => simp [h, Except.toOption]

end Bind

namespace Abort

variable {α ε η : Type} {x : Except (Abort ε) α}

theorem ignore_eq_some_iff {a : α} :
    (ignore x : Except (Abort η) (Option α)) = .ok (some a) ↔ x = .ok a := by
  obtain (_ | _) | _ := x <;> simp [ignore]

theorem ignore_eq_none_iff :
    (ignore x : Except (Abort η) (Option α)) = .ok none ↔ ∃ cause, x = .error (.failure cause) := by
  obtain (_ | _) | _ := x <;> simp [ignore]

theorem ignore_eq_error_iff {why : Abort η} :
    (ignore x : Except (Abort η) (Option α)) = .error why ↔
      why = .overflow ∧ x = .error .overflow := by
  obtain (_ | _) | _ := x <;> simp [ignore, eq_comm]

end Abort

section Agreement

variable {α β η φ : Type} {wrap : φ → η} {c : Except η α} {r : Except φ α}

/-- A reading that can break off for more reasons than a plain one gives what that one does. -/
def Agrees (wrap : φ → η) (c : Except η α) (r : Except φ α) : Prop := c = r.mapError wrap

namespace Agrees

@[simp] theorem ok (wrap : φ → η) (a : α) : Agrees wrap (.ok a) (.ok a) := rfl

theorem bind (h : Agrees wrap c r) {g : α → Except η β} {f : α → Except φ β}
    (hnext : ∀ a, r = .ok a → Agrees wrap (g a) (f a)) : Agrees wrap (c >>= g) (r >>= f) := by
  cases h
  cases r with
  | error e => rfl
  | ok a => exact hnext a rfl

theorem map (h : Agrees wrap c r) (f : α → β) : Agrees wrap (c.map f) (r.map f) := by
  cases h
  cases r <;> rfl

/-- What never breaks off may be done as a step of the reading. -/
theorem bind_map (h : Agrees wrap c r) {g : α → Except η β} {f : α → β}
    (hnext : ∀ a, r = .ok a → g a = .ok (f a)) : Agrees wrap (c >>= g) (r.map f) := by
  cases h
  cases r with
  | error e => rfl
  | ok a => exact hnext a rfl

theorem foldlM {ι σ : Type} {step : σ → ι → Except φ σ} {step' : σ → ι → Except η σ} {es : List ι}
    (h : ∀ e ∈ es, ∀ s, Agrees wrap (step' s e) (step s e)) (s : σ) :
    Agrees wrap (es.foldlM step' s) (es.foldlM step s) := by
  induction es generalizing s with
  | nil => exact ok wrap s
  | cons e es ih =>
    rw [List.forall_mem_cons] at h
    rw [List.foldlM_cons, List.foldlM_cons]
    exact (h.1 s).bind fun m _ => ih h.2 m

end Agrees

end Agreement

section Lists

variable {ι α β σ ε : Type}

theorem mapM_eq_ok {read : ι → Except ε α} {es : List ι} {vs : List α} :
    es.mapM read = .ok vs ↔ List.Forall₂ (fun e v => read e = .ok v) es vs := by
  induction es generalizing vs with
  | nil => cases vs <;> simp [pure, Except.pure]
  | cons e es ih =>
    rw [List.mapM_cons]
    cases hread : read e with
    | error f => cases vs <;> simp [bind, Except.bind, hread]
    | ok v =>
      cases hrest : es.mapM read with
      | error f => cases vs <;> simp [bind, Except.bind, ← ih, hread, hrest]
      | ok rest => cases vs <;> simp [bind, Except.bind, pure, Except.pure, ← ih, hread, hrest]

/-- A list is not read because of the first element that cannot be. -/
theorem mapM_eq_error {read : ι → Except ε α} {es : List ι} {f : ε} :
    es.mapM read = .error f ↔ ∃ before e after vs, es = before ++ e :: after ∧
      before.mapM read = .ok vs ∧ read e = .error f := by
  constructor
  · intro h
    induction es with
    | nil => cases h
    | cons e es ih =>
      rw [List.mapM_cons] at h
      obtain hfails | ⟨v, hv, hrest⟩ := bind_eq_error.1 h
      · exact ⟨[], e, es, [], rfl, rfl, hfails⟩
      · obtain hfails | ⟨vs, -, hpure⟩ := bind_eq_error.1 hrest
        · obtain ⟨before, e', after, vs, rfl, hbefore, hlast⟩ := ih hfails
          refine ⟨e :: before, e', after, v :: vs, rfl, ?_, hlast⟩
          exact mapM_eq_ok.2 (.cons hv (mapM_eq_ok.1 hbefore))
        · cases hpure
  · rintro ⟨before, e, after, vs, rfl, hbefore, hfails⟩
    rw [List.mapM_append, hbefore, List.mapM_cons, hfails]
    rfl

/-- Putting each value behind those before it is reading the list. -/
theorem foldlM_append_singleton (read : ι → Except ε α) (es : List ι) (vs : List α) :
    es.foldlM (fun vs e => (read e).map (vs ++ [·])) vs = (es.mapM read).map (vs ++ ·) := by
  induction es generalizing vs with
  | nil => simp [pure, Except.pure, Except.map]
  | cons e es ih =>
    rw [List.foldlM_cons, List.mapM_cons]
    cases read e with
    | error f => rfl
    | ok v =>
      refine (ih (vs ++ [v])).trans ?_
      cases hrest : es.mapM read <;>
        simp [bind, Except.bind, pure, Except.pure, Except.map]

/-- What is read of each element may be kept beside it. -/
theorem mapM_pair (read : ι → Except ε α) (es : List ι) :
    (es.mapM fun e => (read e).map (e, ·)).map List.unzip = (es.mapM read).map (es, ·) := by
  induction es with
  | nil => rfl
  | cons e es ih =>
    rw [List.mapM_cons, List.mapM_cons]
    cases read e with
    | error f => rfl
    | ok v =>
      cases hpairs : es.mapM fun e => (read e).map (e, ·) <;> cases hrest : es.mapM read <;>
        simp_all [bind, Except.bind, pure, Except.pure, Except.map, List.unzip_eq_map]

variable {step : σ → ι → Except ε σ}

/-- A fold fails at the first element whose step does. -/
theorem foldlM_eq_error {es : List ι} {s : σ} {f : ε} :
    es.foldlM step s = .error f ↔ ∃ before e after m, es = before ++ e :: after ∧
      before.foldlM step s = .ok m ∧ step m e = .error f := by
  constructor
  · intro h
    induction es generalizing s with
    | nil => cases h
    | cons e es ih =>
      rw [List.foldlM_cons] at h
      obtain hfails | ⟨m, hm, hrest⟩ := bind_eq_error.1 h
      · exact ⟨[], e, es, s, rfl, rfl, hfails⟩
      · obtain ⟨before, e', after, m', rfl, hbefore, hfails⟩ := ih hrest
        exact ⟨e :: before, e', after, m', rfl, bind_eq_ok.2 ⟨m, hm, hbefore⟩, hfails⟩
  · rintro ⟨before, e, after, m, rfl, hbefore, hfails⟩
    rw [List.foldlM_append, hbefore]
    exact bind_eq_error.2 (.inr ⟨m, rfl, bind_eq_error.2 (.inl hfails)⟩)

theorem foldlM_cons_eq_ok {e : ι} {es : List ι} {s s' : σ} :
    (e :: es).foldlM step s = .ok s' ↔ ∃ m, step s e = .ok m ∧ es.foldlM step m = .ok s' := by
  rw [List.foldlM_cons, bind_eq_ok]

/-- Every step of a fold that succeeds does. -/
theorem exists_step_of_foldlM {es : List ι} {s s' : σ} (h : es.foldlM step s = .ok s') {e : ι}
    (he : e ∈ es) : ∃ m m', step m e = .ok m' := by
  induction es generalizing s with
  | nil => cases he
  | cons e' es ih =>
    obtain ⟨m, hm, hrest⟩ := foldlM_cons_eq_ok.1 h
    rcases List.mem_cons.1 he with rfl | he
    · exact ⟨s, m, hm⟩
    · exact ih hrest he

theorem exists_foldlM {es : List ι} (h : ∀ e ∈ es, ∀ s, ∃ s', step s e = .ok s') (s : σ) :
    ∃ s', es.foldlM step s = .ok s' := by
  induction es generalizing s with
  | nil => exact ⟨s, rfl⟩
  | cons e es ih =>
    obtain ⟨m, hm⟩ := h e (by simp) s
    obtain ⟨s', hs⟩ := ih (fun e he => h e (by simp [he])) m
    exact ⟨s', foldlM_cons_eq_ok.2 ⟨m, hm, hs⟩⟩

/-- Where it depends on the element alone whether a step succeeds, a fold does if each element's
step does. -/
theorem exists_foldlM_iff {P : ι → Prop} (hstep : ∀ s e, (∃ s', step s e = .ok s') ↔ P e)
    {es : List ι} {s : σ} : (∃ s', es.foldlM step s = .ok s') ↔ ∀ e ∈ es, P e := by
  constructor
  · rintro ⟨s', h⟩ e he
    obtain ⟨m, m', hm⟩ := exists_step_of_foldlM h he
    exact (hstep m e).1 ⟨m', hm⟩
  · exact fun h => exists_foldlM (fun e he s => (hstep s e).2 (h e he)) s

/-- What holds between a value and the one after each step holds between the first and the last. -/
theorem foldlM_rel {P : σ → σ → Prop} (hrefl : ∀ s, P s s)
    (htrans : ∀ s m s', P s m → P m s' → P s s')
    (hstep : ∀ s e s', step s e = .ok s' → P s s') {es : List ι} {s s' : σ}
    (h : es.foldlM step s = .ok s') : P s s' := by
  induction es generalizing s with
  | nil => exact Except.ok.inj h ▸ hrefl s
  | cons e es ih =>
    obtain ⟨m, hm, hs⟩ := foldlM_cons_eq_ok.1 h
    exact htrans s m s' (hstep s e m hm) (ih hs)

/-- What each step keeps holds of the last value if it holds of the first. -/
theorem foldlM_invariant {P : σ → Prop} {es : List ι}
    (hstep : ∀ s e s', e ∈ es → P s → step s e = .ok s' → P s') {s s' : σ}
    (h : es.foldlM step s = .ok s') (hs : P s) : P s' := by
  induction es generalizing s with
  | nil => exact Except.ok.inj h ▸ hs
  | cons e es ih =>
    obtain ⟨m, hm, hrest⟩ := foldlM_cons_eq_ok.1 h
    exact ih (fun s e' s' he => hstep s e' s' (.tail e he)) hrest (hstep s e m (.head es) hs hm)

/-- A field takes in the value of an element with `p`, and stays as it is at any other. -/
def Feeds (p : ι → Bool) (R : ι → α → Prop) (put : β → α → β) (e : ι) (old new : β) : Prop :=
  (p e = true → ∀ v, R e v → new = put old v) ∧ (p e = false → new = old)

/-- A field that is fed by the elements with `p` is put together from their values. -/
theorem foldlM_put {p : ι → Bool} {R : ι → α → Prop} {put : β → α → β} (get : σ → β)
    (hstep : ∀ s e s', step s e = .ok s' → Feeds p R put e (get s) (get s'))
    {es : List ι} {vs : List α} (hv : List.Forall₂ R (es.filter p) vs) {s s' : σ}
    (h : es.foldlM step s = .ok s') : get s' = vs.foldl put (get s) := by
  induction es generalizing s vs with
  | nil =>
    cases h
    cases hv
    rfl
  | cons e es ih =>
    obtain ⟨m, hm, hs⟩ := foldlM_cons_eq_ok.1 h
    have hfeeds := hstep s e m hm
    cases hp : p e with
    | true =>
      rw [List.filter_cons_of_pos hp] at hv
      obtain ⟨v, rest, hR, hrest, rfl⟩ := List.forall₂_cons_left_iff.1 hv
      rw [ih hrest hs, hfeeds.1 hp v hR, List.foldl_cons]
    | false =>
      rw [List.filter_cons_of_neg (by simp [hp])] at hv
      rw [ih hv hs, hfeeds.2 hp]

/-- A field that each step sets or leaves alone holds what it was set to last. -/
theorem foldlM_last {feeds : ι → Option β} {es : List ι} {s s' : σ}
    (h : es.foldlM step s = .ok s') (get : σ → Option β)
    (hstep : ∀ s e s', step s e = .ok s' → get s' = (feeds e <|> get s)) :
    get s' = ((es.filterMap feeds).getLast? <|> get s) := by
  induction es generalizing s with
  | nil =>
    cases h
    rfl
  | cons e es ih =>
    obtain ⟨m, hm, hs⟩ := foldlM_cons_eq_ok.1 h
    rw [ih hs, hstep s e m hm, List.filterMap_cons]
    cases feeds e with
    | none => rfl
    | some b => cases hlast : (es.filterMap feeds).getLast? <;> simp [List.getLast?_cons, hlast]

/-- A field that is set once holds the value of the first element that has one. -/
theorem foldlM_first {κ : Type} {find : ι → Option κ} {R : κ → β → Prop} (get : σ → Option β)
    (hkeep : ∀ s e s', step s e = .ok s' → ∀ b, get s = some b → get s' = some b)
    (hset : ∀ s e s', step s e = .ok s' → get s = none → Option.Rel R (find e) (get s'))
    {es : List ι} {s s' : σ} (h : es.foldlM step s = .ok s') (hs : get s = none) :
    Option.Rel R (es.findSome? find) (get s') := by
  induction es generalizing s with
  | nil =>
    cases h
    rw [hs]
    exact .none
  | cons e es ih =>
    obtain ⟨m, hm, hrest⟩ := foldlM_cons_eq_ok.1 h
    have hfirst := hset s e m hm hs
    rw [List.findSome?_cons]
    cases hget : get m with
    | none =>
      rw [hget] at hfirst
      rw [eq_none_of_rel_none hfirst]
      exact ih hrest hget
    | some b =>
      rw [hget] at hfirst
      obtain ⟨k, hk, hR⟩ := exists_of_rel_some hfirst
      have hlast : ∀ b, get m = some b → get s' = some b :=
        foldlM_rel (P := fun s s' => ∀ b, get s = some b → get s' = some b) (fun _ _ => id)
          (fun _ _ _ h₁ h₂ b hb => h₂ b (h₁ b hb)) hkeep hrest
      rw [hk, hlast b hget]
      exact .some hR

end Lists

end MediaTags
