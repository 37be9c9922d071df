import Mathlib.Tactic
import MediaTags.Proofs.Text.Blank
import MediaTags.Tag.Credits

/-!
# Credits only grow

Crediting people keeps the credits in order: no role twice, nobody twice in a role, nothing blank.
Roles and people come to the end of what is there already.
-/

namespace MediaTags

open Text (IsTrimmed isTrimmed_of_present? present?_eq_some_iff)

namespace Credit

/-- A trimmed text that is not empty. -/
def IsName (s : String) : Prop := IsTrimmed s ∧ s ≠ ""

theorem isName_of_present? {s t : String} (h : Text.present? s = some t) : IsName t :=
  ⟨isTrimmed_of_present? h, (present?_eq_some_iff.1 h).2⟩

/-! ## Names in a role -/

theorem mem_appendNew {names more : List String} {n : String} :
    n ∈ appendNew names more ↔ n ∈ names ∨ n ∈ more := by
  induction more generalizing names with
  | nil => simp [appendNew]
  | cons m more ih =>
    rw [appendNew, ih]
    split <;> grind

theorem nodup_appendNew {names : List String} (h : names.Nodup) (more : List String) :
    (appendNew names more).Nodup := by
  induction more generalizing names with
  | nil => exact h
  | cons m more ih =>
    rw [appendNew]
    split
    · exact ih h
    · next hm => exact ih (List.Nodup.append h (by simp) (by simpa using hm))

/-- A role with people in it, each of them once. -/
structure Valid (c : Credit) : Prop where
  role : IsName c.role
  names : ∀ n ∈ c.names, IsName n
  nonempty : c.names ≠ []
  nodup : c.names.Nodup

theorem Valid.appendNew {role : String} {names more : List String} (hrole : IsName role)
    (hnames : ∀ n ∈ names, IsName n) (hnodup : names.Nodup) (hmore : ∀ n ∈ more, IsName n)
    (hne : more ≠ []) : Valid ⟨role, Credit.appendNew names more⟩ where
  role := hrole
  names n hn := (mem_appendNew.1 hn).elim (hnames n) (hmore n)
  nonempty := by
    obtain ⟨m, rest, rfl⟩ := List.exists_cons_of_ne_nil hne
    exact List.ne_nil_of_mem (mem_appendNew.2 (.inr (by simp : m ∈ m :: rest)))
  nodup := nodup_appendNew hnodup more

/-! ## Lists of credits -/

/-- Credits that are in order, no two of them for the same role. -/
structure Sound (credits : List Credit) : Prop where
  roles : (credits.map Credit.role).Nodup
  valid : ∀ c ∈ credits, c.Valid

theorem sound_nil : Sound [] := ⟨by simp, by simp⟩

theorem mem_roles_merge {role r : String} {names : List String} {credits : List Credit}
    (h : r ∈ (merge role names credits).map Credit.role) :
    r = role ∨ r ∈ credits.map Credit.role := by
  induction credits with
  | nil => simpa [merge] using h
  | cons c cs ih =>
    rw [merge] at h
    split at h <;> grind

theorem Sound.merge {role : String} {names : List String} {credits : List Credit}
    (h : Sound credits) (hrole : IsName role) (hnames : ∀ n ∈ names, IsName n) (hne : names ≠ []) :
    Sound (Credit.merge role names credits) := by
  induction credits with
  | nil =>
    have hvalid : Valid ⟨role, Credit.appendNew [] names⟩ :=
      .appendNew hrole (by simp) List.nodup_nil hnames hne
    exact ⟨by simp [Credit.merge], by simpa [Credit.merge] using hvalid⟩
  | cons c cs ih =>
    obtain ⟨hroles, hvalid⟩ := h
    rw [List.map_cons, List.nodup_cons] at hroles
    rw [List.forall_mem_cons] at hvalid
    rw [Credit.merge]
    split
    · have hc := Valid.appendNew hvalid.1.role hvalid.1.names hvalid.1.nodup hnames hne
      exact ⟨List.nodup_cons.2 hroles, List.forall_mem_cons.2 ⟨hc, hvalid.2⟩⟩
    · next hother =>
      obtain ⟨hroles', hvalid'⟩ := ih ⟨hroles.2, hvalid.2⟩
      refine ⟨?_, List.forall_mem_cons.2 ⟨hvalid.1, hvalid'⟩⟩
      rw [List.map_cons, List.nodup_cons]
      exact ⟨fun hmem => (mem_roles_merge hmem).elim hother hroles.1, hroles'⟩

/-- Later credits have the earlier roles first, and in each role the earlier people first. -/
structure Grows (old new : List Credit) : Prop where
  roles : old.map Credit.role <+: new.map Credit.role
  names : ∀ role, namesOf role old <+: namesOf role new

theorem Grows.refl (credits : List Credit) : Grows credits credits :=
  ⟨List.prefix_refl _, fun _ => List.prefix_refl _⟩

theorem Grows.trans {old mid new : List Credit} (h : Grows old mid) (g : Grows mid new) :
    Grows old new :=
  ⟨h.roles.trans g.roles, fun role => (h.names role).trans (g.names role)⟩

theorem namesOf_cons (role : String) (c : Credit) (cs : List Credit) :
    namesOf role (c :: cs) = if c.role = role then c.names else namesOf role cs := by
  by_cases h : c.role = role <;> simp [namesOf, h]

theorem grows_merge (role : String) (names : List String) (credits : List Credit) :
    Grows credits (merge role names credits) := by
  induction credits with
  | nil => exact ⟨List.nil_prefix, fun _ => List.nil_prefix⟩
  | cons c cs ih =>
    rw [merge]
    split
    · refine ⟨List.prefix_refl _, fun r => ?_⟩
      rw [namesOf_cons, namesOf_cons]
      split
      · exact prefix_appendNew ..
      · exact List.prefix_refl _
    · refine ⟨List.prefix_cons_inj _ |>.2 ih.roles, fun r => ?_⟩
      rw [namesOf_cons, namesOf_cons]
      split
      · exact List.prefix_refl _
      · exact ih.names r

/-! ## Crediting people -/

/-- Crediting changes nothing, or puts names under a role. -/
theorem add_cases (role : String) (names : List String) (credits : List Credit) :
    add role names credits = credits ∨
    ∃ name people, IsName name ∧ (∀ n ∈ people, IsName n) ∧ people ≠ [] ∧
      add role names credits = merge name people credits := by
  rw [add]
  split
  · next name n more hrole hnames =>
    refine .inr ⟨name, n :: more, isName_of_present? hrole, ?_, by simp, rfl⟩
    intro m hm
    rw [← hnames] at hm
    obtain ⟨raw, -, hraw⟩ := List.mem_filterMap.1 hm
    exact isName_of_present? hraw
  · exact .inl rfl

theorem Sound.add {credits : List Credit} (h : Sound credits) (role : String)
    (names : List String) : Sound (Credit.add role names credits) := by
  obtain heq | ⟨name, people, hname, hpeople, hne, heq⟩ := add_cases role names credits
  · rw [heq]
    exact h
  · rw [heq]
    exact h.merge hname hpeople hne

theorem grows_add (role : String) (names : List String) (credits : List Credit) :
    Grows credits (add role names credits) := by
  obtain heq | ⟨name, people, -, -, -, heq⟩ := add_cases role names credits
  · rw [heq]
    exact .refl credits
  · rw [heq]
    exact grows_merge name people credits

end Credit

end MediaTags
