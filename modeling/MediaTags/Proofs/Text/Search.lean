import Mathlib.Tactic
import MediaTags.Text.Search

/-!
# Finding and replacing

What follows a leading text is the rest of the text. Where a text occurs, replacing its first
occurrence changes nothing before and behind it.
-/

namespace MediaTags.Text

theorem after?_eq_some_iff {lead s rest : String} :
    after? lead s = some rest ↔ s = lead ++ rest := by
  simp only [after?, Option.map_eq_some_iff, afterChars?_eq_some_iff, ← String.toList_inj,
    String.toList_append]
  constructor
  · rintro ⟨cs, hs, hcs⟩
    rwa [← hcs, String.toList_ofList]
  · intro hs
    exact ⟨rest.toList, hs, String.toList_ofList⟩

theorem isPrefixOf_eq_false {part cs : List Char} (h : afterChars? part cs = none) :
    part.isPrefixOf cs = false := by
  rw [Bool.eq_false_iff, ne_eq, List.isPrefixOf_iff_prefix]
  rintro ⟨rest, hrest⟩
  rw [afterChars?_eq_some_iff.2 hrest.symm] at h
  cases h

theorem occursInChars_iff {part cs : List Char} : occursInChars part cs ↔ part <:+: cs := by
  induction cs with
  | nil => simp [occursInChars]
  | cons c cs ih =>
    rw [occursInChars, Bool.or_eq_true, List.isPrefixOf_iff_prefix, ih, List.infix_cons_iff]

theorem occursIn_iff {part s : String} :
    occursIn part s ↔ ∃ before after, s = before ++ part ++ after := by
  rw [occursIn, occursInChars_iff]
  constructor
  · rintro ⟨before, after, hs⟩
    refine ⟨.ofList before, .ofList after, ?_⟩
    rw [← String.toList_inj]
    simpa using hs.symm
  · rintro ⟨before, after, rfl⟩
    exact ⟨before.toList, after.toList, by simp⟩

/-- What lies in front of the first occurrence of `part` and behind it. -/
structure FirstAt (part s lead tail : String) : Prop where
  eq : s = lead ++ part ++ tail
  first : ∀ before after, s = before ++ part ++ after → lead.length ≤ before.length

theorem FirstAt.unique {part s lead tail lead' tail' : String} (h : FirstAt part s lead tail)
    (h' : FirstAt part s lead' tail') : lead = lead' ∧ tail = tail' := by
  have hlength : lead.length = lead'.length :=
    le_antisymm (h.first _ _ h'.eq) (h'.first _ _ h.eq)
  have heq := h.eq.symm.trans h'.eq
  simp only [← String.toList_inj, String.toList_append, List.append_assoc] at heq ⊢
  rw [← String.length_toList, ← String.length_toList] at hlength
  obtain ⟨hlead, hrest⟩ := List.append_inj heq hlength
  exact ⟨hlead, List.append_cancel_left hrest⟩

theorem exists_replaceFirstChars_eq {part cs : List Char} (h : occursInChars part cs) :
    ∃ lead tail, cs = lead ++ (part ++ tail) ∧
      (∀ before after, cs = before ++ (part ++ after) → lead.length ≤ before.length) ∧
      ∀ image, replaceFirstChars part image cs = lead ++ (image ++ tail) := by
  induction cs with
  | nil =>
    obtain rfl : part = [] := List.isEmpty_iff.1 h
    exact ⟨[], [], rfl, by simp, fun image => (List.append_nil image).symm⟩
  | cons c cs ih =>
    cases hafter : afterChars? part (c :: cs) with
    | some rest =>
      have hcs : c :: cs = part ++ rest := afterChars?_eq_some_iff.1 hafter
      refine ⟨[], rest, hcs, by simp, fun image => ?_⟩
      rw [replaceFirstChars, hafter, List.nil_append]
    | none =>
      rw [occursInChars, isPrefixOf_eq_false hafter, Bool.false_or] at h
      obtain ⟨lead, tail, hcs, hfirst, hreplace⟩ := ih h
      refine ⟨c :: lead, tail, by rw [hcs, List.cons_append], fun before after heq => ?_,
        fun image => ?_⟩
      · cases before with
        | nil =>
          have hfound : afterChars? part (c :: cs) = some after := afterChars?_eq_some_iff.2 heq
          rw [hafter] at hfound
          cases hfound
        | cons b before => exact Nat.succ_le_succ (hfirst before after (List.cons.inj heq).2)
      · rw [replaceFirstChars, hafter]
        exact congrArg (c :: ·) (hreplace image)

theorem exists_replaceFirst_eq {part s : String} (h : occursIn part s) :
    ∃ lead tail, FirstAt part s lead tail ∧
      ∀ image, replaceFirst part image s = lead ++ image ++ tail := by
  obtain ⟨lead, tail, hs, hfirst, hreplace⟩ := exists_replaceFirstChars_eq h
  refine ⟨.ofList lead, .ofList tail, ⟨?_, fun before after heq => ?_⟩, fun image => ?_⟩
  · rw [← String.toList_inj]
    simpa using hs
  · have hchars := hfirst before.toList after.toList (by rw [heq]; simp)
    rwa [← String.length_toList, String.toList_ofList, ← String.length_toList]
  · rw [← String.toList_inj]
    simpa [replaceFirst] using hreplace image.toList

end MediaTags.Text
