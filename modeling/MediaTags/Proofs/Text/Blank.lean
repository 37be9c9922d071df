import Mathlib.Data.List.DropRight
import Mathlib.Tactic
import MediaTags.Text.Blank

/-!
# Trimming twice

A trimmed text has no blank at its ends, so trimming it again changes nothing.
-/

namespace MediaTags.Text

theorem dropEndWhile_eq_rdropWhile (p : Char → Bool) (cs : List Char) :
    dropEndWhile p cs = cs.rdropWhile p := rfl

theorem dropEndWhile_prefix (p : Char → Bool) (cs : List Char) : dropEndWhile p cs <+: cs :=
  List.rdropWhile_prefix p cs

@[simp] theorem dropEndWhile_dropEndWhile (p : Char → Bool) (cs : List Char) :
    dropEndWhile p (dropEndWhile p cs) = dropEndWhile p cs :=
  List.rdropWhile_idempotent p cs

/-- A text whose last character stays keeps all of its characters. -/
theorem dropEndWhile_eq_self {p : Char → Bool} {cs : List Char}
    (h : ∀ c, cs.getLast? = some c → p c = false) : dropEndWhile p cs = cs := by
  rw [dropEndWhile_eq_rdropWhile, List.rdropWhile_eq_self_iff]
  intro hne
  simp [h _ (List.getLast?_eq_some_getLast hne)]

/-- A text that does not end like a padded one has no padding. -/
theorem dropEndWhile_nul_eq_self {cs : List Char} (h : cs.getLast? ≠ some (Char.ofNat 0)) :
    dropEndWhile (· == Char.ofNat 0) cs = cs := by
  refine dropEndWhile_eq_self fun c hc => ?_
  rw [hc] at h
  simpa using h

theorem dropNulPadding_eq_self {s : String} (h : s.toList.getLast? ≠ some (Char.ofNat 0)) :
    dropNulPadding s = s := by
  rw [dropNulPadding, dropEndWhile_nul_eq_self h, String.ofList_toList]

/-- The first character that is left was not dropped. -/
theorem head_dropWhile_eq_false {p : Char → Bool} {c : Char} {cs rest : List Char}
    (h : cs.dropWhile p = c :: rest) : p c = false := by
  have := List.head?_dropWhile_not p cs
  simpa [h] using this

@[simp] theorem trimChars_trimChars (cs : List Char) :
    trimChars (trimChars cs) = trimChars cs := by
  have hstart : trimStartChars (trimChars cs) = trimChars cs := by
    match h : trimChars cs with
    | [] => rfl
    | c :: rest =>
      have hpre : c :: rest <+: trimStartChars cs := h ▸ dropEndWhile_prefix ..
      obtain ⟨more, hmore⟩ := hpre
      have hdrop : cs.dropWhile isBlank = c :: (rest ++ more) := hmore.symm
      have hc : isBlank c = false := head_dropWhile_eq_false hdrop
      simp [trimStartChars, hc]
  rw [trimChars, hstart]
  exact dropEndWhile_dropEndWhile ..

theorem trimChars_infix (cs : List Char) : trimChars cs <:+: cs := by
  have hstart : trimStartChars cs <:+ cs := List.dropWhile_suffix isBlank
  have hend : trimChars cs <+: trimStartChars cs := dropEndWhile_prefix ..
  exact hend.isInfix.trans hstart.isInfix

theorem trim_empty : trim "" = "" := rfl

@[simp] theorem trim_trim (s : String) : trim (trim s) = trim s := by
  simp [trim]

/-- A text whose first character stays keeps all of its characters. -/
theorem dropWhile_eq_self {p : Char → Bool} {cs : List Char}
    (h : ∀ c ∈ cs.head?, p c = false) : cs.dropWhile p = cs := by
  cases cs with
  | nil => rfl
  | cons c cs => exact List.dropWhile_cons_of_neg (by simpa using h)

/-- What is taken ends where the first character that does not satisfy `p` stands. -/
theorem takeWhile_append_eq {p : Char → Bool} {cs rest : List Char} (hcs : ∀ c ∈ cs, p c)
    (hrest : ∀ c ∈ rest.head?, p c = false) : (cs ++ rest).takeWhile p = cs := by
  have hstop : rest.takeWhile p = [] := by
    cases rest with
    | nil => rfl
    | cons c rest => exact List.takeWhile_cons_of_neg (by simpa using hrest)
  rw [List.takeWhile_append_of_pos hcs, hstop, List.append_nil]

theorem trimEndChars_append {cs tail : List Char} (htail : ∀ c ∈ tail, isBlank c)
    (hlast : ∀ c ∈ cs.getLast?, isBlank c = false) : trimEndChars (cs ++ tail) = cs := by
  rw [trimEndChars, dropEndWhile, List.reverse_append,
    List.dropWhile_append_of_pos (by simpa using htail), dropWhile_eq_self (by simpa using hlast),
    List.reverse_reverse]

/-- Trimming gives back a text that blanks were put around. -/
theorem trimChars_append {lead cs tail : List Char} (hlead : ∀ c ∈ lead, isBlank c)
    (htail : ∀ c ∈ tail, isBlank c) (hne : cs ≠ []) (hhead : ∀ c ∈ cs.head?, isBlank c = false)
    (hlast : ∀ c ∈ cs.getLast?, isBlank c = false) : trimChars (lead ++ (cs ++ tail)) = cs := by
  have hstart : trimStartChars (lead ++ (cs ++ tail)) = cs ++ tail := by
    rw [trimStartChars, List.dropWhile_append_of_pos hlead]
    refine dropWhile_eq_self fun c hc => hhead c ?_
    rwa [List.head?_append_of_ne_nil _ hne] at hc
  rw [trimChars, hstart, trimEndChars_append htail hlast]

theorem trimChars_blanks_append {blanks cs : List Char} (hblanks : ∀ c ∈ blanks, isBlank c)
    (hne : cs ≠ []) (hhead : ∀ c ∈ cs.head?, isBlank c = false)
    (hlast : ∀ c ∈ cs.getLast?, isBlank c = false) : trimChars (blanks ++ cs) = cs := by
  simpa using @trimChars_append blanks cs [] hblanks nofun hne hhead hlast

/-- Trimming loses no character that is not blank. -/
theorem countP_trimChars {q : Char → Bool} (hq : ∀ c, isBlank c → q c = false) (cs : List Char) :
    (trimChars cs).countP q = cs.countP q := by
  have hdrop (l : List Char) : (l.dropWhile isBlank).countP q = l.countP q := by
    induction l with
    | nil => rfl
    | cons c l ih =>
      cases hc : isBlank c with
      | true => rw [List.dropWhile_cons_of_pos hc, ih, List.countP_cons_of_neg (by simp [hq c hc])]
      | false => rw [List.dropWhile_cons_of_neg (by simp [hc])]
  rw [trimChars, trimEndChars, dropEndWhile, List.countP_reverse, hdrop, List.countP_reverse,
    trimStartChars, hdrop]

theorem exists_append_trimStartChars (cs : List Char) :
    ∃ blanks, cs = blanks ++ trimStartChars cs ∧ ∀ c ∈ blanks, isBlank c :=
  ⟨cs.takeWhile isBlank, List.takeWhile_append_dropWhile.symm, fun _ => List.mem_takeWhile_imp⟩

theorem exists_append_trimEndChars (cs : List Char) :
    ∃ blanks, cs = trimEndChars cs ++ blanks ∧ ∀ c ∈ blanks, isBlank c := by
  obtain ⟨blanks, hcs, hblanks⟩ := exists_append_trimStartChars cs.reverse
  refine ⟨blanks.reverse, ?_, by simpa using hblanks⟩
  calc cs = cs.reverse.reverse := cs.reverse_reverse.symm
    _ = (blanks ++ trimStartChars cs.reverse).reverse := congrArg List.reverse hcs
    _ = trimEndChars cs ++ blanks.reverse := List.reverse_append

/-- A text is its trimmed form with blanks around it. -/
theorem exists_append_trimChars (cs : List Char) :
    ∃ front back, cs = front ++ (trimChars cs ++ back) ∧ (∀ c ∈ front, isBlank c) ∧
      ∀ c ∈ back, isBlank c := by
  obtain ⟨front, hfront, hblank⟩ := exists_append_trimStartChars cs
  obtain ⟨back, hback, hblank'⟩ := exists_append_trimEndChars (trimStartChars cs)
  exact ⟨front, back, by rw [trimChars, ← hback, ← hfront], hblank, hblank'⟩

theorem head?_trimChars_not_blank (cs : List Char) :
    ∀ c ∈ (trimChars cs).head?, isBlank c = false := by
  intro c hc
  obtain ⟨rest, hrest⟩ := List.head?_eq_some_iff.1 hc
  obtain ⟨more, hmore⟩ : c :: rest <+: trimStartChars cs := hrest ▸ dropEndWhile_prefix ..
  exact head_dropWhile_eq_false (hmore.symm : cs.dropWhile isBlank = c :: (rest ++ more))

theorem getLast?_trimEndChars_not_blank (cs : List Char) :
    ∀ c ∈ (trimEndChars cs).getLast?, isBlank c = false := by
  intro c hc
  obtain ⟨hne, rfl⟩ := List.mem_getLast?_eq_getLast hc
  exact Bool.eq_false_of_not_eq_true (List.rdropWhile_last_not isBlank _ hne)

theorem getLast?_trimChars_not_blank (cs : List Char) :
    ∀ c ∈ (trimChars cs).getLast?, isBlank c = false :=
  getLast?_trimEndChars_not_blank (trimStartChars cs)

/-- No blank stands at either end. -/
def IsTrimmed (s : String) : Prop :=
  (∀ c ∈ s.toList.head?, isBlank c = false) ∧ ∀ c ∈ s.toList.getLast?, isBlank c = false

theorem isTrimmed_of_forall {s : String} (h : ∀ c ∈ s.toList, isBlank c = false) : IsTrimmed s :=
  ⟨fun c hc => h c (List.mem_of_mem_head? hc), fun c hc => h c (List.mem_of_getLast? hc)⟩

theorem isTrimmed_trim (s : String) : IsTrimmed (trim s) := by
  rw [IsTrimmed, toList_trim]
  exact ⟨head?_trimChars_not_blank s.toList, getLast?_trimChars_not_blank s.toList⟩

/-- A trimmed text is empty or has a character that is not blank. -/
theorem IsTrimmed.exists_not_blank {s : String} (h : IsTrimmed s) (hne : s ≠ "") :
    ∃ c ∈ s.toList, isBlank c = false := by
  cases hs : s.toList with
  | nil => exact absurd (String.toList_eq_nil_iff.1 hs) hne
  | cons c rest => exact ⟨c, by simp, h.1 c (by simp [hs])⟩

theorem present?_eq_some_iff {s t : String} : present? s = some t ↔ t = trim s ∧ t ≠ "" := by
  simp only [present?, String.isEmpty_iff]
  split <;> grind

/-- A text that was found present is present, and is its own trimmed form. -/
theorem present?_of_present? {s t : String} (h : present? s = some t) : present? t = some t := by
  obtain ⟨rfl, hne⟩ := present?_eq_some_iff.1 h
  exact present?_eq_some_iff.2 ⟨(trim_trim s).symm, hne⟩

theorem present?_eq_none_iff {s : String} : present? s = none ↔ trim s = "" := by
  simp [present?]

theorem present?_append {s : String} {lead tail : List Char} (hlead : ∀ c ∈ lead, isBlank c)
    (htail : ∀ c ∈ tail, isBlank c) (hs : IsTrimmed s) (hne : s ≠ "") :
    present? (.ofList (lead ++ (s.toList ++ tail))) = some s := by
  rw [present?_eq_some_iff, trim, String.toList_ofList,
    trimChars_append hlead htail (by simpa using hne) hs.1 hs.2, String.ofList_toList]
  exact ⟨rfl, hne⟩

theorem IsTrimmed.present? {s : String} (hs : IsTrimmed s) (hne : s ≠ "") :
    present? s = some s := by
  have hnone : ∀ c ∈ ([] : List Char), isBlank c := by simp
  simpa using present?_append hnone hnone hs hne

/-- A text of which nothing is left has blanks only. -/
theorem isBlank_of_present?_eq_none {s : String} (h : present? s = none) :
    ∀ c ∈ s.toList, isBlank c := by
  have hnil : trimChars s.toList = [] := by simpa [trim] using present?_eq_none_iff.1 h
  have hcount := countP_trimChars (q := fun c => !isBlank c) (by simp) s.toList
  rw [hnil, List.countP_nil, eq_comm, List.countP_eq_zero] at hcount
  simpa using hcount

theorem isSome_present?_of_mem {s : String} {c : Char} (hc : c ∈ s.toList)
    (hblank : isBlank c = false) : (present? s).isSome := by
  by_contra h
  have hnone : present? s = none := by simpa using h
  simpa [hblank] using isBlank_of_present?_eq_none hnone c hc

theorem isTrimmed_of_present? {s t : String} (h : present? s = some t) : IsTrimmed t :=
  (present?_eq_some_iff.1 h).1 ▸ isTrimmed_trim s

/-- No character of a text can be seen. -/
def AllBlank (s : String) : Prop := ∀ c ∈ s.toList, isBlank c

instance (s : String) : Decidable (AllBlank s) :=
  decidable_of_iff (s.toList.all isBlank) List.all_eq_true

theorem allBlank_append {s t : String} : AllBlank (s ++ t) ↔ AllBlank s ∧ AllBlank t := by
  simp [AllBlank, or_imp, forall_and]

theorem exists_append_trimEnd (s : String) :
    ∃ blanks, s = trimEnd s ++ blanks ∧ AllBlank blanks := by
  obtain ⟨blanks, hs, hblanks⟩ := exists_append_trimEndChars s.toList
  refine ⟨.ofList blanks, ?_, by simpa [AllBlank] using hblanks⟩
  rw [← String.toList_inj]
  simpa [trimEnd] using hs

/-- A text that can be seen ends in a character that can, once it is trimmed there. -/
theorem exists_getLast?_trimEnd {s : String} (h : ¬ AllBlank s) :
    ∃ c, (trimEnd s).toList.getLast? = some c ∧ isBlank c = false := by
  obtain ⟨blanks, hs, hblanks⟩ := exists_append_trimEnd s
  cases hlast : (trimEnd s).toList.getLast? with
  | some c =>
    have hchars : (trimEndChars s.toList).getLast? = some c := by simpa [trimEnd] using hlast
    exact ⟨c, rfl, getLast?_trimEndChars_not_blank s.toList c hchars⟩
  | none =>
    have hempty : trimEnd s = "" := String.toList_eq_nil_iff.1 (List.getLast?_eq_none_iff.1 hlast)
    rw [hempty, String.empty_append] at hs
    exact absurd (hs ▸ hblanks) h

theorem present?_eq_none_iff_allBlank {s : String} : present? s = none ↔ AllBlank s := by
  constructor
  · exact isBlank_of_present?_eq_none
  · intro hblank
    by_contra hne
    obtain ⟨t, ht⟩ := Option.ne_none_iff_exists'.1 hne
    obtain ⟨htrim, hnonempty⟩ := present?_eq_some_iff.1 ht
    obtain ⟨c, hc, hseen⟩ := (isTrimmed_of_present? ht).exists_not_blank hnonempty
    rw [htrim, toList_trim] at hc
    have hinfix := trimChars_infix s.toList
    have hmem : c ∈ s.toList := hinfix.mem hc
    simp [hblank c hmem] at hseen

theorem trim_eq_empty_iff {s : String} : trim s = "" ↔ AllBlank s := by
  rw [← present?_eq_none_iff, present?_eq_none_iff_allBlank]

end MediaTags.Text
