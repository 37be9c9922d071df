import MediaTags.Proofs.Text.Case
import MediaTags.Vocabulary

/-!
# Labels in front of keys

A canonical key is what is left of a trimmed, uppercase key behind a stack of labels: at most one
for albums, and then those that formats put around keys of their own. Taking the canonical form
again changes nothing, unless a label hid white space or a label for albums.
-/

namespace MediaTags.Vocabulary

open Text

/-! ## Freeform labels -/

theorem afterFreeform?_append {label : List Char} (h : label ∈ freeformLabels) (cs : List Char) :
    afterFreeform? (label ++ cs) = some cs := by
  simp only [freeformLabels, List.mem_cons, List.not_mem_nil, or_false] at h
  rcases h with rfl | rfl | rfl <;> rfl

theorem exists_label_of_afterFreeform? {cs rest : List Char} (h : afterFreeform? cs = some rest) :
    ∃ label ∈ freeformLabels, cs = label ++ rest := by
  obtain ⟨label, hlabel, hrest⟩ := List.exists_of_findSome?_eq_some h
  exact ⟨label, hlabel, afterChars?_eq_some_iff.1 hrest⟩

theorem afterFreeform?_eq_none_iff {cs : List Char} :
    afterFreeform? cs = none ↔ ∀ label ∈ freeformLabels, ¬ label <+: cs := by
  constructor
  · rintro h label hlabel ⟨rest, rfl⟩
    rw [afterFreeform?_append hlabel] at h
    cases h
  · intro h
    by_contra hne
    obtain ⟨rest, hrest⟩ := Option.ne_none_iff_exists'.1 hne
    obtain ⟨label, hlabel, rfl⟩ := exists_label_of_afterFreeform? hrest
    exact h label hlabel ⟨rest, rfl⟩

theorem dropFreeform_eq_self {cs : List Char} (h : ∀ label ∈ freeformLabels, ¬ label <+: cs) :
    dropFreeform cs = cs := by
  unfold dropFreeform
  split
  · next rest hrest =>
    rw [afterFreeform?_eq_none_iff.2 h] at hrest
    cases hrest
  · rfl

theorem dropFreeform_nil : dropFreeform [] = [] := dropFreeform_eq_self (by decide)

theorem dropFreeform_label_append {label : List Char} (h : label ∈ freeformLabels)
    (cs : List Char) : dropFreeform (label ++ cs) = dropFreeform cs := by
  conv_lhs => unfold dropFreeform
  split
  · next rest hrest =>
    rw [afterFreeform?_append h] at hrest
    cases hrest
    rfl
  · next hnone =>
    rw [afterFreeform?_append h] at hnone
    cases hnone

theorem dropFreeform_flatten_append {labels : List (List Char)}
    (h : ∀ label ∈ labels, label ∈ freeformLabels) (cs : List Char) :
    dropFreeform (labels.flatten ++ cs) = dropFreeform cs := by
  induction labels with
  | nil => rfl
  | cons label labels ih =>
    rw [List.flatten_cons, List.append_assoc, dropFreeform_label_append (h label (by simp)),
      ih fun other hother => h other (by simp [hother])]

/-- The labels that are dropped, and that none is left. -/
theorem exists_labels_dropFreeform (cs : List Char) :
    ∃ labels : List (List Char), (∀ label ∈ labels, label ∈ freeformLabels) ∧
      cs = labels.flatten ++ dropFreeform cs ∧
      ∀ label ∈ freeformLabels, ¬ label <+: dropFreeform cs := by
  fun_induction dropFreeform cs with
  | case1 cs rest hrest _ ih =>
    obtain ⟨label, hlabel, rfl⟩ := exists_label_of_afterFreeform? hrest
    obtain ⟨labels, hlabels, happend, hleft⟩ := ih
    refine ⟨label :: labels, ?_, ?_, hleft⟩
    · simpa using ⟨hlabel, hlabels⟩
    · rw [List.flatten_cons, List.append_assoc, ← happend]
  | case2 cs hnone => exact ⟨[], by simp, rfl, afterFreeform?_eq_none_iff.1 hnone⟩

theorem length_dropFreeform_le (cs : List Char) : (dropFreeform cs).length ≤ cs.length := by
  obtain ⟨labels, -, happend, -⟩ := exists_labels_dropFreeform cs
  have := congrArg List.length happend
  simp only [List.length_append] at this
  omega

/-! ## The label for albums -/

/-- Drop a label for albums. -/
def dropAlbum (cs : List Char) : List Char := (afterChars? albumLabel cs).getD cs

theorem canonicalChars_eq (cs : List Char) :
    canonicalChars cs = dropFreeform (dropAlbum (upperChars (trimChars cs))) := rfl

theorem dropAlbum_append (cs : List Char) : dropAlbum (albumLabel ++ cs) = cs := by
  rw [dropAlbum, afterChars?_eq_some_iff.2 rfl, Option.getD_some]

theorem dropAlbum_eq_self {cs : List Char} (h : ¬ albumLabel <+: cs) : dropAlbum cs = cs := by
  cases hafter : afterChars? albumLabel cs with
  | none => rw [dropAlbum, hafter, Option.getD_none]
  | some rest => exact absurd ⟨rest, (afterChars?_eq_some_iff.1 hafter).symm⟩ h

theorem length_dropAlbum_le (cs : List Char) : (dropAlbum cs).length ≤ cs.length := by
  by_cases h : albumLabel <+: cs
  · obtain ⟨rest, rfl⟩ := h
    simp [dropAlbum_append]
  · rw [dropAlbum_eq_self h]

/-- No label starts like another one. -/
theorem not_prefix_of_albumLabel {cs label : List Char} (h : albumLabel <+: cs)
    (hlabel : label ∈ freeformLabels) : ¬ label <+: cs := by
  obtain ⟨rest, rfl⟩ := h
  simp only [freeformLabels, List.mem_cons, List.not_mem_nil, or_false] at hlabel
  rintro ⟨more, hmore⟩
  rcases hlabel with rfl | rfl | rfl <;> cases hmore

theorem not_isBlank_of_mem_label {label : List Char} (h : label ∈ albumLabel :: freeformLabels) :
    ∀ c ∈ label, isBlank c = false := by
  have hall : ∀ label ∈ albumLabel :: freeformLabels, label.all fun c => !isBlank c := by decide
  simpa using hall label h

/-! ## Stacks of labels -/

/-- A row of labels, in any case: at most one for albums, ahead of all others. -/
def IsStack (lead : List Char) : Prop :=
  ∃ (album : List Char) (labels : List (List Char)), (album = [] ∨ album = albumLabel) ∧
    (∀ label ∈ labels, label ∈ freeformLabels) ∧ upperChars lead = album ++ labels.flatten

/-- A key starts with what is only dropped where no label stands in front of it. -/
def Loose (cs : List Char) : Prop :=
  (∃ c ∈ cs.head?, isBlank c) ∨ albumLabel <+: upperChars cs

theorem not_isBlank_of_isStack {lead : List Char} (h : IsStack lead) :
    ∀ c ∈ lead, isBlank c = false := by
  obtain ⟨album, labels, halbum, hlabels, hupper⟩ := h
  intro c hc
  by_contra hblank
  have hmem : c ∈ upperChars lead :=
    List.mem_flatMap.2 ⟨c, hc, by simp [upperChar_of_isBlank (by simpa using hblank)]⟩
  rw [hupper, List.mem_append, List.mem_flatten] at hmem
  obtain hmem | ⟨label, hlabel, hmem⟩ := hmem
  · obtain rfl | rfl := halbum
    · cases hmem
    · exact hblank (not_isBlank_of_mem_label (by simp) c hmem)
  · exact hblank (not_isBlank_of_mem_label (.tail _ (hlabels label hlabel)) c hmem)

/-- Labels are dropped in front of an uppercase key, whatever follows them. -/
theorem dropFreeform_dropAlbum_stack {lead : List Char} (h : IsStack lead) (hne : lead ≠ [])
    (cs : List Char) :
    dropFreeform (dropAlbum (upperChars lead ++ cs)) = dropFreeform cs := by
  obtain ⟨album, labels, rfl | rfl, hlabels, hupper⟩ := h
  · rw [List.nil_append] at hupper
    cases labels with
    | nil =>
      have := length_le_upperChars lead
      simp [hupper, hne] at this
    | cons label labels =>
      have hfree : label ∈ freeformLabels := hlabels label (by simp)
      have hother : ¬ albumLabel <+: upperChars lead ++ cs := fun halbum =>
        not_prefix_of_albumLabel halbum hfree ⟨labels.flatten ++ cs, by simp [hupper]⟩
      rw [dropAlbum_eq_self hother, hupper, dropFreeform_flatten_append hlabels]
  · rw [hupper, List.append_assoc, dropAlbum_append, dropFreeform_flatten_append hlabels]

/-- What the canonical form leaves out of the trimmed, uppercase key is a stack of labels. -/
theorem exists_stack_canonicalChars (cs : List Char) :
    ∃ lead, IsStack lead ∧ upperChars (trimChars cs) = lead ++ canonicalChars cs ∧
      (albumLabel <+: upperChars (trimChars cs) → lead ≠ []) := by
  obtain ⟨labels, hlabels, hdrop, -⟩ :=
    exists_labels_dropFreeform (dropAlbum (upperChars (trimChars cs)))
  rw [← canonicalChars_eq] at hdrop
  by_cases h : albumLabel <+: upperChars (trimChars cs)
  · obtain ⟨rest, hrest⟩ := h
    rw [← hrest, dropAlbum_append] at hdrop
    have hwhole :
        upperChars (trimChars cs) = albumLabel ++ labels.flatten ++ canonicalChars cs := by
      rw [← hrest, hdrop, List.append_assoc]
    have hpart : albumLabel ++ labels.flatten ⊆ upperChars (trimChars cs) :=
      hwhole ▸ List.subset_append_left ..
    refine ⟨_, ⟨albumLabel, labels, .inr rfl, hlabels, upperChars_of_subset hpart⟩, hwhole, ?_⟩
    simp [albumLabel]
  · rw [dropAlbum_eq_self h] at hdrop
    have hpart : labels.flatten ⊆ upperChars (trimChars cs) :=
      hdrop ▸ List.subset_append_left ..
    exact ⟨_, ⟨[], labels, .inl rfl, hlabels, upperChars_of_subset hpart⟩, hdrop, (absurd · h)⟩

/-! ## White space -/

theorem head?_upperChars_not_blank {cs : List Char} (h : ∀ c ∈ cs.head?, isBlank c = false) :
    ∀ d ∈ (upperChars cs).head?, isBlank d = false := by
  cases cs with
  | nil => simp
  | cons c cs =>
    intro d hd
    rw [upperChars_cons, List.head?_append_of_ne_nil _ (upperChar_ne_nil c)] at hd
    by_contra hblank
    have hc : isBlank c = false := h c rfl
    simp [isBlank_of_mem_upperChar (List.mem_of_mem_head? hd) (by simpa using hblank)] at hc

theorem getLast?_canonicalChars_not_blank (cs : List Char) :
    ∀ c ∈ (canonicalChars cs).getLast?, isBlank c = false := by
  obtain ⟨lead, -, hwhole, -⟩ := exists_stack_canonicalChars cs
  intro c hc
  refine getLast?_upperChars_not_blank (getLast?_trimChars_not_blank cs) c ?_
  rw [hwhole]
  exact List.mem_getLast?_append_of_mem_getLast? hc

/-- Blanks at the end of a key are no part of a label. -/
theorem prefix_append_blanks_iff {label cs tail : List Char}
    (hlabel : ∀ c ∈ label, isBlank c = false) (htail : ∀ c ∈ tail, isBlank c) :
    label <+: cs ++ tail ↔ label <+: cs := by
  refine ⟨?_, fun h => h.trans (List.prefix_append ..)⟩
  rintro ⟨rest, hrest⟩
  obtain ⟨more, rfl, -⟩ | ⟨more, rfl, hmore⟩ := List.append_eq_append_iff.1 hrest
  · exact List.prefix_append ..
  · cases more with
    | nil => simp
    | cons c more =>
      have hblank : isBlank c := htail c (by simp [hmore])
      simp [hlabel c (by simp)] at hblank

theorem dropFreeform_blank {c : Char} (hc : isBlank c) (cs : List Char) :
    dropFreeform (c :: cs) = c :: cs := by
  refine dropFreeform_eq_self fun label hlabel ⟨rest, hrest⟩ => ?_
  cases label with
  | nil => exact absurd hlabel (by decide)
  | cons d label =>
    obtain rfl : d = c := (List.cons.inj hrest).1
    simp [not_isBlank_of_mem_label (.tail _ hlabel) d (by simp)] at hc

/-- Uppercasing a key and dropping its freeform labels gives its canonical form, unless it is
loose. -/
theorem dropFreeform_upperChars_eq_iff {front core : List Char} (hfront : ∀ c ∈ front, isBlank c)
    (hne : core ≠ []) (hhead : ∀ c ∈ core.head?, isBlank c = false)
    (hlast : ∀ c ∈ core.getLast?, isBlank c = false) :
    dropFreeform (upperChars (front ++ core)) = canonicalChars (front ++ core) ↔
      ¬ Loose (front ++ core) := by
  rw [canonicalChars_eq, trimChars_blanks_append hfront hne hhead hlast]
  cases front with
  | nil =>
    rw [List.nil_append]
    by_cases halbum : albumLabel <+: upperChars core
    · -- The label for albums is dropped on the right only.
      refine iff_of_false (fun heq => ?_) (not_not_intro (.inr halbum))
      rw [dropFreeform_eq_self fun _ => not_prefix_of_albumLabel halbum] at heq
      obtain ⟨rest, hrest⟩ := halbum
      have hle := length_dropFreeform_le rest
      have hpos : 0 < albumLabel.length := by decide
      rw [← hrest, dropAlbum_append] at heq
      have := congrArg List.length heq
      simp only [List.length_append] at this
      omega
    · rw [dropAlbum_eq_self halbum]
      refine iff_of_true rfl ?_
      rintro (⟨c, hc, hblank⟩ | h)
      · simp [hhead c hc] at hblank
      · exact halbum h
  | cons c front =>
    -- The blanks are dropped on the right only.
    refine iff_of_false (fun heq => ?_) (not_not_intro (.inl ⟨c, rfl, hfront c (by simp)⟩))
    rw [upperChars_append, upperChars_of_blank hfront, List.cons_append,
      dropFreeform_blank (hfront c (by simp))] at heq
    have hfree := length_dropFreeform_le (dropAlbum (upperChars core))
    have hdrop := length_dropAlbum_le (upperChars core)
    have := congrArg List.length heq
    simp only [List.length_cons, List.length_append] at this
    omega

/-! ## Canonical keys -/

theorem not_prefix_canonicalChars (cs : List Char) :
    ∀ label ∈ freeformLabels, ¬ label <+: canonicalChars cs := by
  obtain ⟨-, -, -, h⟩ := exists_labels_dropFreeform (dropAlbum (upperChars (trimChars cs)))
  exact h

theorem canonicalChars_of_blank {cs : List Char} (h : ∀ c ∈ cs, isBlank c) :
    canonicalChars cs = [] := by
  have htrim : trimChars cs = [] := by
    simpa [trim] using trim_eq_empty_iff.2 (show AllBlank (.ofList cs) by simpa [AllBlank] using h)
  rw [canonicalChars_eq, htrim, upperChars_nil]
  exact dropFreeform_nil

theorem upperChars_canonicalChars (cs : List Char) :
    upperChars (canonicalChars cs) = canonicalChars cs := by
  obtain ⟨lead, -, hwhole, -⟩ := exists_stack_canonicalChars cs
  exact upperChars_of_subset (hwhole ▸ List.subset_append_right ..)

/-- A canonical key is its own canonical form unless it is loose. -/
theorem canonicalChars_canonicalChars_iff (cs : List Char) :
    canonicalChars (canonicalChars cs) = canonicalChars cs ↔ ¬ Loose (canonicalChars cs) := by
  have hupper := upperChars_canonicalChars cs
  have hdrop := dropFreeform_eq_self (not_prefix_canonicalChars cs)
  have hlast := getLast?_canonicalChars_not_blank cs
  generalize canonicalChars cs = key at *
  obtain ⟨front, hkey, hfront⟩ := exists_append_trimStartChars key
  have hhead : ∀ c ∈ (trimStartChars key).head?, isBlank c = false := by
    intro c hc
    obtain ⟨rest, hrest⟩ := List.head?_eq_some_iff.1 hc
    exact head_dropWhile_eq_false hrest
  generalize trimStartChars key = core at *
  subst hkey
  obtain rfl | hne := eq_or_ne core []
  · cases front using List.reverseRecOn with
    | nil =>
      refine iff_of_true (canonicalChars_of_blank nofun) ?_
      simp [Loose, albumLabel]
    | append_singleton front c =>
      have hblank := hfront c (by simp)
      simp [hlast c (by simp)] at hblank
  · rw [List.getLast?_append_of_ne_nil _ hne] at hlast
    rw [← dropFreeform_upperChars_eq_iff hfront hne hhead hlast, hupper, hdrop, eq_comm]

theorem loose_append_blanks_iff {front core back : List Char} (hne : core ≠ [])
    (hback : ∀ c ∈ back, isBlank c) : Loose (front ++ (core ++ back)) ↔ Loose (front ++ core) := by
  have hhead : (front ++ (core ++ back)).head? = (front ++ core).head? := by
    rw [← List.append_assoc, List.head?_append_of_ne_nil _ (by simp [hne])]
  rw [Loose, Loose, hhead, ← List.append_assoc, upperChars_append (front ++ core),
    upperChars_of_blank hback, prefix_append_blanks_iff (not_isBlank_of_mem_label (by simp)) hback]

/-- A stack of labels around a key makes no difference, unless the key is loose. -/
theorem canonicalChars_wrapped_iff {outer lead key tail : List Char}
    (houter : ∀ c ∈ outer, isBlank c) (hlead : IsStack lead) (hne : lead ≠ [])
    (htail : ∀ c ∈ tail, isBlank c) :
    canonicalChars (outer ++ (lead ++ (key ++ tail))) = canonicalChars key ↔
      (∀ c ∈ key, isBlank c) ∨ ¬ Loose key := by
  have hseen := not_isBlank_of_isStack hlead
  have hhead (rest : List Char) : ∀ c ∈ (lead ++ rest).head?, isBlank c = false := by
    rw [List.head?_append_of_ne_nil _ hne]
    exact fun c hc => hseen c (List.mem_of_mem_head? hc)
  by_cases hkey : ∀ c ∈ key, isBlank c
  · refine iff_of_true ?_ (.inl hkey)
    have hrest : ∀ c ∈ key ++ tail, isBlank c := fun c hc =>
      (List.mem_append.1 hc).elim (hkey c) (htail c)
    rw [canonicalChars_eq, trimChars_append houter hrest hne (by simpa using hhead [])
      fun c hc => hseen c (List.mem_of_getLast? hc), canonicalChars_of_blank hkey]
    simpa [dropFreeform_nil] using dropFreeform_dropAlbum_stack hlead hne []
  · obtain ⟨front, back, happend, hfront, hback⟩ := exists_append_trimChars key
    have hcore : trimChars key ≠ [] := by
      intro hnil
      rw [hnil, List.nil_append] at happend
      rw [happend] at hkey
      exact hkey fun c hc => (List.mem_append.1 hc).elim (hfront c) (hback c)
    have hfirst := head?_trimChars_not_blank key
    have hlast := getLast?_trimChars_not_blank key
    generalize trimChars key = core at *
    subst happend
    have hends : ∀ c ∈ (lead ++ (front ++ core)).getLast?, isBlank c = false := by
      rw [← List.append_assoc, List.getLast?_append_of_ne_nil _ hcore]
      exact hlast
    have hblanks : ∀ c ∈ back ++ tail, isBlank c := fun c hc =>
      (List.mem_append.1 hc).elim (hback c) (htail c)
    have hwrapped : trimChars (outer ++ (lead ++ ((front ++ (core ++ back)) ++ tail))) =
        lead ++ (front ++ core) := by
      simpa using trimChars_append houter hblanks (by simp [hne]) (hhead _) hends
    have hbare : canonicalChars (front ++ (core ++ back)) = canonicalChars (front ++ core) := by
      rw [canonicalChars_eq, canonicalChars_eq, trimChars_append hfront hback hcore hfirst hlast,
        trimChars_blanks_append hfront hcore hfirst hlast]
    rw [canonicalChars_eq, hwrapped, upperChars_append, dropFreeform_dropAlbum_stack hlead hne,
      hbare, dropFreeform_upperChars_eq_iff hfront hcore hfirst hlast,
      loose_append_blanks_iff hcore hback]
    exact ⟨.inr, fun h => h.resolve_left hkey⟩

@[simp] theorem toList_canonicalKey (key : String) :
    (canonicalKey key).toList = canonicalChars key.toList := by
  simp [canonicalKey]

theorem canonicalKey_eq_iff {key key' : String} :
    canonicalKey key = canonicalKey key' ↔
      canonicalChars key.toList = canonicalChars key'.toList := by
  rw [← String.toList_inj, toList_canonicalKey, toList_canonicalKey]

/-- The canonical form of a key is what is left of it, trimmed and in uppercase, behind a stack of
labels. It has no white space at its end and no freeform label in front. It is its own canonical
form unless it is loose, and then labels hid what it starts with. Labels and white space around a
key make no difference, unless the key is loose. -/
theorem canonicalKey_stack (key : String) :
    (canonicalKey (canonicalKey key) = canonicalKey key ↔ ¬ Loose (canonicalKey key).toList) ∧
    (∀ c ∈ (canonicalKey key).toList.getLast?, isBlank c = false) ∧
    (∀ label ∈ freeformLabels, ¬ label <+: (canonicalKey key).toList) ∧
    (∃ lead : String, IsStack lead.toList ∧ upper (trim key) = lead ++ canonicalKey key ∧
      (Loose (canonicalKey key).toList → lead ≠ "")) ∧
    ∀ outer lead tail : String, AllBlank outer → AllBlank tail → IsStack lead.toList → lead ≠ "" →
      (canonicalKey (outer ++ lead ++ key ++ tail) = canonicalKey key ↔
        AllBlank key ∨ ¬ Loose key.toList) := by
  refine ⟨?_, ?_, ?_, ?_, ?_⟩
  · rw [canonicalKey_eq_iff, toList_canonicalKey, canonicalChars_canonicalChars_iff]
  · rw [toList_canonicalKey]
    exact getLast?_canonicalChars_not_blank key.toList
  · rw [toList_canonicalKey]
    exact not_prefix_canonicalChars key.toList
  · obtain ⟨lead, hstack, hwhole, halbum⟩ := exists_stack_canonicalChars key.toList
    refine ⟨.ofList lead, by simpa using hstack, String.toList_inj.1 (by simpa using hwhole), ?_⟩
    rintro hloose hlead
    obtain rfl : lead = [] := by simpa using hlead
    rw [List.nil_append] at hwhole
    rw [toList_canonicalKey, Loose, upperChars_canonicalChars, ← hwhole] at hloose
    obtain ⟨c, hc, hblank⟩ | hloose := hloose
    · simp [head?_upperChars_not_blank (head?_trimChars_not_blank key.toList) c hc] at hblank
    · exact halbum hloose rfl
  · intro outer lead tail houter htail hlead hne
    have hchars : lead.toList ≠ [] := by simpa using hne
    rw [canonicalKey_eq_iff]
    simpa [AllBlank] using @canonicalChars_wrapped_iff _ _ key.toList _ houter hlead hchars htail

/-- White space and labels of both kinds, in mixed case, around a bare key. -/
theorem canonicalKey_wrapped_title :
    canonicalKey " album/TXXX:----:Title\t" = canonicalKey "Title" := by
  have hstack : IsStack "album/TXXX:----:".toList :=
    ⟨albumLabel, ["TXXX:".toList, "----:".toList], .inr rfl, by decide, by decide +kernel⟩
  have hloose : ¬ Loose "Title".toList := by
    rintro (⟨c, hc, h⟩ | h)
    · obtain rfl : 'T' = c := by simpa using hc
      exact absurd h (by decide)
    · exact absurd h (by decide +kernel)
  obtain ⟨-, -, -, -, hwrapped⟩ := canonicalKey_stack "Title"
  exact (hwrapped " " "album/TXXX:----:" "\t" (by decide) (by decide) hstack (by decide)).2
    (.inr hloose)

/-- A second label for albums is kept, and so is white space behind a label. -/
theorem canonicalKey_albums_twice :
    canonicalKey "ALBUM/ALBUM/TITLE" = "ALBUM/TITLE" ∧
      canonicalKey (canonicalKey "ALBUM/ALBUM/TITLE") ≠ canonicalKey "ALBUM/ALBUM/TITLE" ∧
      canonicalKey "ALBUM/ TITLE" = " TITLE" ∧
      canonicalKey (canonicalKey "ALBUM/ TITLE") ≠ canonicalKey "ALBUM/ TITLE" := by
  decide +kernel

end MediaTags.Vocabulary
