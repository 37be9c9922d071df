import MediaTags.Proofs.Text.Blank
import MediaTags.Separators

/-!
# Texts are cut leftmost first and longest first

A text is a sequence of gaps with delimiters between them. Each delimiter starts where the first
one in the rest of the text does, and no longer one starts there. A text has one such sequence
only, so that it does not matter in which order the delimiters are listed, or how often.
-/

namespace MediaTags.Separators

variable {ds : List (List Char)}

/-- An empty text is no delimiter. -/
def IsDelimiter (ds : List (List Char)) (d : List Char) : Prop := d ∈ ds ∧ d ≠ []

theorem isDelimiter_cons {first d : List Char} :
    IsDelimiter (first :: ds) d ↔ (d = first ∧ first ≠ []) ∨ IsDelimiter ds d := by
  simp only [IsDelimiter, List.mem_cons]
  grind

/-- No delimiter occurs in a text. -/
def Free (ds : List (List Char)) (cs : List Char) : Prop := ∀ d, IsDelimiter ds d → ¬ d <:+: cs

theorem Free.mono {cs part : List Char} (h : Free ds cs) (hpart : part <:+: cs) :
    Free ds part :=
  fun d hd hin => h d hd (hin.trans hpart)

/-- No delimiter starts among the characters of `gap`, where `cs` follows them. -/
def NoneStarts (ds : List (List Char)) (gap cs : List Char) : Prop :=
  ∀ d, IsDelimiter ds d → ∀ pre post, gap ++ cs = pre ++ (d ++ post) → gap.length ≤ pre.length

theorem NoneStarts.free {gap cs : List Char} (h : NoneStarts ds gap cs) : Free ds gap := by
  rintro d hd ⟨pre, post, rfl⟩
  have hle := h d hd pre (post ++ cs) (by simp)
  have hpos : 0 < d.length := List.length_pos_iff.2 hd.2
  simp only [List.length_append] at hle
  omega

/-- `d` is a delimiter in front of `rest`, and no longer one starts where it does. -/
structure Longest (ds : List (List Char)) (d rest : List Char) : Prop where
  isDelimiter : IsDelimiter ds d
  length_le : ∀ other, IsDelimiter ds other → other <+: d ++ rest → other.length ≤ d.length

/-- The gaps of a text and the delimiters found between them. -/
inductive Cuts (ds : List (List Char)) :
    List Char → List (List Char) → List (List Char) → Prop where
  | last {gap : List Char} (free : Free ds gap) : Cuts ds gap [gap] []
  | cut {gap d rest : List Char} {gaps found : List (List Char)}
      (leftmost : NoneStarts ds gap (d ++ rest)) (longest : Longest ds d rest)
      (more : Cuts ds rest gaps found) :
      Cuts ds (gap ++ (d ++ rest)) (gap :: gaps) (d :: found)

/-! ## The delimiter in front -/

theorem not_prefix_of_afterDelimiter? {cs : List Char} (h : afterDelimiter? ds cs = none) :
    ∀ d, IsDelimiter ds d → ¬ d <+: cs := by
  induction ds with
  | nil => exact fun d hd => absurd hd.1 List.not_mem_nil
  | cons first ds ih =>
    simp only [afterDelimiter?] at h
    rintro d hd ⟨rest, hrest⟩
    split at h
    · split at h <;> cases h
    · next r hr hnone =>
      rcases isDelimiter_cons.1 hd with ⟨rfl, hne⟩ | hd
      · simp [hne] at h
      · exact ih hnone d hd ⟨rest, hrest⟩
    · next hr =>
      rcases isDelimiter_cons.1 hd with ⟨rfl, -⟩ | hd
      · rw [Text.afterChars?_eq_some_iff.2 hrest.symm] at hr
        cases hr
      · exact ih h d hd ⟨rest, hrest⟩

theorem Longest.cons_of_length_le {first d rest : List Char} (h : Longest ds d rest)
    (hfirst : first ≠ [] → first <+: d ++ rest → first.length ≤ d.length) :
    Longest (first :: ds) d rest := by
  refine ⟨isDelimiter_cons.2 (.inr h.isDelimiter), fun other ho hpre => ?_⟩
  rcases isDelimiter_cons.1 ho with ⟨rfl, hne⟩ | ho
  · exact hfirst hne hpre
  · exact h.length_le other ho hpre

theorem Longest.cons_self {first rest : List Char} (hne : first ≠ [])
    (hds : ∀ other, IsDelimiter ds other → other <+: first ++ rest →
      other.length ≤ first.length) : Longest (first :: ds) first rest := by
  refine ⟨isDelimiter_cons.2 (.inl ⟨rfl, hne⟩), fun other ho hpre => ?_⟩
  rcases isDelimiter_cons.1 ho with ⟨rfl, -⟩ | ho
  · exact le_rfl
  · exact hds other ho hpre

theorem longest_of_afterDelimiter? {cs rest : List Char}
    (h : afterDelimiter? ds cs = some rest) : ∃ d, cs = d ++ rest ∧ Longest ds d rest := by
  induction ds generalizing rest with
  | nil => cases h
  | cons first ds ih =>
    simp only [afterDelimiter?] at h
    split at h
    · next r best hr hbest =>
      have hfirst : cs = first ++ r := Text.afterChars?_eq_some_iff.1 hr
      obtain ⟨d, hd, hlongest⟩ := ih hbest
      -- The delimiter that leaves less of the text is the longer one.
      have hlen : first.length + r.length = d.length + best.length := by
        rw [← List.length_append, ← List.length_append, ← hfirst, hd]
      split at h
      · next hskip =>
        cases h
        refine ⟨d, hd, hlongest.cons_of_length_le fun hne _ => ?_⟩
        simp [hne] at hskip
        omega
      · next htake =>
        cases h
        simp only [Bool.or_eq_true, List.isEmpty_iff, decide_eq_true_eq, not_or] at htake
        refine ⟨first, hfirst, .cons_self htake.1 fun other ho hpre => ?_⟩
        have := hlongest.length_le other ho (by rwa [← hd, hfirst])
        omega
    · next r hr hnone =>
      have hfirst : cs = first ++ r := Text.afterChars?_eq_some_iff.1 hr
      split at h
      · cases h
      · next hne =>
        cases h
        refine ⟨first, hfirst, .cons_self (by simpa using hne) fun other ho hpre => ?_⟩
        exact absurd (hfirst ▸ hpre) (not_prefix_of_afterDelimiter? hnone other ho)
    · next hr =>
      obtain ⟨d, hd, hlongest⟩ := ih h
      refine ⟨d, hd, hlongest.cons_of_length_le fun _ hpre => ?_⟩
      obtain ⟨more, hmore⟩ := hpre
      rw [Text.afterChars?_eq_some_iff.2 (hd.trans hmore.symm)] at hr
      cases hr

/-! ## The gaps -/

theorem NoneStarts.nil (cs : List Char) : NoneStarts ds [] cs :=
  fun _ _ _ _ _ => Nat.zero_le _

/-- A gap grows by a character at which no delimiter starts. -/
theorem NoneStarts.snoc {gap cs : List Char} {c : Char} (h : NoneStarts ds gap (c :: cs))
    (hnone : ∀ d, IsDelimiter ds d → ¬ d <+: c :: cs) : NoneStarts ds (gap ++ [c]) cs := by
  intro d hd pre post heq
  rw [List.append_assoc, List.singleton_append] at heq
  have hle : gap.length ≤ pre.length := h d hd pre post heq
  have hne : gap.length ≠ pre.length := by
    intro hlen
    obtain ⟨-, hcs⟩ := List.append_inj heq hlen
    exact hnone d hd ⟨post, hcs.symm⟩
  rw [List.length_append, List.length_singleton]
  omega

/-- `done` holds the gaps before, and `gap` is the one that is being read. -/
theorem exists_cuts_gapsFrom (done : List (List Char)) (gap cs : List Char)
    (h : NoneStarts ds gap.reverse cs) :
    ∃ gaps found, gapsFrom ds done gap cs = done.reverse ++ gaps ∧
      Cuts ds (gap.reverse ++ cs) gaps found := by
  fun_induction gapsFrom ds done gap cs with
  | case1 done gap =>
    refine ⟨[gap.reverse], [], by simp, ?_⟩
    rw [List.append_nil]
    exact .last h.free
  | case2 done gap c cs rest hrest ih =>
    obtain ⟨d, hcs, hlongest⟩ := longest_of_afterDelimiter? hrest
    obtain ⟨gaps, found, hgaps, hcuts⟩ := ih (.nil rest)
    rw [hcs] at h ⊢
    exact ⟨gap.reverse :: gaps, d :: found, by simpa using hgaps, .cut h hlongest hcuts⟩
  | case3 done gap c cs hnone ih =>
    rw [List.reverse_cons, List.append_assoc] at ih
    exact ih (h.snoc (not_prefix_of_afterDelimiter? hnone))

theorem exists_cuts_gaps (ds : List (List Char)) (cs : List Char) :
    ∃ found, Cuts ds cs (gaps ds cs) found := by
  obtain ⟨gs, found, hgaps, hcuts⟩ := exists_cuts_gapsFrom [] [] cs (.nil cs)
  exact ⟨found, by rwa [gaps, hgaps]⟩

namespace Cuts

variable {cs : List Char} {gaps found gaps' found' : List (List Char)}

/-- Gaps and delimiters by turns make up the text. -/
theorem flatten_eq (h : Cuts ds cs gaps found) :
    (List.zipWith (· ++ ·) gaps (found ++ [[]])).flatten = cs := by
  induction h with
  | last => simp
  | cut _ _ _ ih => simp [ih]

theorem free_of_mem (h : Cuts ds cs gaps found) : ∀ gap ∈ gaps, Free ds gap := by
  induction h with
  | last free => simpa using free
  | cut leftmost _ _ ih => simpa using ⟨leftmost.free, ih⟩

/-- A text can be cut in one way only. -/
theorem unique (h : Cuts ds cs gaps found) (h' : Cuts ds cs gaps' found') :
    gaps' = gaps ∧ found' = found := by
  induction h generalizing gaps' found' with
  | last free =>
    cases h' with
    | last => exact ⟨rfl, rfl⟩
    | cut _ longest _ => exact absurd (List.infix_append' ..) (free _ longest.isDelimiter)
  | @cut gap d rest gaps found leftmost longest more ih =>
    generalize hcs : gap ++ (d ++ rest) = cs at h'
    cases h' with
    | last free => exact absurd ⟨gap, rest, by simpa using hcs⟩ (free d longest.isDelimiter)
    | @cut gap' d' rest' _ _ leftmost' longest' more' =>
      have hlen : gap.length = gap'.length :=
        le_antisymm (leftmost d' longest'.isDelimiter gap' rest' hcs)
          (leftmost' d longest.isDelimiter gap rest hcs.symm)
      obtain ⟨rfl, hrest⟩ := List.append_inj hcs hlen
      have hle : d'.length ≤ d.length :=
        longest.length_le d' longest'.isDelimiter ⟨rest', hrest.symm⟩
      have hge : d.length ≤ d'.length :=
        longest'.length_le d longest.isDelimiter ⟨rest, hrest⟩
      obtain ⟨rfl, rfl⟩ := List.append_inj hrest (le_antisymm hge hle)
      obtain ⟨rfl, rfl⟩ := ih more'
      exact ⟨rfl, rfl⟩

/-- Only which delimiters there are matters. -/
theorem congr {es : List (List Char)} (hds : ∀ d, IsDelimiter ds d ↔ IsDelimiter es d)
    (h : Cuts ds cs gaps found) : Cuts es cs gaps found := by
  induction h with
  | last free => exact .last fun d hd => free d ((hds d).2 hd)
  | cut leftmost longest _ ih =>
    refine .cut (fun d hd => leftmost d ((hds d).2 hd)) ⟨(hds _).1 longest.isDelimiter, ?_⟩ ih
    exact fun other ho => longest.length_le other ((hds other).2 ho)

end Cuts

theorem gaps_congr {es : List (List Char)} (hds : ∀ d, IsDelimiter ds d ↔ IsDelimiter es d)
    (cs : List Char) : gaps ds cs = gaps es cs := by
  obtain ⟨_, h⟩ := exists_cuts_gaps ds cs
  obtain ⟨_, h'⟩ := exists_cuts_gaps es cs
  exact (h'.unique (h.congr hds)).1

/-! ## The values in a text -/

theorem splitWith_eq (s : Separators) (value : String) (extra : List String) :
    s.splitWith value extra =
      ((gaps ((s.delimiters ++ extra).map String.toList) value.toList).map
        fun gap => Text.trim (.ofList gap)).filter (· ≠ "") := by
  rw [splitWith]
  induction gaps ((s.delimiters ++ extra).map String.toList) value.toList with
  | nil => rfl
  | cons gap rest ih =>
    rw [List.filterMap_cons, List.map_cons, List.filter_cons, ih]
    by_cases h : Text.trim (.ofList gap) = "" <;> simp [Text.present?, h]

theorem isDelimiter_map_toList {l : List String} {d : List Char} :
    IsDelimiter (l.map String.toList) d ↔ String.ofList d ∈ l ∧ String.ofList d ≠ "" := by
  simp only [IsDelimiter, List.mem_map]
  constructor
  · rintro ⟨⟨t, ht, rfl⟩, hne⟩
    simpa [ht] using hne
  · rintro ⟨hd, hne⟩
    exact ⟨⟨_, hd, String.toList_ofList⟩, by rintro rfl; exact hne rfl⟩

/-- A value is the gaps between the delimiters found in it, leftmost first and longest first, and
its pieces are these gaps, trimmed and without the blank ones. So pieces hold no delimiter, and the
order and the number of times in which delimiters are listed do not matter. -/
theorem splitWith_leftmost_longest (s : Separators) (value : String) (extra : List String) :
    let ds := (s.delimiters ++ extra).map String.toList
    (∃ gaps found, Cuts ds value.toList gaps found ∧
      (List.zipWith (· ++ ·) gaps (found ++ [[]])).flatten = value.toList ∧
      (∀ gap ∈ gaps, Free ds gap) ∧
      s.splitWith value extra =
        (gaps.map fun gap => Text.trim (.ofList gap)).filter (· ≠ "")) ∧
    (∀ piece ∈ s.splitWith value extra,
      Text.trim piece = piece ∧ piece ≠ "" ∧ Free ds piece.toList) ∧
    ∀ (t : Separators) (more : List String),
      (∀ d, d ≠ "" → (d ∈ s.delimiters ++ extra ↔ d ∈ t.delimiters ++ more)) →
      t.splitWith value more = s.splitWith value extra := by
  intro ds
  obtain ⟨found, hcuts⟩ := exists_cuts_gaps ds value.toList
  refine ⟨⟨_, found, hcuts, hcuts.flatten_eq, hcuts.free_of_mem, s.splitWith_eq value extra⟩,
    ?_, ?_⟩
  · intro piece hpiece
    rw [splitWith_eq, List.mem_filter, List.mem_map] at hpiece
    obtain ⟨⟨gap, hgap, rfl⟩, hne⟩ := hpiece
    refine ⟨Text.trim_trim _, by simpa using hne, (hcuts.free_of_mem gap hgap).mono ?_⟩
    simpa using Text.trimChars_infix gap
  · intro t more hsame
    have hds : ∀ d, IsDelimiter ((t.delimiters ++ more).map String.toList) d ↔
        IsDelimiter ds d := by
      intro d
      rw [isDelimiter_map_toList, isDelimiter_map_toList]
      have := hsame (.ofList d)
      tauto
    rw [splitWith_eq, splitWith_eq, gaps_congr hds]

example : standard.splitWith "xabcy" ["ab", "abc"] = ["x", "y"] := by cbv

end MediaTags.Separators
