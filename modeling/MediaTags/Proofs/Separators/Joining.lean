import MediaTags.Normalize
import MediaTags.Proofs.Separators.LeftmostLongest

/-!
# Joined names are cut apart again

Joining puts a slash between names, with a blank on each side of it. The slash is a delimiter and
part of no other one, so a joined text comes apart at its slashes and gives the names back, unless
a name makes a delimiter together with the blanks next to it: `with B` holds none, but it does once
a blank stands in front.
-/

namespace MediaTags.Separators

variable {ds : List (List Char)}

/-! ## Marks -/

/-- A character is a mark if it is a delimiter and no other delimiter has it. -/
structure IsMark (ds : List (List Char)) (c : Char) : Prop where
  isDelimiter : IsDelimiter ds [c]
  eq_of_mem : ∀ d, IsDelimiter ds d → c ∈ d → d = [c]

namespace IsMark

variable {c : Char}

theorem not_mem_of_free (h : IsMark ds c) {cs : List Char} (hfree : Free ds cs) : c ∉ cs := by
  intro hmem
  obtain ⟨pre, post, rfl⟩ := List.append_of_mem hmem
  exact hfree _ h.isDelimiter ⟨pre, post, by simp⟩

/-- No delimiter starts in a gap and reaches over the mark behind it. -/
theorem noneStarts (h : IsMark ds c) {gap rest : List Char} (hfree : Free ds gap) :
    NoneStarts ds gap ([c] ++ rest) := by
  intro d hd pre post heq
  by_contra! hlt
  obtain ⟨part, rfl⟩ : pre <+: gap :=
    List.prefix_of_prefix_length_le ⟨d ++ post, heq.symm⟩ (List.prefix_append ..) hlt.le
  rw [List.append_assoc, List.append_cancel_left_eq] at heq
  rcases List.append_eq_append_iff.1 heq with ⟨beyond, rfl, hbeyond⟩ | ⟨mid, rfl, -⟩
  · cases beyond with
    | nil => exact hfree part (by simpa using hd) ⟨pre, [], by simp⟩
    | cons x beyond =>
      -- The delimiter holds the mark and something in front of it.
      obtain ⟨rfl, -⟩ := List.cons.inj hbeyond
      have hone := congrArg List.length (h.eq_of_mem _ hd (by simp))
      simp only [List.length_append, List.length_cons, List.length_nil] at hone hlt
      omega
  · exact hfree d hd ⟨pre, mid, by simp⟩

theorem longest (h : IsMark ds c) (rest : List Char) : Longest ds [c] rest := by
  refine ⟨h.isDelimiter, fun other ho hpre => ?_⟩
  match other, ho.2, hpre with
  | x :: more, _, hpre =>
    obtain ⟨rfl, -⟩ := List.cons_prefix_cons.1 hpre
    rw [h.eq_of_mem _ ho (by simp)]

/-- A text with marks between free gaps is cut at the marks. -/
theorem cuts (h : IsMark ds c) {gaps : List (List Char)} (hne : gaps ≠ [])
    (hfree : ∀ gap ∈ gaps, Free ds gap) :
    Cuts ds ([c].intercalate gaps) gaps (List.replicate (gaps.length - 1) [c]) := by
  induction gaps with
  | nil => contradiction
  | cons gap gaps ih =>
    obtain ⟨hgap, hgaps⟩ := List.forall_mem_cons.1 hfree
    cases gaps with
    | nil => simpa using .last hgap
    | cons next more =>
      have hcut := Cuts.cut (h.noneStarts hgap) (h.longest _) (ih (by simp) hgaps)
      simpa [List.replicate_succ] using hcut

end IsMark

/-! ## What a cut text is made of -/

namespace Cuts

variable {cs : List Char} {gaps found : List (List Char)}

theorem gaps_eq (h : Cuts ds cs gaps found) : Separators.gaps ds cs = gaps := by
  obtain ⟨_, h'⟩ := exists_cuts_gaps ds cs
  exact (h.unique h').1

theorem ne_nil (h : Cuts ds cs gaps found) : gaps ≠ [] := by
  cases h <;> simp

theorem isDelimiter_of_mem (h : Cuts ds cs gaps found) : ∀ d ∈ found, IsDelimiter ds d := by
  induction h with
  | last => simp
  | cut _ longest _ ih => simpa using ⟨longest.isDelimiter, ih⟩

theorem countP_eq (h : Cuts ds cs gaps found) (q : Char → Bool) :
    cs.countP q = (gaps.map (List.countP q)).sum + (found.map (List.countP q)).sum := by
  induction h with
  | last => simp
  | cut _ _ _ ih =>
    simp only [List.countP_append, List.map_cons, List.sum_cons, ih]
    omega

/-- Where one delimiter only was found, it stands between the gaps. -/
theorem eq_intercalate (h : Cuts ds cs gaps found) {d : List Char} (hd : ∀ e ∈ found, e = d) :
    cs = d.intercalate gaps := by
  induction h with
  | last => simp
  | cut _ _ more ih =>
    obtain ⟨rfl, hfound⟩ := List.forall_mem_cons.1 hd
    obtain ⟨next, gaps, rfl⟩ := List.exists_cons_of_ne_nil more.ne_nil
    rw [List.intercalate_cons_cons, ← ih hfound, List.append_assoc]

/-- The first gap takes in the first character, unless a delimiter starts with it. -/
theorem exists_gaps_eq_cons {c : Char} (h : Cuts ds (c :: cs) gaps found)
    (hc : ∀ d, IsDelimiter ds d → d.head? ≠ some c) : ∃ gap more, gaps = (c :: gap) :: more := by
  generalize htext : c :: cs = text at h
  cases h with
  | last => exact ⟨cs, [], by rw [htext]⟩
  | @cut gap d rest _ _ _ longest _ =>
    cases gap with
    | nil =>
      obtain ⟨x, d, rfl⟩ := List.exists_cons_of_ne_nil longest.isDelimiter.2
      exact absurd (by simp [(List.cons.inj htext).1]) (hc _ longest.isDelimiter)
    | cons x gap =>
      obtain ⟨rfl, -⟩ := List.cons.inj htext
      exact ⟨gap, _, rfl⟩

end Cuts

section Counting

variable {q : Char → Bool}

theorem countP_intercalate {sep : List Char} (hsep : sep.countP q = 0)
    (parts : List (List Char)) :
    (sep.intercalate parts).countP q = (parts.map (List.countP q)).sum := by
  induction parts with
  | nil => rfl
  | cons part parts ih =>
    cases parts with
    | nil => simp
    | cons next more =>
      simp only [List.intercalate_cons_cons, List.countP_append, hsep, ih, List.map_cons,
        List.sum_cons]
      omega

/-- The names in the gaps have all characters of the gaps but the blanks. -/
theorem sum_countP_present? (hq : ∀ c, Text.isBlank c → q c = false)
    (gaps : List (List Char)) :
    ((gaps.filterMap fun gap => Text.present? (.ofList gap)).map fun s => s.toList.countP q).sum =
      (gaps.map (List.countP q)).sum := by
  induction gaps with
  | nil => rfl
  | cons gap gaps ih =>
    rw [List.filterMap_cons, List.map_cons, List.sum_cons, ← ih, ← Text.countP_trimChars hq gap]
    cases hp : Text.present? (.ofList gap) with
    | none =>
      have hnil : Text.trimChars gap = [] := by
        simpa [Text.trim] using Text.present?_eq_none_iff.1 hp
      simp [hnil]
    | some s =>
      obtain ⟨rfl, -⟩ := Text.present?_eq_some_iff.1 hp
      simp

end Counting

/-! ## Names between slashes -/

theorem split_eq (s : Separators) (value : String) :
    s.split value = (gaps (s.delimiters.map String.toList) value.toList).filterMap
      (fun gap => Text.present? (.ofList gap)) := by
  rw [split, splitWith, List.append_nil]

/-- A name as it is cut out of a text. -/
structure IsPiece (s : Separators) (name : String) : Prop where
  isTrimmed : Text.IsTrimmed name
  ne_empty : name ≠ ""
  free : Free (s.delimiters.map String.toList) name.toList

theorem isPiece_of_mem_split {s : Separators} {value name : String} (h : name ∈ s.split value) :
    s.IsPiece name := by
  rw [split_eq, List.mem_filterMap] at h
  obtain ⟨gap, hgap, hname⟩ := h
  obtain ⟨_, hcuts⟩ := exists_cuts_gaps (s.delimiters.map String.toList) value.toList
  obtain ⟨htrim, hne⟩ := Text.present?_eq_some_iff.1 hname
  refine ⟨Text.isTrimmed_of_present? hname, hne, htrim ▸ (hcuts.free_of_mem gap hgap).mono ?_⟩
  simpa using Text.trimChars_infix gap

theorem isMark_slash : IsMark (standard.delimiters.map String.toList) '/' := by
  have honly : ∀ d ∈ standard.delimiters, '/' ∈ d.toList → d = "/" := by decide
  refine ⟨isDelimiter_map_toList.2 (by decide), fun d hd hmem => ?_⟩
  have hslash := honly _ (isDelimiter_map_toList.1 hd).1 (by simpa using hmem)
  simpa using congrArg String.toList hslash

/-- The names as a joined text holds them between its slashes, with a blank on each side that has
a slash. `lead` stands in front of the first one. -/
def paddedFrom (lead : List Char) : List String → List (List Char)
  | [] => []
  | name :: more =>
    (lead ++ (name.toList ++ if more = [] then [] else [' '])) :: paddedFrom [' '] more

def padded (names : List String) : List (List Char) := paddedFrom [] names

/-- No name makes a delimiter together with the blanks that joining puts next to it. -/
def KeepsApart (names : List String) : Prop :=
  ∀ part ∈ padded names, Free (standard.delimiters.map String.toList) part

section Padded

variable {lead : List Char} {names : List String}

theorem paddedFrom_ne_nil (hne : names ≠ []) : paddedFrom lead names ≠ [] := by
  cases names with
  | nil => contradiction
  | cons => simp [paddedFrom]

theorem forall_mem_paddedFrom {P : List Char → Prop}
    (h : ∀ name ∈ names, ∀ front ∈ [lead, [' ']], ∀ back ∈ [[], [' ']],
      P (front ++ (name.toList ++ back))) : ∀ part ∈ paddedFrom lead names, P part := by
  induction names generalizing lead with
  | nil => simp [paddedFrom]
  | cons name names ih =>
    rw [paddedFrom, List.forall_mem_cons]
    refine ⟨h name (by simp) lead (by simp) _ (by split <;> simp), ih fun n hn front hfront => ?_⟩
    exact h n (by simp [hn]) front (by simp_all)

theorem join_cons_cons (name next : String) (more : List String) :
    standard.join (name :: next :: more) = name ++ " / " ++ standard.join (next :: more) :=
  String.intercalate_cons_cons

theorem append_toList_join (hne : names ≠ []) :
    lead ++ (standard.join names).toList = ['/'].intercalate (paddedFrom lead names) := by
  induction names generalizing lead with
  | nil => contradiction
  | cons name names ih =>
    cases names with
    | nil => simp [join, paddedFrom]
    | cons next more =>
      have hmore : [' '] ++ (standard.join (next :: more)).toList =
          ['/'].intercalate (paddedFrom [' '] (next :: more)) := ih (by simp)
      rw [paddedFrom, if_neg (by simp), paddedFrom, List.intercalate_cons_cons, ← paddedFrom,
        ← hmore, join_cons_cons]
      simp

theorem toList_join (hne : names ≠ []) :
    (standard.join names).toList = ['/'].intercalate (padded names) := by
  rw [padded, ← append_toList_join hne, List.nil_append]

theorem toList_prefix_join (name : String) (more : List String) :
    name.toList <+: (standard.join (name :: more)).toList := by
  cases more with
  | nil => simp [join]
  | cons next more =>
    rw [join_cons_cons, String.toList_append, String.toList_append, List.append_assoc]
    exact List.prefix_append ..

theorem filterMap_paddedFrom (hlead : ∀ c ∈ lead, Text.isBlank c)
    (hnames : ∀ name ∈ names, Text.IsTrimmed name ∧ name ≠ "") :
    (paddedFrom lead names).filterMap (fun part => Text.present? (.ofList part)) = names := by
  induction names generalizing lead with
  | nil => rfl
  | cons name names ih =>
    obtain ⟨⟨htrimmed, hne⟩, hmore⟩ := List.forall_mem_cons.1 hnames
    have hspace : Text.isBlank ' ' := by decide
    rw [paddedFrom, List.filterMap_cons, Text.present?_append hlead ?_ htrimmed hne,
      ih (by simp [hspace]) hmore]
    split <;> simp [hspace]

/-- Names that make no delimiter with the blanks next to them come back from the joined text. -/
theorem split_join_of_keepsApart (hnames : ∀ name ∈ names, Text.IsTrimmed name ∧ name ≠ "")
    (h : KeepsApart names) : standard.split (standard.join names) = names := by
  by_cases hne : names = []
  · subst hne
    decide +kernel
  · have hcuts : Cuts _ (['/'].intercalate (padded names)) _ _ :=
      isMark_slash.cuts (paddedFrom_ne_nil hne) h
    rw [split_eq, toList_join hne, hcuts.gaps_eq, padded, filterMap_paddedFrom (by simp) hnames]

end Padded

section Pieces

variable {names more : List String}

theorem splitOn_padded (hnames : ∀ name ∈ names, standard.IsPiece name) (hne : names ≠ []) :
    (['/'].intercalate (padded names)).splitOn '/' = padded names := by
  refine List.splitOn_intercalate _ ?_ (paddedFrom_ne_nil hne)
  refine forall_mem_paddedFrom fun name hn front hfront back hback => ?_
  have hname : '/' ∉ name.toList := isMark_slash.not_mem_of_free (hnames name hn).free
  have hfront : '/' ∉ front := (by decide : ∀ l ∈ [[], [' ']], '/' ∉ l) front hfront
  have hback : '/' ∉ back := (by decide : ∀ l ∈ [[], [' ']], '/' ∉ l) back hback
  simp [hname, hfront, hback]

/-- Pieces can be told from the joined text by its slashes alone. -/
theorem filterMap_splitOn_join (hnames : ∀ name ∈ names, standard.IsPiece name) :
    ((standard.join names).toList.splitOn '/').filterMap
      (fun part => Text.present? (.ofList part)) = names := by
  by_cases hne : names = []
  · subst hne
    decide +kernel
  · rw [toList_join hne, splitOn_padded hnames hne, padded]
    exact filterMap_paddedFrom (by simp) fun name hn =>
      ⟨(hnames name hn).isTrimmed, (hnames name hn).ne_empty⟩

theorem join_inj (hnames : ∀ name ∈ names, standard.IsPiece name)
    (hmore : ∀ name ∈ more, standard.IsPiece name) :
    standard.join names = standard.join more ↔ names = more := by
  refine ⟨fun h => ?_, congrArg standard.join⟩
  rw [← filterMap_splitOn_join hnames, h, filterMap_splitOn_join hmore]

/-- A character that is neither blank nor a slash. -/
def isInk (c : Char) : Bool := !Text.isBlank c && c != '/'

/-- If the names come back, then nothing was found between them but slashes: all other characters
of the joined text are in the names, and each delimiter but the slash has such a character. -/
theorem keepsApart_of_split_join (hnames : ∀ name ∈ names, standard.IsPiece name)
    (h : standard.split (standard.join names) = names) : KeepsApart names := by
  by_cases hne : names = []
  · subst hne
    simp [KeepsApart, padded, paddedFrom]
  obtain ⟨found, hcuts⟩ := exists_cuts_gaps (standard.delimiters.map String.toList)
    (standard.join names).toList
  have hink : (found.map (List.countP isInk)).sum = 0 := by
    have hkept := sum_countP_present? (q := isInk) (by simp +contextual [isInk])
      (gaps (standard.delimiters.map String.toList) (standard.join names).toList)
    have hslash : standard.joinWith.toList.countP isInk = 0 := by decide
    have hjoin := countP_intercalate hslash (names.map String.toList)
    rw [← split_eq, h] at hkept
    rw [← String.toList_intercalate, ← join, hcuts.countP_eq, List.map_map] at hjoin
    simp only [Function.comp_def] at hjoin
    omega
  have hfound : ∀ d ∈ found, d = ['/'] := by
    have honly : ∀ d ∈ standard.delimiters, d.toList.countP isInk = 0 → d = "/" := by decide
    intro d hd
    have hzero : d.countP isInk = 0 := List.sum_eq_zero_iff.1 hink _ (List.mem_map_of_mem hd)
    have hdelimiter := (isDelimiter_map_toList.1 (hcuts.isDelimiter_of_mem d hd)).1
    simpa using congrArg String.toList (honly _ hdelimiter (by simpa using hzero))
  have hgaps : gaps (standard.delimiters.map String.toList) (standard.join names).toList =
      padded names := by
    have heq := congrArg (List.splitOn '/') (hcuts.eq_intercalate hfound)
    rwa [List.splitOn_intercalate _
      (fun gap hgap => isMark_slash.not_mem_of_free (hcuts.free_of_mem gap hgap)) hcuts.ne_nil,
      toList_join hne, splitOn_padded hnames hne, eq_comm, ← toList_join hne] at heq
  rw [KeepsApart, ← hgaps]
  exact hcuts.free_of_mem

theorem split_join_iff (hnames : ∀ name ∈ names, standard.IsPiece name) :
    standard.split (standard.join names) = names ↔ KeepsApart names :=
  ⟨keepsApart_of_split_join hnames, split_join_of_keepsApart fun name hn =>
    ⟨(hnames name hn).isTrimmed, (hnames name hn).ne_empty⟩⟩

theorem join_ne_empty (hnames : ∀ name ∈ names, standard.IsPiece name) (hne : names ≠ []) :
    standard.join names ≠ "" := by
  rw [show "" = standard.join [] from rfl, Ne, join_inj hnames (by simp)]
  exact hne

theorem isTrimmed_join (hnames : ∀ name ∈ names, standard.IsPiece name) :
    Text.IsTrimmed (standard.join names) := by
  induction names with
  | nil => simp [Text.IsTrimmed, join]
  | cons name names ih =>
    obtain ⟨hname, hmore⟩ := List.forall_mem_cons.1 hnames
    cases names with
    | nil => simpa [join] using hname.isTrimmed
    | cons next more =>
      have hfirst : name.toList ≠ [] := by simpa using hname.ne_empty
      have hlast : (standard.join (next :: more)).toList ≠ [] := by
        simpa using join_ne_empty hmore (by simp)
      rw [join_cons_cons, Text.IsTrimmed, String.toList_append, String.toList_append,
        List.getLast?_append_of_ne_nil _ hlast, List.append_assoc,
        List.head?_append_of_ne_nil _ hfirst]
      exact ⟨hname.isTrimmed.1, (ih hmore).2⟩

theorem present?_join (hnames : ∀ name ∈ names, standard.IsPiece name) (hne : names ≠ []) :
    Text.present? (standard.join names) = some (standard.join names) :=
  (isTrimmed_join hnames).present? (join_ne_empty hnames hne)

end Pieces

/-- A text that starts with a name has one, because no delimiter starts where the name does. -/
theorem split_ne_nil_of_prefix {name value : String} (hname : standard.IsPiece name)
    (hpre : name.toList <+: value.toList) : standard.split value ≠ [] := by
  obtain ⟨rest, hvalue⟩ := hpre
  obtain ⟨c, cs, hcs⟩ : ∃ c cs, name.toList = c :: cs :=
    List.exists_cons_of_ne_nil (by simpa using hname.ne_empty)
  have hc : Text.isBlank c = false := hname.isTrimmed.1 c (by simp [hcs])
  have hstart : ∀ d, IsDelimiter (standard.delimiters.map String.toList) d → d.head? ≠ some c := by
    have hsingle : ∀ d ∈ standard.delimiters, d.toList.head?.all Text.isBlank ∨
        d.toList.length = 1 := by decide
    intro d hd hhead
    obtain ⟨d, rfl⟩ := List.head?_eq_some_iff.1 hhead
    have hlength := hsingle _ (isDelimiter_map_toList.1 hd).1
    simp only [String.toList_ofList, List.head?_cons, Option.all_some, hc, Bool.false_eq_true,
      false_or, List.length_cons, Nat.add_eq_right, List.length_eq_zero_iff] at hlength
    exact hname.free _ hd ⟨[], cs, by simp [hcs, hlength]⟩
  obtain ⟨found, hcuts⟩ := exists_cuts_gaps (standard.delimiters.map String.toList) value.toList
  rw [← hvalue, hcs, List.cons_append] at hcuts
  obtain ⟨gap, more, hgaps⟩ := hcuts.exists_gaps_eq_cons hstart
  intro hnil
  rw [split_eq, ← hvalue, hcs, List.cons_append, hgaps, List.filterMap_eq_nil_iff] at hnil
  have hblank := Text.isBlank_of_present?_eq_none (hnil (c :: gap) (by simp)) c (by simp)
  simp [hc] at hblank

theorem rejoin_rejoin_iff (value : String) :
    standard.rejoin (standard.rejoin value) = standard.rejoin value ↔
      KeepsApart (standard.split value) := by
  rw [← split_join_iff fun _ => isPiece_of_mem_split, rejoin, rejoin,
    join_inj (fun _ => isPiece_of_mem_split) fun _ => isPiece_of_mem_split]

/-- What one entry for a joined field does to it. -/
theorem text_normalize_joined (s : Separators) (t : Tag) {scope : Scope} {key : String}
    {f : TextField} (h : Vocabulary.lookup (Vocabulary.canonicalKey key) scope = some (.joined f))
    (value : String) :
    (t.normalize s scope [⟨key, value⟩]).text f =
      (Text.present? (s.rejoin value)).getD (t.text f) := by
  have hread : s.readEntry scope ⟨key, value⟩ =
      .ok ((Text.present? (s.rejoin value)).map (.text f)) := by
    simp [readEntry, h, interpret]
  cases hp : Text.present? (s.rejoin value) with
  | none =>
    simp [Tag.normalize, updates, hread, hp, Tag.applyAll, Tag.fillDate, Update.splitDate?]
  | some x =>
    simp [Tag.normalize, updates, hread, hp, Tag.applyAll, Tag.fillDate, Update.splitDate?,
      Update.year?, Tag.apply, Tag.setText, Text.present?_of_present? hp]

/-- Names that hold no delimiter, not even with a blank on each side, come back from the joined
text. -/
theorem split_join_eq_self (names : List String)
    (h : ∀ name ∈ names, name ≠ "" ∧ Text.trim name = name ∧
      ∀ d ∈ standard.delimiters, ¬ d.toList <:+: (" " ++ name ++ " ").toList) :
    standard.split (standard.join names) = names := by
  refine split_join_of_keepsApart (fun name hn => ?_) (forall_mem_paddedFrom ?_)
  · obtain ⟨hne, htrim, -⟩ := h name hn
    exact ⟨htrim ▸ Text.isTrimmed_trim name, hne⟩
  · intro name hn front hfront back hback
    have hfree : Free (standard.delimiters.map String.toList) (" " ++ name ++ " ").toList := by
      intro d hd
      simpa using (h name hn).2.2 _ (isDelimiter_map_toList.1 hd).1
    have hfront : front <:+ [' '] := (by decide : ∀ l ∈ [[], [' ']], l <:+ [' ']) front hfront
    have hback : back <+: [' '] := (by decide : ∀ l ∈ [[], [' ']], l <+: [' ']) back hback
    obtain ⟨before, hbefore⟩ := hfront
    obtain ⟨after, hafter⟩ := hback
    refine hfree.mono ⟨before, after, ?_⟩
    calc before ++ (front ++ (name.toList ++ back)) ++ after
        = (before ++ front) ++ name.toList ++ (back ++ after) := by simp
      _ = (" " ++ name ++ " ").toList := by rw [hbefore, hafter]; simp

theorem split_join_eq_self_duo :
    (∀ name ∈ ["Peter, Paul", "withers"], name ≠ "" ∧ Text.trim name = name ∧
      ∀ d ∈ standard.delimiters, ¬ d.toList <:+: (" " ++ name ++ " ").toList) ∧
    standard.split "Peter, Paul / withers" = ["Peter, Paul", "withers"] := by
  have h : ∀ name ∈ ["Peter, Paul", "withers"], name ≠ "" ∧ Text.trim name = name ∧
      ∀ d ∈ standard.delimiters, ¬ d.toList <:+: (" " ++ name ++ " ").toList := by
    decide +kernel
  exact ⟨h, split_join_eq_self _ h⟩

/-- The names in a value come back from the joined text, and a joined field is the same after it
was written out and read again, if and only if no name makes a delimiter together with the blanks
that joining puts next to it. -/
theorem rejoin_keeps_names_iff (value : String) :
    (standard.split (standard.join (standard.split value)) = standard.split value ↔
      KeepsApart (standard.split value)) ∧
    (standard.rejoin (standard.rejoin value) = standard.rejoin value ↔
      KeepsApart (standard.split value)) ∧
    ∀ (t : Tag) (scope : Scope) (key : String) (f : TextField),
      Vocabulary.lookup (Vocabulary.canonicalKey key) scope = some (.joined f) →
      standard.split value ≠ [] →
        let written := t.normalize standard scope [⟨key, value⟩]
        let again := written.normalize standard scope [⟨key, written.text f⟩]
        written.text f = standard.rejoin value ∧
          (again.text f = written.text f ↔ KeepsApart (standard.split value)) := by
  have hnames : ∀ name ∈ standard.split value, standard.IsPiece name :=
    fun _ => isPiece_of_mem_split
  refine ⟨split_join_iff hnames, rejoin_rejoin_iff value, ?_⟩
  intro t scope key f hkey hne written again
  have hwritten : written.text f = standard.rejoin value := by
    rw [text_normalize_joined standard t hkey, rejoin, present?_join hnames hne, Option.getD_some]
  refine ⟨hwritten, ?_⟩
  have hagain : standard.split (standard.rejoin value) ≠ [] := by
    obtain ⟨name, more, hcons⟩ := List.exists_cons_of_ne_nil hne
    refine split_ne_nil_of_prefix (hnames name (hcons ▸ List.mem_cons_self)) ?_
    rw [rejoin, hcons]
    exact toList_prefix_join name more
  rw [text_normalize_joined standard written hkey, hwritten, ← rejoin_rejoin_iff,
    rejoin, present?_join (fun _ => isPiece_of_mem_split) hagain, Option.getD_some]

/-- A field with two moods keeps them, one with the name `with B` does not. -/
theorem rejoin_keeps_names_iff_moods :
    Vocabulary.lookup (Vocabulary.canonicalKey "Mood") .album = some (.joined .mood) ∧
    KeepsApart (standard.split "Calm;Dark") ∧
    ¬ KeepsApart (standard.split "A;with B") ∧
    (Tag.empty.normalize standard .album [⟨"Mood", "A;with B"⟩]).text .mood = "A / with B" := by
  have hkey : Vocabulary.lookup (Vocabulary.canonicalKey "Mood") .album = some (.joined .mood) := by
    decide +kernel
  obtain ⟨hmoods, -, -⟩ := rejoin_keeps_names_iff "Calm;Dark"
  obtain ⟨hnames, -, hfield⟩ := rejoin_keeps_names_iff "A;with B"
  obtain ⟨hwritten, -⟩ := hfield .empty .album "Mood" .mood hkey (by decide +kernel)
  refine ⟨hkey, hmoods.1 (by decide +kernel), fun h => ?_, ?_⟩
  · exact absurd (hnames.2 h) (by decide +kernel)
  · rw [hwritten]
    decide +kernel

/-- The name `with B` has no delimiter in it and is lost to one when it is joined. -/
theorem joining_makes_a_delimiter :
    standard.split "A;with B" = ["A", "with B"] ∧
    standard.split (standard.join (standard.split "A;with B")) = ["A", "B"] ∧
    standard.rejoin "A;with B" = "A / with B" ∧
    standard.rejoin (standard.rejoin "A;with B") = "A / B" := by
  decide +kernel

end MediaTags.Separators
