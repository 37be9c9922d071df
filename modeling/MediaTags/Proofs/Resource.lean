import Mathlib.Data.List.DropRight
import Mathlib.Tactic
import MediaTags.Resource

/-!
# Paths that differ in their last part

A path ends in a name when its last part can be that of a file. Such a name can be exchanged for
another one: what stands in front of it stays, and so does the directory it lies in.
-/

namespace MediaTags.Resource

/-- A name that something in a directory can have. -/
def IsName (s : String) : Prop := s ≠ "" ∧ s ≠ "." ∧ s ≠ ".."

instance (s : String) : Decidable (IsName s) := inferInstanceAs (Decidable (_ ∧ _))

/-- The last part of a path is a name. -/
def EndsInName (path : String) : Prop := ∃ s ∈ (segments path).getLast?, IsName s

/-- Two paths lead to names in one directory. -/
structure AreBeside (p q : String) : Prop where
  start : p.toList.head? = some '/' ↔ q.toList.head? = some '/'
  names : ∃ above a b, segments p = above ++ [a] ∧ segments q = above ++ [b] ∧
    IsName a ∧ IsName b

theorem AreBeside.symm {p q : String} (h : AreBeside p q) : AreBeside q p := by
  obtain ⟨hstart, above, a, b, hp, hq, ha, hb⟩ := h
  exact ⟨hstart.symm, above, b, a, hq, hp, hb, ha⟩

theorem AreBeside.endsInName {p q : String} (h : AreBeside p q) : EndsInName q := by
  obtain ⟨-, above, a, b, -, hq, -, hb⟩ := h
  exact ⟨b, by simp [hq], hb⟩

/-- The last part of a path can be exchanged, and the parts in front of it stay. -/
theorem exists_segments (path : String) :
    ∃ front above last, path.toList = front ++ last ∧ '/' ∉ last ∧
      (front = [] ∨ ∃ f, front = f ++ ['/']) ∧
      ∀ name, '/' ∉ name → segments (.ofList (front ++ name)) = above ++ [.ofList name] := by
  have hsplit : path.toList.rdropWhile (· != '/') ++ path.toList.rtakeWhile (· != '/') =
      path.toList := List.rdropWhile_append_rtakeWhile
  have hlast : '/' ∉ path.toList.rtakeWhile (· != '/') := fun h => by
    simpa using List.mem_rtakeWhile_imp h
  have hsingle {name : List Char} (h : '/' ∉ name) : name.splitOnP (· == '/') = [name] :=
    List.splitOnP_eq_singleton fun c hc => by
      rw [beq_eq_false_iff_ne]
      rintro rfl
      exact h hc
  have hend : ∀ c ∈ (path.toList.rdropWhile (· != '/')).getLast?, c = '/' := by
    intro c hc
    obtain ⟨hne, rfl⟩ := List.mem_getLast?_eq_getLast hc
    simpa using List.rdropWhile_last_not (· != '/') _ hne
  generalize path.toList.rdropWhile (· != '/') = front at *
  obtain rfl | ⟨f, c, rfl⟩ := front.eq_nil_or_concat
  · refine ⟨[], [], _, hsplit.symm, hlast, .inl rfl, fun name hname => ?_⟩
    simp [segments, hsingle hname]
  · obtain rfl : c = '/' := hend c (by simp)
    refine ⟨f ++ ['/'], (f.splitOnP (· == '/')).map String.ofList, _, ?_, hlast, .inr ⟨f, rfl⟩,
      fun name hname => ?_⟩
    · simpa using hsplit.symm
    · simp [segments, List.splitOnP_append_cons, hsingle hname]

/-- Nothing is dropped behind a name. -/
theorem dropTrailing_name {s : String} (hs : IsName s) (hslash : '/' ∉ s.toList)
    (rest : List Char) :
    dropTrailing (s.toList.reverse ++ rest) = s.toList.reverse ++ rest := by
  have hmem : ∀ c ∈ s.toList.reverse, c ≠ '/' := by
    rintro c hc rfl
    exact hslash (List.mem_reverse.1 hc)
  have hempty : s.toList.reverse ≠ [] := by simpa using hs.1
  have hdot : s.toList.reverse ≠ ['.'] := by
    intro h
    have hlist : s.toList = ['.'] := by simpa using congrArg List.reverse h
    exact hs.2.1 (String.toList_inj.1 hlist)
  generalize s.toList.reverse = cs at *
  unfold dropTrailing
  split
  · next more hmore =>
    cases cs with
    | nil => exact absurd rfl hempty
    | cons c cs => exact absurd (List.cons.inj hmore).1 (hmem c (by simp))
  · next more hmore =>
    match cs with
    | [] => exact absurd rfl hempty
    | [c] => exact absurd (by rw [(List.cons.inj hmore).1]) hdot
    | c :: d :: cs =>
      exact absurd (List.cons.inj (List.cons.inj hmore).2).1 (hmem d (by simp))
  · rfl

theorem fileName?_of_segments {path : String} {above : List String} {s : String}
    (h : segments path = above ++ [s]) (hs : IsName s) : fileName? path = some s := by
  obtain ⟨hempty, hdot, hup⟩ := hs
  simp [fileName?, parts, h, hempty, hdot, hup]

theorem splitExtension_subset (name : String) :
    (splitExtension name).1.toList ⊆ name.toList := by
  unfold splitExtension
  dsimp only
  split
  · exact fun _ => id
  · intro c hc
    rw [String.toList_ofList, List.mem_reverse] at hc
    have hrest := List.mem_of_mem_drop hc
    exact List.mem_reverse.1 ((List.dropWhile_suffix _).mem hrest)

/-- A file name with another extension is a name beside the old one. -/
theorem areBeside_withExtension {path e : String} (h : EndsInName path) (hslash : '/' ∉ e.toList)
    (hlong : 1 < e.length) : AreBeside (withExtension path e) path := by
  obtain ⟨s, hs, hname⟩ := h
  obtain ⟨front, above, last, hpath, hlast, hfront, hsegments⟩ := exists_segments path
  have hwhole : segments path = above ++ [.ofList last] := by
    rw [← hsegments last hlast, ← hpath, String.ofList_toList]
  obtain rfl : .ofList last = s := by simpa [hwhole] using hs
  have hdraft : withExtension path e =
      .ofList (front ++ ((splitExtension (.ofList last)).1 ++ "." ++ e).toList) := by
    have hdrop := dropTrailing_name hname (by simpa using hlast) front.reverse
    rw [String.toList_ofList, ← List.reverse_append, ← hpath] at hdrop
    rw [withExtension, fileName?_of_segments hwhole hname]
    have habove : path.toList.reverse.drop (String.ofList last).length = front.reverse := by
      rw [hpath, List.reverse_append, String.length_ofList, ← List.length_reverse,
        List.drop_left]
    simp only [hdrop, habove]
    simp [String.append_assoc]
  have hstem := splitExtension_subset (.ofList last)
  generalize (splitExtension (.ofList last)).1 = stem at *
  rw [String.toList_ofList] at hstem
  have hfree : '/' ∉ (stem ++ "." ++ e).toList := by
    simpa [hslash] using fun h => hlast (hstem h)
  have hlength : 2 < (stem ++ "." ++ e).length := by
    have hdot : ".".length = 1 := rfl
    rw [String.length_append, String.length_append]
    omega
  have hname' : IsName (stem ++ "." ++ e) := by
    refine ⟨?_, ?_, ?_⟩ <;> intro h <;> rw [h] at hlength <;> exact absurd hlength (by decide)
  refine ⟨?_, above, stem ++ "." ++ e, .ofList last, ?_, hwhole, hname', hname⟩
  · rw [hdraft, hpath, String.toList_ofList]
    obtain rfl | ⟨f, rfl⟩ := hfront
    · have hneither {cs : List Char} (hcs : '/' ∉ cs) : cs.head? ≠ some '/' := fun h =>
        hcs (List.mem_of_mem_head? h)
      exact iff_of_false (hneither hfree) (hneither hlast)
    · cases f <;> simp
  · rw [hdraft, hsegments _ hfree, String.ofList_toList]

end MediaTags.Resource
