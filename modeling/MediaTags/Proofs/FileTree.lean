import MediaTags.FileTree
import MediaTags.Proofs.Resource

/-!
# What becomes of a tree of files

Making directories changes no file and takes no directory away. A file that is written and then
moved to another name beside it is found there, and what led there still does: a directory on the
way to the one place is on the way to the other as well.
-/

namespace MediaTags

namespace FileTree

open Resource (IsName EndsInName AreBeside)

/-! ## What is at a place -/

theorem isImplied_iff {t : FileTree} {p : Place} :
    t.isImplied p ↔ p <+: t.workingDirectory ∨ ∃ m ∈ t.nodes, leadsTo p m.1 := by
  simp [isImplied]

theorem lookup_remove_self (t : FileTree) (p : Place) : (t.remove p).nodes.lookup p = none := by
  rw [remove, List.lookup_eq_none_iff]
  intro m hm
  have hne : m.1 ≠ p := by simpa using (List.mem_filter.1 hm).2
  simpa using hne.symm

theorem lookup_remove_ne (t : FileTree) {p q : Place} (h : q ≠ p) :
    (t.remove p).nodes.lookup q = t.nodes.lookup q := by
  change (t.nodes.filter fun m => m.1 != p).lookup q = _
  induction t.nodes with
  | nil => rfl
  | cons m nodes ih =>
    obtain ⟨r, n⟩ := m
    obtain rfl | hr := eq_or_ne r p
    · have hskip : (q == r) = false := by simpa using h
      rw [List.filter_cons_of_neg (by simp), ih, List.lookup_cons, hskip]
    · rw [List.filter_cons_of_pos (by simpa using hr), List.lookup_cons, List.lookup_cons, ih]

theorem lookup_set_ne (t : FileTree) {p q : Place} (n : FileNode) (h : q ≠ p) :
    (t.set p n).nodes.lookup q = t.nodes.lookup q := by
  have hq : (q == p) = false := by simpa using h
  rw [set, List.lookup_append, lookup_remove_ne t h, List.lookup_cons, hq]
  simp

theorem get?_set_self (t : FileTree) (p : Place) (n : FileNode) :
    (t.set p n).get? p = some n := by
  have hlookup : (t.set p n).nodes.lookup p = some n := by
    rw [set, List.lookup_append, lookup_remove_self, List.lookup_cons, beq_self_eq_true]
    rfl
  rw [get?, hlookup]
  rfl

/-- A file is at a place exactly if it is listed there. -/
theorem get?_eq_file_iff {t : FileTree} {p : Place} {data : Bytes} :
    t.get? p = some (.file data) ↔ t.nodes.lookup p = some (.file data) := by
  unfold get?
  cases t.nodes.lookup p <;> simp

theorem isImplied_set {t : FileTree} {q : Place} (h : t.isImplied q) (p : Place) (n : FileNode) :
    (t.set p n).isImplied q := by
  rw [isImplied_iff] at h ⊢
  refine h.imp_right fun ⟨m, hm, hlead⟩ => ?_
  obtain rfl | hne := eq_or_ne m.1 p
  · exact ⟨(m.1, n), by simp [set], hlead⟩
  · exact ⟨m, by simp [set, remove, hm, hne], hlead⟩

/-- What is at a place depends on what is listed there and what is listed behind it. -/
theorem directory_stays {t t' : FileTree} {p : Place} (h : t.get? p = some .directory)
    (hlookup : t'.nodes.lookup p = t.nodes.lookup p) (himplied : t.isImplied p → t'.isImplied p) :
    t'.get? p = some .directory := by
  rw [get?, hlookup]
  rw [get?] at h
  cases hp : t.nodes.lookup p with
  | none =>
    rw [hp] at h
    have : t.isImplied p := by simpa using h
    simp [himplied this]
  | some n =>
    rw [hp] at h
    simpa using h

theorem directory_set {t : FileTree} {p q : Place} (h : t.get? q = some .directory) (hne : q ≠ p)
    (n : FileNode) : (t.set p n).get? q = some .directory :=
  directory_stays h (lookup_set_ne t n hne) fun himplied => isImplied_set himplied p n

/-- A directory on the way to one name in a directory is on the way to any other. -/
theorem leadsTo_sibling {p q : Place} {a : String} (h : leadsTo q (p ++ [a])) (b : String) :
    leadsTo q (p ++ [b]) := by
  simp only [leadsTo, Bool.and_eq_true, List.isPrefixOf_iff_prefix, decide_eq_true_eq,
    List.length_append, List.length_singleton] at h ⊢
  obtain ⟨hpre, hlt⟩ := h
  refine ⟨?_, hlt⟩
  obtain rfl | hpre := List.prefix_concat_iff.1 hpre
  · simp at hlt
  · exact hpre.trans (List.prefix_append ..)

/-- Moving a file within a directory takes no directory away. -/
theorem directory_move {t : FileTree} {p q : Place} {a b : String}
    (h : t.get? q = some .directory) (ha : q ≠ p ++ [a]) (hb : q ≠ p ++ [b]) (n : FileNode) :
    ((t.remove (p ++ [a])).set (p ++ [b]) n).get? q = some .directory := by
  refine directory_stays h ?_ fun himplied => ?_
  · rw [lookup_set_ne _ n hb, lookup_remove_ne t ha]
  · obtain hwork | ⟨m, hm, hlead⟩ := isImplied_iff.1 himplied
    · exact isImplied_iff.2 (.inl hwork)
    · obtain hmoved | hstays := eq_or_ne m.1 (p ++ [a])
      · exact isImplied_iff.2 (.inr ⟨(p ++ [b], n), by simp [set],
          leadsTo_sibling (hmoved ▸ hlead) b⟩)
      · refine isImplied_set (isImplied_iff.2 (.inr ⟨m, ?_, hlead⟩)) _ n
        simp [remove, hm, hstays]

theorem not_directory_set {t : FileTree} {p q : Place} (h : t.get? q ≠ some .directory)
    (hlead : leadsTo q p = false) (data : Bytes) :
    (t.set p (.file data)).get? q ≠ some .directory := by
  obtain rfl | hne := eq_or_ne q p
  · simp [get?_set_self]
  · intro hdir
    refine h (directory_stays hdir (lookup_set_ne t _ hne).symm fun himplied => ?_)
    obtain hwork | ⟨m, hm, hm'⟩ := isImplied_iff.1 himplied
    · exact isImplied_iff.2 (.inl hwork)
    · obtain hm | rfl := (by simpa [set] using hm : m ∈ (t.remove p).nodes ∨ m = (p, .file data))
      · exact isImplied_iff.2 (.inr ⟨m, (List.mem_filter.1 hm).1, hm'⟩)
      · simp [hlead] at hm'

/-! ## Following paths -/

/-- Every directory of a tree is one of another tree. -/
def KeepsDirectories (t t' : FileTree) : Prop :=
  ∀ p, t.get? p = some .directory → t'.get? p = some .directory

theorem follow_of_keeps {t t' : FileTree} (h : t.KeepsDirectories t') {p q : Place}
    {ss : List String} (hq : t.follow p ss = .ok q) : t'.follow p ss = .ok q := by
  fun_induction follow t p ss with
  | case1 p => exact hq
  | case2 p s rest hdir hs ih => simp [follow, h p hdir, hs, ih hq]
  | case3 p rest hdir hs ih => simp [follow, h p hdir, ih hq]
  | case4 p s rest hdir hs hup ih => simp [follow, h p hdir, hs, hup, ih hq]
  | case5 p s rest data hfile => cases hq
  | case6 p s rest hnone => cases hq

theorem keepsDirectories_set {t : FileTree} {p : Place} (h : t.get? p ≠ some .directory)
    (data : Bytes) : t.KeepsDirectories (t.set p (.file data)) := fun q hq =>
  directory_set hq (by rintro rfl; exact h hq) _

theorem locate_of_keeps {t t' : FileTree} (h : t.KeepsDirectories t')
    (hwork : t'.workingDirectory = t.workingDirectory) {path : String} {p : Place}
    (hp : t.locate path = .ok p) : t'.locate path = .ok p := by
  unfold locate at hp ⊢
  split at hp
  · cases hp
  · next hne =>
    rw [if_neg hne, origin, hwork]
    exact follow_of_keeps h hp

/-- A name is looked up where the path in front of it ends. -/
theorem follow_concat {s : String} (hs : IsName s) (t : FileTree) (p : Place)
    (above : List String) :
    t.follow p (above ++ [s]) = (t.follow p (above ++ [""])).map (· ++ [s]) := by
  obtain ⟨hempty, hdot, hup⟩ := hs
  induction above generalizing p with
  | nil =>
    simp only [List.nil_append, follow]
    split <;> simp [hempty, hdot, hup, Except.map]
  | cons a above ih =>
    simp only [List.cons_append, follow]
    split
    · split
      · exact ih p
      split
      · exact ih p.dropLast
      · exact ih (p ++ [a])
    · rfl
    · rfl

theorem locate_of_segments {path : String} {above : List String} {s : String}
    (h : Resource.segments path = above ++ [s]) (hs : IsName s) (t : FileTree) :
    t.locate path = (t.follow (t.origin path) (above ++ [""])).map (· ++ [s]) := by
  have hne : path ≠ "" := by
    rintro rfl
    have hlast := congrArg List.getLast? h
    rw [List.getLast?_concat] at hlast
    exact hs.1 (Option.some.inj hlast).symm
  rw [locate, if_neg hne, h, follow_concat hs]

theorem exists_locate_beside {p q : String} (h : AreBeside p q) {t : FileTree} {d : Place}
    (hd : t.locate p = .ok d) :
    ∃ above a b, d = above ++ [a] ∧ t.locate q = .ok (above ++ [b]) := by
  obtain ⟨hstart, above, a, b, hp, hq, ha, hb⟩ := h
  have horigin : t.origin p = t.origin q := by simp only [origin, hstart]
  rw [locate_of_segments hp ha, horigin] at hd
  rw [locate_of_segments hq hb]
  cases hfollow : t.follow (t.origin q) (above ++ [""]) with
  | error e => simp [hfollow, Except.map] at hd
  | ok r =>
    have hdr : r ++ [a] = d := by simpa [hfollow, Except.map] using hd
    exact ⟨r, a, b, hdr.symm, rfl⟩

theorem eq_of_locate {t : FileTree} {path : String} {p q : Place} (hp : t.locate path = .ok p)
    (hq : t.locate path = .ok q) : p = q :=
  Except.ok.inj (hp.symm.trans hq)

/-! ## Writing and moving -/

theorem write_eq_ok_iff {t t' : FileTree} {path : String} {data : Bytes} :
    t.write path data = .ok t' ↔
      ∃ p, t.locate path = .ok p ∧ t.get? p ≠ some .directory ∧ t' = t.set p (.file data) := by
  unfold write
  cases hp : t.locate path with
  | error e => simp
  | ok p =>
    simp only [Except.ok.injEq, exists_eq_left']
    split
    · next hdir => simp [hdir]
    · next hdir =>
      have hne : t.get? p ≠ some .directory := hdir
      simp [hne, eq_comm]

theorem destination_eq_ok_iff {t : FileTree} {path : String} {q : Place} :
    t.destination path = .ok q ↔
      EndsInName path ∧ t.locate path = .ok q ∧ t.get? q ≠ some .directory := by
  unfold destination
  constructor
  · intro h
    have hpart := List.rdropWhile_prefix (· == "") (Resource.segments path)
    have hseen : ∀ s ∈ ((Resource.segments path).rdropWhile (· == "")).getLast?, s ≠ "" := by
      intro s hs
      obtain ⟨hne, rfl⟩ := List.mem_getLast?_eq_getLast hs
      simpa using List.rdropWhile_last_not (· == "") _ hne
    simp only [List.rdropWhile] at hpart hseen
    dsimp only at h
    generalize ((Resource.segments path).reverse.dropWhile (· == "")).reverse = named at *
    split at h
    · cases h
    next p hfollow =>
    split at h
    · cases h
    next s hlast =>
    split at h
    · cases h
    next hdots =>
    split at h
    · cases h
    next hlength =>
    split at h
    · cases h
    next hdir =>
    cases h
    obtain ⟨above, rfl⟩ := List.getLast?_eq_some_iff.1 hlast
    have hwhole : Resource.segments path = above ++ [s] :=
      (hpart.eq_of_length_le (not_lt.1 hlength)).symm
    have hname : IsName s := ⟨hseen s hlast, not_or.1 hdots⟩
    rw [List.dropLast_concat] at hfollow
    refine ⟨⟨s, by simp [hwhole], hname⟩, ?_, hdir⟩
    rw [locate_of_segments hwhole hname, hfollow]
    rfl
  · rintro ⟨⟨s, hlast, hname⟩, hq, hdir⟩
    obtain ⟨above, habove⟩ := List.getLast?_eq_some_iff.1 hlast
    rw [locate_of_segments habove hname] at hq
    have hkeep : (((above ++ [s]).reverse.dropWhile (· == "")).reverse) = above ++ [s] := by
      simp [hname.1]
    simp only [habove, hkeep, List.dropLast_concat, List.getLast?_concat]
    cases hfollow : t.follow (t.origin path) (above ++ [""]) with
    | error e => simp [hfollow, Except.map] at hq
    | ok p =>
      have hpq : p ++ [s] = q := by simpa [hfollow, Except.map] using hq
      simp [hname.2.1, hname.2.2, hpq, hdir]

theorem rename_eq_ok_iff {t t' : FileTree} {source target : String} :
    t.rename source target = .ok t' ↔
      ∃ p q n, t.locate source = .ok p ∧ t.destination target = .ok q ∧ t.get? p = some n ∧
        t' = (t.remove p).set q n := by
  unfold rename
  cases hp : t.locate source with
  | error e => simp
  | ok p =>
    cases hq : t.destination target with
    | error e => simp
    | ok q => cases hn : t.get? p <;> simp [hn, eq_comm]

theorem isDirectory_eq_false_iff {t : FileTree} {path : String} {p : Place}
    (h : t.locate path = .ok p) : t.isDirectory path = false ↔ t.get? p ≠ some .directory := by
  simp only [isDirectory, open?, h]
  cases t.get? p with
  | none => simp
  | some n => cases n <;> simp

theorem contents?_eq_some_iff {t : FileTree} {path : String} {data : Bytes} :
    t.contents? path = some data ↔
      ∃ p, t.locate path = .ok p ∧ t.get? p = some (.file data) := by
  simp only [contents?, open?]
  cases t.locate path with
  | error e => simp
  | ok p =>
    cases hn : t.get? p with
    | none => simp [hn]
    | some n => cases n <;> simp [hn]

/-- A file that was written and moved is found where it was moved to. -/
theorem contents?_of_write_rename {t t₂ t₃ : FileTree} {draft path : String} {data : Bytes}
    (hbeside : AreBeside draft path) (hwrite : t.write draft data = .ok t₂)
    (hrename : t₂.rename draft path = .ok t₃) : t₃.contents? path = some data := by
  obtain ⟨d, hd, hfree, rfl⟩ := write_eq_ok_iff.1 hwrite
  obtain ⟨d', q, n, hd', hq, hn, rfl⟩ := rename_eq_ok_iff.1 hrename
  obtain ⟨hname, hlocate, hdir⟩ := destination_eq_ok_iff.1 hq
  obtain rfl := eq_of_locate (locate_of_keeps (keepsDirectories_set hfree data) rfl hd) hd'
  obtain rfl : .file data = n := by simpa [get?_set_self] using hn
  obtain ⟨above, a, b, rfl, hbq⟩ := exists_locate_beside hbeside hd'
  obtain rfl := eq_of_locate hlocate hbq
  have hmoved : (t.set (above ++ [a]) (.file data)).KeepsDirectories
      (((t.set (above ++ [a]) (.file data)).remove (above ++ [a])).set (above ++ [b])
        (.file data)) := by
    intro p hp
    refine directory_move hp ?_ ?_ _
    · rintro rfl
      simp [get?_set_self] at hp
    · rintro rfl
      exact hdir hp
  exact contents?_eq_some_iff.2 ⟨_, locate_of_keeps hmoved rfl hlocate, get?_set_self ..⟩

/-- A file is written and then moved to a name beside it if neither is a directory. -/
theorem exists_write_rename_iff {t : FileTree} {draft path : String}
    (hbeside : AreBeside draft path) (data : Bytes) :
    (∃ t₂ t₃, t.write draft data = .ok t₂ ∧ t₂.rename draft path = .ok t₃) ↔
      (∃ q, t.locate path = .ok q) ∧ t.isDirectory path = false ∧ t.isDirectory draft = false := by
  constructor
  · rintro ⟨t₂, t₃, hwrite, hrename⟩
    obtain ⟨d, hd, hfree, rfl⟩ := write_eq_ok_iff.1 hwrite
    obtain ⟨-, q', -, -, hq', -, -⟩ := rename_eq_ok_iff.1 hrename
    obtain ⟨-, hlocate, hdir⟩ := destination_eq_ok_iff.1 hq'
    obtain ⟨above, a, b, rfl, hq⟩ := exists_locate_beside hbeside hd
    obtain rfl := eq_of_locate (locate_of_keeps (keepsDirectories_set hfree data) rfl hq) hlocate
    refine ⟨⟨_, hq⟩, (isDirectory_eq_false_iff hq).2 fun h => hdir ?_,
      (isDirectory_eq_false_iff hd).2 hfree⟩
    exact keepsDirectories_set hfree data _ h
  · rintro ⟨⟨q, hq⟩, hpath, hdraft⟩
    obtain ⟨above, b, a, rfl, hd⟩ := exists_locate_beside hbeside.symm hq
    have hfree := (isDirectory_eq_false_iff hd).1 hdraft
    have hbeyond : leadsTo (above ++ [b]) (above ++ [a]) = false := by simp [leadsTo]
    have hkeeps := keepsDirectories_set hfree data
    have hto : (t.set (above ++ [a]) (.file data)).destination path = .ok (above ++ [b]) :=
      destination_eq_ok_iff.2 ⟨hbeside.endsInName, locate_of_keeps hkeeps rfl hq,
        not_directory_set ((isDirectory_eq_false_iff hq).1 hpath) hbeyond data⟩
    exact ⟨_, _, write_eq_ok_iff.2 ⟨_, hd, hfree, rfl⟩, rename_eq_ok_iff.2
      ⟨_, _, _, locate_of_keeps hkeeps rfl hd, hto, get?_set_self .., rfl⟩⟩

/-! ## Making directories -/

/-- A tree with the files of another one, and its directories among its own. -/
structure Extends (t t' : FileTree) : Prop where
  workingDirectory : t'.workingDirectory = t.workingDirectory
  directories : t.KeepsDirectories t'
  files (p : Place) (data : Bytes) : t'.get? p = some (.file data) ↔ t.get? p = some (.file data)

theorem Extends.refl (t : FileTree) : t.Extends t := ⟨rfl, fun _ => id, fun _ _ => .rfl⟩

theorem Extends.trans {t t' t'' : FileTree} (h : t.Extends t') (h' : t'.Extends t'') :
    t.Extends t'' :=
  ⟨h'.workingDirectory.trans h.workingDirectory, fun p hp => h'.directories p (h.directories p hp),
    fun p data => (h'.files p data).trans (h.files p data)⟩

theorem extends_set_directory {t : FileTree} {p : Place} (h : t.get? p = none) :
    t.Extends (t.set p .directory) := by
  have hne {q : Place} {n : FileNode} (hq : t.get? q = some n) : q ≠ p := by
    rintro rfl
    simp [h] at hq
  refine ⟨rfl, fun q hq => directory_set hq (hne hq) _, fun q data => ?_⟩
  obtain rfl | hq := eq_or_ne q p
  · simp [get?_set_self, h]
  · rw [get?_eq_file_iff, get?_eq_file_iff, lookup_set_ne t _ hq]

/-- Whether or not all directories could be made, no more than directories were. -/
theorem extends_makeDirectories (t : FileTree) (made : Bool) (p : Place) (ss : List String) :
    t.Extends (t.makeDirectories made p ss).2 := by
  fun_induction makeDirectories t made p ss with
  | case1 => exact .refl _
  | case2 => assumption
  | case3 => assumption
  | case4 => assumption
  | case5 => exact .refl _
  | case6 t made p s rest hs hup q hnone ih => exact (extends_set_directory hnone).trans ih

theorem Extends.contents? {t t' : FileTree} (h : t.Extends t') {path : String} {data : Bytes}
    (hdata : t.contents? path = some data) : t'.contents? path = some data := by
  obtain ⟨p, hp, hfile⟩ := contents?_eq_some_iff.1 hdata
  exact contents?_eq_some_iff.2
    ⟨p, locate_of_keeps h.directories h.workingDirectory hp, (h.files p data).2 hfile⟩

end FileTree

end MediaTags
