import MediaTags.Matroska.Element
import MediaTags.Proofs.Tiling

/-!
# Children tile their parent

Whatever bytes an element holds, its children lie end to end in its payload, each of them behind
the header that was read for it, up to the end of the payload or to a header that cannot be read.
-/

namespace MediaTags.Matroska

section Children

variable {file : Bytes} {last : Element → Bool} {stop pos : Nat}

theorem childrenFrom_of_ok {e : Element} (done : List Element) (hpos : pos < stop)
    (he : header file pos stop = .ok e) : childrenFrom file last stop done pos =
      if last e then ⟨done.reverse, none⟩ else childrenFrom file last stop (e :: done) e.stop := by
  rw [childrenFrom, dif_pos hpos]
  split
  · next e' he' =>
    obtain rfl : e = e' := Except.ok.inj (he.symm.trans he')
    rfl
  · next fault hfault =>
    rw [he] at hfault
    cases hfault

theorem childrenFrom_of_error {fault : Fault} (done : List Element) (hpos : pos < stop)
    (hfault : header file pos stop = .error fault) :
    childrenFrom file last stop done pos = ⟨done.reverse, some fault⟩ := by
  rw [childrenFrom, dif_pos hpos]
  split
  · next e he =>
    rw [hfault] at he
    cases he
  · next fault' hfault' =>
    rw [hfault] at hfault'
    cases hfault'
    rfl

theorem childrenFrom_of_le (done : List Element) (hpos : stop ≤ pos) :
    childrenFrom file last stop done pos = ⟨done.reverse, none⟩ := by
  rw [childrenFrom, dif_neg (by omega)]

/-- What was listed before stays in front, and nothing else comes of it. -/
theorem childrenFrom_eq_append (done : List Element) (pos : Nat) :
    childrenFrom file last stop done pos =
      ⟨done.reverse ++ (childrenFrom file last stop [] pos).elements,
        (childrenFrom file last stop [] pos).fault⟩ := by
  induction hn : stop - pos using Nat.strong_induction_on generalizing done pos with
  | _ n ih =>
    by_cases hpos : pos < stop
    · cases he : header file pos stop with
      | error fault => simp [childrenFrom_of_error _ hpos he]
      | ok e =>
        rw [childrenFrom_of_ok done hpos he, childrenFrom_of_ok [] hpos he]
        by_cases hlast : last e
        · simp [hlast]
        · have hnext := (header_bounds he).2.1 hpos
          have ih (done : List Element) := ih (stop - e.stop) (by omega) done e.stop rfl
          rw [if_neg hlast, if_neg hlast, ih (e :: done), ih [e]]
          simp
    · simp [childrenFrom_of_le _ (not_lt.1 hpos)]

/-- The element that a header is read for comes before those that are listed behind it. -/
theorem childrenFrom_cons {e : Element} (hpos : pos < stop) (he : header file pos stop = .ok e)
    (hlast : ¬ last e) : childrenFrom file last stop [] pos =
      ⟨e :: (childrenFrom file last stop [] e.stop).elements,
        (childrenFrom file last stop [] e.stop).fault⟩ := by
  rw [childrenFrom_of_ok [] hpos he, if_neg hlast, childrenFrom_eq_append]
  rfl

/-- A header is read at `pos`. Its payload starts behind it, and its element takes up room and ends
by `stop`. -/
structure StartsAt (file : Bytes) (stop pos : Nat) (e : Element) : Prop where
  header_eq : header file pos stop = .ok e
  lt_dataStart : pos < e.dataStart
  lt_stop : pos < e.stop
  stop_le : e.stop ≤ stop

theorem startsAt_of_header {e : Element} (hpos : pos < stop) (h : header file pos stop = .ok e) :
    StartsAt file stop pos e :=
  have hbounds := header_bounds h
  ⟨h, hbounds.1, hbounds.2.1 hpos, hbounds.2.2⟩

/-- Why a listing from `pos` to `stop` ends where it does, and what is wrong there. -/
inductive EndsAt (file : Bytes) (last : Element → Bool) (pos stop : Nat) :
    Nat → Option Fault → Prop
  /-- Nothing is left; nothing was there to start with if the range ends before it starts. -/
  | whole : EndsAt file last pos stop (max pos stop) none
  | interrupted {p : Nat} {e : Element} : p < stop → header file p stop = .ok e → last e →
      EndsAt file last pos stop p none
  | faulty {p : Nat} {f : Fault} : p < stop → header file p stop = .error f →
      EndsAt file last pos stop p (some f)

theorem EndsAt.of_lt {pos' p : Nat} {fault : Option Fault} (h : EndsAt file last pos' stop p fault)
    (hpos' : pos' ≤ stop) (hpos : pos < stop) : EndsAt file last pos stop p fault := by
  cases h with
  | whole =>
    have hend : max pos' stop = max pos stop := by omega
    rw [hend]
    exact .whole
  | interrupted hp he hlast => exact .interrupted hp he hlast
  | faulty hp hf => exact .faulty hp hf

theorem EndsAt.le {p : Nat} {fault : Option Fault} (h : EndsAt file last pos stop p fault) :
    p ≤ max pos stop := by
  cases h with
  | whole => exact le_rfl
  | interrupted hp | faulty hp => omega

/-- The loop lists elements that lie end to end, behind those that were listed before. -/
theorem exists_tiles_childrenFrom (file : Bytes) (last : Element → Bool) (stop : Nat)
    (done : List Element) (pos : Nat) :
    ∃ es p, (childrenFrom file last stop done pos).elements = done.reverse ++ es ∧
      Tiles (StartsAt file stop) Element.stop pos es p ∧
      EndsAt file last pos stop p (childrenFrom file last stop done pos).fault := by
  fun_induction childrenFrom file last stop done pos with
  | case1 done pos hpos e he hlast => exact ⟨[], pos, by simp, .nil pos, .interrupted hpos he hlast⟩
  | case2 done pos hpos e he hlast hstop ih =>
    have hstarts := startsAt_of_header hpos he
    obtain ⟨es, p, hes, htiles, hends⟩ := ih
    exact ⟨e :: es, p, by simp [hes], .cons hstarts htiles, hends.of_lt hstarts.stop_le hpos⟩
  | case3 done pos hpos f hf => exact ⟨[], pos, by simp, .nil pos, .faulty hpos hf⟩
  | case4 done pos hpos =>
    have hend : max pos stop = pos := by omega
    refine ⟨[], max pos stop, by simp, ?_, .whole⟩
    rw [hend]
    exact .nil pos

theorem tiles_childrenUntil (file : Bytes) (last : Element → Bool) (parent : Element) :
    ∃ p, Tiles (StartsAt file parent.stop) Element.stop parent.dataStart
        (childrenUntil file last parent).elements p ∧
      EndsAt file last parent.dataStart parent.stop p (childrenUntil file last parent).fault := by
  obtain ⟨es, p, hes, htiles, hends⟩ :=
    exists_tiles_childrenFrom file last parent.stop [] parent.dataStart
  rw [List.reverse_nil, List.nil_append] at hes
  refine ⟨p, ?_, hends⟩
  rw [childrenUntil, hes]
  exact htiles

/-- There are no more elements than bytes between the two ends. -/
theorem length_childrenUntil_le (file : Bytes) (last : Element → Bool) (parent : Element) :
    (childrenUntil file last parent).elements.length ≤ parent.stop - parent.dataStart := by
  obtain ⟨p, htiles, hends⟩ := tiles_childrenUntil file last parent
  have hwidth (pos : Nat) (e : Element) (he : StartsAt file parent.stop pos e) :
      pos + 1 ≤ e.stop := he.lt_stop
  have hlength := htiles.add_mul_length_le hwidth
  have hle := hends.le
  omega

end Children

end MediaTags.Matroska
