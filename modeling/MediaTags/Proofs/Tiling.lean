import Mathlib.Tactic

/-!
# Pieces laid end to end

Pieces tile a range when the first one starts where the range does and each later one where the one
before it stops.
-/

namespace MediaTags

/-- Pieces that lie end to end from one position to another. What it takes for a piece to start at
a position is left open, and so is where it stops. -/
inductive Tiles {α : Type} (Starts : Nat → α → Prop) (stop : α → Nat) :
    Nat → List α → Nat → Prop
  | nil (pos : Nat) : Tiles Starts stop pos [] pos
  | cons {pos last : Nat} {x : α} {xs : List α} :
      Starts pos x → Tiles Starts stop (stop x) xs last → Tiles Starts stop pos (x :: xs) last

namespace Tiles

variable {α : Type} {Starts : Nat → α → Prop} {stop : α → Nat} {pos last : Nat} {xs : List α}

/-- Pieces of some width at least take up their number times that width. -/
theorem add_mul_length_le {width : Nat} (h : Tiles Starts stop pos xs last)
    (hwidth : ∀ pos x, Starts pos x → pos + width ≤ stop x) : pos + width * xs.length ≤ last := by
  induction h with
  | nil => simp
  | @cons pos last x xs hstarts _ ih =>
    have hstop := hwidth pos x hstarts
    rw [List.length_cons, Nat.mul_succ]
    omega

/-- Each piece starts somewhere in the range. -/
theorem exists_starts (h : Tiles Starts stop pos xs last)
    (hle : ∀ pos x, Starts pos x → pos ≤ stop x) {x : α} (hx : x ∈ xs) :
    ∃ p, pos ≤ p ∧ Starts p x := by
  induction h with
  | nil => cases hx
  | cons hstarts _ ih =>
    rcases List.mem_cons.1 hx with rfl | hx
    · exact ⟨_, le_rfl, hstarts⟩
    · obtain ⟨p, hp, hxp⟩ := ih hx
      exact ⟨p, (hle _ _ hstarts).trans hp, hxp⟩

end Tiles

end MediaTags
