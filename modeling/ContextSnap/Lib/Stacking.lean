import Mathlib.Tactic

/-!
# Stacking orders

A stacking order lists what is on screen, topmost first. Raising something puts it on top and leaves
the others as they are among themselves, so of two things the one that was raised last is above.
-/

namespace ContextSnap.Stacking

variable {α : Type} [DecidableEq α] {stack : List α} {x y z : α}

def raise (stack : List α) (x : α) : List α := x :: stack.erase x

def raiseAll (stack : List α) (xs : List α) : List α := xs.foldl raise stack

/-- `x` is above `y`, which may not be on screen at all. -/
def Above (stack : List α) (x y : α) : Prop := stack.idxOf x < stack.idxOf y

theorem Above.asymm (h : Above stack x y) : ¬ Above stack y x := Nat.lt_asymm h

theorem Above.ne (h : Above stack x y) : x ≠ y := by
  rintro rfl
  exact Nat.lt_irrefl _ h

theorem above_raise_self (h : x ≠ y) : Above (raise stack x) x y := by
  rw [Above, raise, List.idxOf_cons_self, List.idxOf_cons_ne _ h]
  exact Nat.succ_pos _

theorem Above.erase (h : Above stack x y) (hx : x ≠ z) (hy : y ≠ z) :
    Above (stack.erase z) x y := by
  induction stack with
  | nil => exact h
  | cons c stack ih =>
      by_cases hc : c = z
      · rw [hc, List.erase_cons_head]
        rw [hc, Above, List.idxOf_cons_ne _ hx.symm, List.idxOf_cons_ne _ hy.symm] at h
        exact Nat.lt_of_succ_lt_succ h
      · rw [List.erase_cons_tail (by simpa using hc)]
        have hxy := h.ne
        by_cases hcx : c = x
        · rw [hcx, Above, List.idxOf_cons_self, List.idxOf_cons_ne _ hxy]
          exact Nat.succ_pos _
        · by_cases hcy : c = y
          · rw [Above, hcy, List.idxOf_cons_self] at h
            exact absurd h (Nat.not_lt_zero _)
          · rw [Above, List.idxOf_cons_ne _ hcx, List.idxOf_cons_ne _ hcy] at h ⊢
            exact Nat.succ_lt_succ (ih (Nat.lt_of_succ_lt_succ h))

/-- Raising a third thing, or the upper one again, changes nothing between two. -/
theorem Above.raise (h : Above stack x y) (hy : y ≠ z) : Above (raise stack z) x y := by
  by_cases hx : x = z
  · rw [← hx]
    exact above_raise_self h.ne
  · have herase := h.erase hx hy
    rw [Above, Stacking.raise, List.idxOf_cons_ne _ (Ne.symm hx), List.idxOf_cons_ne _ hy.symm]
    exact Nat.succ_lt_succ herase

/-- What is raised ends above what is not. -/
theorem above_raiseAll {xs : List α} (hx : x ∈ xs) (hy : y ∉ xs) :
    Above (raiseAll stack xs) x y := by
  induction xs using List.reverseRecOn with
  | nil => simp at hx
  | append_singleton front c ih =>
      have hc : y ≠ c := fun h => hy (by simp [h])
      rw [raiseAll, List.foldl_append, List.foldl_cons, List.foldl_nil]
      by_cases hxc : x = c
      · rw [hxc]
        exact above_raise_self hc.symm
      · have hmem : x ∈ front := by simpa [hxc] using hx
        exact (ih hmem fun h => hy (List.mem_append_left _ h)).raise hc

/-- **The last one raised is above.** -/
theorem above_of_raised_after {front back : List α} (hx : x ∈ back) (hy : y ∉ back) :
    Above (raiseAll stack (front ++ y :: back)) x y := by
  rw [raiseAll, List.foldl_append, List.foldl_cons]
  exact above_raiseAll hx hy

end ContextSnap.Stacking
