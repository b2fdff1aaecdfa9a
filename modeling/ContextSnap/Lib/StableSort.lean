import Mathlib.Tactic

/-!
# The last element of a stable sort

An element that comes last ends up behind every other one that its order does not put after it, so
that its position in the sorted list is a count over the unsorted one.
-/

namespace ContextSnap.StableSort

variable {α : Type} {le : α → α → Bool}

/-- What the order does not tell apart from `x`. -/
def ties (le : α → α → Bool) (x y : α) : Bool := le y x && le x y

theorem sublist_of_concat_sublist {kept front back : List α} {x : α} (hback : x ∉ back)
    (h : (kept ++ [x]).Sublist (front ++ x :: back)) : kept.Sublist front := by
  have hsplit : (kept ++ [x]).Sublist ((front ++ [x]) ++ back) := by
    rw [List.append_assoc]
    exact h
  obtain ⟨left, right, heq, hleft, hright⟩ := List.sublist_append_iff.mp hsplit
  have hnil : right = [] := by
    rcases List.eq_nil_or_concat right with hnil | ⟨start, last, rfl⟩
    · exact hnil
    · have hlast : last = x := by
        have hends := congrArg List.getLast? heq
        simpa using hends.symm
      subst hlast
      exact absurd (hright.subset (by simp)) hback
  rw [hnil, List.append_nil] at heq
  rw [← heq] at hleft
  exact (List.append_sublist_append_right [x]).mp hleft

section Position

variable (htrans : ∀ a b c : α, le a b → le b c → le a c) (htotal : ∀ a b : α, le a b || le b a)
  {xs : List α} {x : α}

include htrans htotal

/-- Ties with a last element stay in front of it. -/
theorem ties_sublist_front {front back : List α} (hback : x ∉ back)
    (hsorted : (xs ++ [x]).mergeSort le = front ++ x :: back) :
    (xs.filter (ties le x)).Sublist front := by
  apply sublist_of_concat_sublist hback
  rw [← hsorted]
  apply List.sublist_mergeSort htrans htotal
  · have htied : ∀ y ∈ xs.filter (ties le x) ++ [x], le y x = true ∧ le x y = true := by
      intro y hy
      rcases List.mem_append.mp hy with hy | hy
      · have h := (List.mem_filter.mp hy).2
        rw [ties, Bool.and_eq_true] at h
        exact h
      · rw [List.mem_singleton.mp hy]
        have h := htotal x x
        rw [Bool.or_self] at h
        exact ⟨h, h⟩
    apply List.Pairwise.imp_of_mem (R := fun _ _ => True)
    · intro a b ha hb _
      exact htrans a x b (htied a ha).1 (htied b hb).2
    · exact List.pairwise_of_forall fun _ _ => trivial
  · exact List.filter_sublist.append (List.Sublist.refl [x])

/-- **Position.** A last element is among what is left behind the first `k` of the sorted list
exactly when at least `k` others may stand in front of it. -/
theorem mem_drop_mergeSort_concat (hnew : x ∉ xs) (k : Nat) :
    x ∈ ((xs ++ [x]).mergeSort le).drop k ↔ k ≤ xs.countP (le · x) := by
  have hmem : x ∈ (xs ++ [x]).mergeSort le := List.mem_mergeSort.mpr (by simp)
  obtain ⟨front, back, hsorted⟩ := List.append_of_mem hmem
  have hperm : (front ++ back).Perm xs := by
    have h := List.mergeSort_perm (xs ++ [x]) le
    rw [hsorted] at h
    have hcons : (x :: (front ++ back)).Perm (x :: xs) :=
      (List.perm_middle.symm.trans h).trans (List.perm_append_singleton x xs)
    exact hcons.cons_inv
  have hfront : x ∉ front := fun h => hnew (hperm.subset (List.mem_append_left _ h))
  have hback : x ∉ back := fun h => hnew (hperm.subset (List.mem_append_right _ h))
  have hordered : (front ++ x :: back).Pairwise fun a b => le a b = true := by
    rw [← hsorted]
    exact List.pairwise_mergeSort htrans htotal _
  obtain ⟨-, hbehind, hbefore⟩ := List.pairwise_append.mp hordered
  have hties : back.countP (ties le x) = 0 := by
    have hkept := (ties_sublist_front htrans htotal hback hsorted).countP_le (p := ties le x)
    have hall : (xs.filter (ties le x)).countP (ties le x) = xs.countP (ties le x) := by
      rw [List.countP_filter]
      simp
    have hsplit : xs.countP (ties le x) = front.countP (ties le x) + back.countP (ties le x) := by
      rw [← hperm.countP_eq, List.countP_append]
    omega
  have hlate : back.countP (le · x) = 0 := by
    rw [List.countP_eq_zero] at hties ⊢
    intro y hy hle
    apply hties y hy
    rw [ties, Bool.and_eq_true]
    exact ⟨hle, (List.pairwise_cons.mp hbehind).1 y hy⟩
  have hearly : front.countP (le · x) = front.length :=
    List.countP_eq_length.mpr fun y hy => hbefore y hy x (by simp)
  have hcount : xs.countP (le · x) = front.length := by
    rw [← hperm.countP_eq, List.countP_append, hlate, hearly, add_zero]
  rw [hsorted, hcount]
  by_cases hk : k ≤ front.length
  · rw [List.drop_append_of_le_length hk]
    simp [hk]
  · refine iff_of_false (fun h => ?_) hk
    rw [List.drop_append, List.drop_eq_nil_of_le (by omega), List.nil_append] at h
    obtain ⟨j, hj⟩ : ∃ j, k - front.length = j + 1 := ⟨k - front.length - 1, by omega⟩
    rw [hj, List.drop_succ_cons] at h
    exact hback (List.mem_of_mem_drop h)

end Position

section Front

variable {xs : List α}

theorem le_of_mem_take_drop {n : Nat} (hsorted : xs.Pairwise fun a b => le a b = true) {x y : α}
    (hx : x ∈ xs.take n) (hy : y ∈ xs.drop n) : le x y = true := by
  rw [← List.take_append_drop n xs, List.pairwise_append] at hsorted
  exact hsorted.2.2 x hx y hy

/-- With keys that tell its elements apart, a list without the keys behind a position is the front
of that list. -/
theorem filter_key_drop {κ : Type} [DecidableEq κ] {key : α → κ} (hnodup : (xs.map key).Nodup)
    (n : Nat) : xs.filter (fun x => !(xs.drop n).any fun y => key y = key x) = xs.take n := by
  have hapart : ∀ x ∈ xs.take n, ∀ y ∈ xs.drop n, key y ≠ key x := by
    rw [← List.take_append_drop n xs, List.map_append, List.nodup_append] at hnodup
    intro x hx y hy heq
    exact hnodup.2.2 (key x) (List.mem_map_of_mem hx) (key y) (List.mem_map_of_mem hy) heq.symm
  have hfront : (xs.take n).filter (fun x => !(xs.drop n).any fun y => key y = key x)
      = xs.take n := by
    apply List.filter_eq_self.mpr
    intro x hx
    rw [Bool.not_eq_true', List.any_eq_false]
    intro y hy
    rw [decide_eq_true_eq]
    exact hapart x hx y hy
  have hback : (xs.drop n).filter (fun x => !(xs.drop n).any fun y => key y = key x) = [] := by
    apply List.filter_eq_nil_iff.mpr
    intro x hx
    rw [Bool.not_eq_true, Bool.not_eq_false', List.any_eq_true]
    exact ⟨x, hx, decide_eq_true rfl⟩
  calc
    xs.filter (fun x => !(xs.drop n).any fun y => key y = key x)
        = (xs.take n ++ xs.drop n).filter
            (fun x => !(xs.drop n).any fun y => key y = key x) := by
          rw [List.take_append_drop]
    _ = xs.take n := by rw [List.filter_append, hfront, hback, List.append_nil]

end Front

end ContextSnap.StableSort
