import Mathlib.Tactic

/-!
# Greedy sweep

A sweep goes through candidates in their order and keeps each one that clashes with nothing kept so
far. What it keeps is free of clashes, and whatever it passes over clashes with something that it
kept earlier, which in a sorted list is something better.
-/

namespace ContextSnap.Sweep

variable {γ : Type} (clash : γ → γ → Prop) [DecidableRel clash]

/-- One candidate after what was kept so far. -/
def keep (kept : List γ) (candidate : γ) : List γ :=
  if ∃ k ∈ kept, clash k candidate then kept else kept ++ [candidate]

def sweep (candidates : List γ) : List γ := candidates.foldl (keep clash) []

variable {clash} {candidates kept : List γ} {candidate c : γ} {before : γ → γ → Prop}

theorem sweep_concat :
    sweep clash (candidates ++ [c]) = keep clash (sweep clash candidates) c := by
  rw [sweep, List.foldl_append]
  rfl

theorem mem_keep_of_mem (h : c ∈ kept) : c ∈ keep clash kept candidate := by
  rw [keep]
  by_cases hclash : ∃ k ∈ kept, clash k candidate
  · rwa [if_pos hclash]
  · rw [if_neg hclash]
    exact List.mem_append_left _ h

theorem sweep_sublist : List.Sublist (sweep clash candidates) candidates := by
  induction candidates using List.reverseRecOn with
  | nil => exact List.Sublist.refl _
  | append_singleton front c ih =>
      rw [sweep_concat, keep]
      by_cases hclash : ∃ k ∈ sweep clash front, clash k c
      · rw [if_pos hclash]
        exact ih.trans (List.sublist_append_left front [c])
      · rw [if_neg hclash]
        exact ih.append (List.Sublist.refl [c])

/-- Nothing that is kept clashes with anything kept before it. -/
theorem pairwise_sweep : (sweep clash candidates).Pairwise fun a b => ¬clash a b := by
  induction candidates using List.reverseRecOn with
  | nil => exact List.Pairwise.nil
  | append_singleton front c ih =>
      rw [sweep_concat, keep]
      by_cases hclash : ∃ k ∈ sweep clash front, clash k c
      · rwa [if_pos hclash]
      · rw [if_neg hclash, List.pairwise_append]
        refine ⟨ih, List.pairwise_singleton _ _, ?_⟩
        intro k hk d hd
        rw [List.mem_singleton.mp hd]
        exact fun h => hclash ⟨k, hk, h⟩

/-- **Stability.** What is passed over clashes with something kept that stands before it. -/
theorem exists_clash_of_not_mem_sweep (hsorted : candidates.Pairwise before)
    (hc : c ∈ candidates) (hpassed : c ∉ sweep clash candidates) :
    ∃ k ∈ sweep clash candidates, clash k c ∧ before k c := by
  induction candidates using List.reverseRecOn with
  | nil => cases hc
  | append_singleton front d ih =>
      rw [sweep_concat] at hpassed ⊢
      rw [List.pairwise_append] at hsorted
      rcases List.mem_append.mp hc with hfront | hlast
      · have hnot : c ∉ sweep clash front := fun h => hpassed (mem_keep_of_mem h)
        obtain ⟨k, hk, hclash, hbefore⟩ := ih hsorted.1 hfront hnot
        exact ⟨k, mem_keep_of_mem hk, hclash, hbefore⟩
      · obtain rfl := List.mem_singleton.mp hlast
        have hclash : ∃ k ∈ sweep clash front, clash k c := by
          by_contra hfree
          rw [keep, if_neg hfree] at hpassed
          exact hpassed (List.mem_append_right _ List.mem_cons_self)
        obtain ⟨k, hk, hkc⟩ := hclash
        exact ⟨k, mem_keep_of_mem hk, hkc,
          hsorted.2.2 k (sweep_sublist.subset hk) c List.mem_cons_self⟩

end ContextSnap.Sweep
