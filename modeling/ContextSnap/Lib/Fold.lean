import Mathlib.Tactic

/-!
# Loops over a list

A `for` over a list whose body may leave the function is a fold in `Except`. What every round keeps
the fold keeps, what one of the rounds brings about holds behind it, and two folds whose rounds stay
in step end in step.
-/

namespace ContextSnap.Fold

variable {α σ τ ε : Type}

section Invariants

variable {I : σ → Prop} {body : σ → α → Except ε σ} {items : List α}

theorem invariant (hstep : ∀ item ∈ items, ∀ s s', I s → body s item = .ok s' → I s') {s s' : σ}
    (hs : I s) (h : items.foldlM body s = .ok s') : I s' := by
  induction items generalizing s with
  | nil =>
      cases h
      exact hs
  | cons item items ih =>
      rw [List.foldlM_cons] at h
      cases hbody : body s item with
      | error e =>
          rw [hbody] at h
          cases h
      | ok middle =>
          rw [hbody] at h
          have hmiddle := hstep item (by simp) s middle hs hbody
          exact ih (fun i hi => hstep i (List.mem_cons_of_mem _ hi)) hmiddle h

end Invariants

/-- A loop that counts. -/
theorem fin_foldl {n : ℕ} {body : σ → Fin n → σ} {I : ℕ → σ → Prop}
    (hstep : ∀ (i : Fin n) s, I i s → I (i + 1) (body s i)) {s : σ} (hs : I 0 s) :
    I n (Fin.foldl n body s) := by
  induction n with
  | zero => exact hs
  | succ n ih =>
      rw [Fin.foldl_succ_last]
      exact hstep (Fin.last n) _ (ih fun i s hi => hstep i.castSucc s hi)

/-! ### Two loops -/

/-- Both fail alike, or both succeed with related states. -/
inductive Related (R : σ → τ → Prop) : Except ε σ → Except ε τ → Prop where
  | error (e : ε) : Related R (.error e) (.error e)
  | ok {s : σ} {t : τ} (h : R s t) : Related R (.ok s) (.ok t)

/-- **Loops in step.** -/
theorem related {R : σ → τ → Prop} {body : σ → α → Except ε σ} {body' : τ → α → Except ε τ}
    {items : List α}
    (hstep : ∀ item ∈ items, ∀ s t, R s t → Related R (body s item) (body' t item)) {s : σ} {t : τ}
    (h : R s t) : Related R (items.foldlM body s) (items.foldlM body' t) := by
  induction items generalizing s t with
  | nil => exact .ok h
  | cons item items ih =>
      rw [List.foldlM_cons, List.foldlM_cons]
      have hround := hstep item (by simp) s t h
      revert hround
      generalize body s item = left, body' t item = right
      intro hround
      cases hround with
      | error e => exact .error e
      | ok hnext => exact ih (fun i hi => hstep i (List.mem_cons_of_mem _ hi)) hnext

end ContextSnap.Fold
