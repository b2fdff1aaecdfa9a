import Mathlib.Tactic

/-!
# Loops with early return

The body of a `while (true)` either goes round again with a new state, leaves the loop with a
result, or returns from the function with an error. `Loop.run` iterates a body on a budget of
rounds. When every round makes a measure smaller the budget is never felt: `Loop.run_eq` is then the
equation of the unbounded loop.
-/

namespace ContextSnap.Loop

variable {σ α ε : Type}

/-- The loop on a budget. `stuck` is what a loop that exhausts its budget reports. -/
def run (body : σ → Except ε (σ ⊕ α)) (stuck : ε) : Nat → σ → Except ε α
  | 0, _ => .error stuck
  | budget + 1, s =>
      match body s with
      | .error e => .error e
      | .ok (.inl s') => run body stuck budget s'
      | .ok (.inr a) => .ok a

section

variable {body : σ → Except ε (σ ⊕ α)} {stuck : ε} {budget : Nat} {s s' : σ} {a : α}

theorem run_of_again (h : body s = .ok (.inl s')) :
    run body stuck (budget + 1) s = run body stuck budget s' := by
  simp [run, h]

theorem run_of_done (h : body s = .ok (.inr a)) : run body stuck (budget + 1) s = .ok a := by
  simp [run, h]

theorem run_of_error {e : ε} (h : body s = .error e) :
    run body stuck (budget + 1) s = .error e := by
  simp [run, h]

/-- The loop leaves with `a` after at most `rounds` rounds that go round again. -/
def Returns (body : σ → Except ε (σ ⊕ α)) (rounds : Nat) (s : σ) (a : α) : Prop :=
  ∀ stuck budget, rounds < budget → run body stuck budget s = .ok a

theorem Returns.done (h : body s = .ok (.inr a)) (rounds : Nat) : Returns body rounds s a := by
  intro stuck budget hbudget
  obtain ⟨budget, rfl⟩ : ∃ b, budget = b + 1 := ⟨budget - 1, by omega⟩
  exact run_of_done h

theorem Returns.again {rounds : Nat} (h : body s = .ok (.inl s'))
    (hrest : Returns body rounds s' a) : Returns body (rounds + 1) s a := by
  intro stuck budget hbudget
  obtain ⟨budget, rfl⟩ : ∃ b, budget = b + 1 := ⟨budget - 1, by omega⟩
  rw [run_of_again h]
  exact hrest stuck budget (by omega)

theorem Returns.mono {rounds more : Nat} (h : Returns body rounds s a) (hle : rounds ≤ more) :
    Returns body more s a :=
  fun stuck budget hbudget => h stuck budget (by omega)

/-- What holds of the last round and is handed back by every earlier one holds of the loop. -/
theorem run_ok {P : σ → α → Prop} (hdone : ∀ s a, body s = .ok (.inr a) → P s a)
    (hagain : ∀ s s' a, body s = .ok (.inl s') → P s' a → P s a)
    (h : run body stuck budget s = .ok a) : P s a := by
  induction budget generalizing s with
  | zero => simp [run] at h
  | succ budget ih =>
      cases hbody : body s with
      | error e => simp [run_of_error hbody] at h
      | ok next =>
          cases next with
          | inl s' =>
              rw [run_of_again hbody] at h
              exact hagain s s' a hbody (ih h)
          | inr b =>
              rw [run_of_done hbody] at h
              exact Except.ok.inj h ▸ hdone s b hbody

variable {measure : σ → Nat}
  (hdecr : ∀ s s', body s = .ok (.inl s') → measure s' < measure s)

include hdecr in
/-- Budgets beyond the measure agree. -/
theorem run_of_lt {stuck' : ε} {budget' : Nat} (hbudget : measure s < budget)
    (hbudget' : measure s < budget') :
    run body stuck budget s = run body stuck' budget' s := by
  induction budget generalizing s budget' with
  | zero => omega
  | succ budget ih =>
      obtain ⟨budget', rfl⟩ : ∃ b, budget' = b + 1 := ⟨budget' - 1, by omega⟩
      cases hbody : body s with
      | error e => rw [run_of_error hbody, run_of_error hbody]
      | ok next =>
          cases next with
          | inr a => rw [run_of_done hbody, run_of_done hbody]
          | inl s' =>
              have hlt := hdecr s s' hbody
              rw [run_of_again hbody, run_of_again hbody]
              exact ih (by omega) (by omega)

include hdecr in
/-- **The unbounded loop.** With a budget of the measure, the loop satisfies the equation of
`while (true)`. -/
theorem run_eq (stuck' : σ → ε) :
    run body (stuck' s) (measure s + 1) s = match body s with
      | .error e => .error e
      | .ok (.inl s') => run body (stuck' s') (measure s' + 1) s'
      | .ok (.inr a) => .ok a := by
  cases hbody : body s with
  | error e => exact run_of_error hbody
  | ok next =>
      cases next with
      | inr a => exact run_of_done hbody
      | inl s' =>
          rw [run_of_again hbody]
          exact run_of_lt hdecr (hdecr s s' hbody) (Nat.lt_succ_self _)

include hdecr in
/-- A loop that returns does so on every budget beyond the measure. -/
theorem Returns.run_of_lt {rounds : Nat} (h : Returns body rounds s a)
    (hbudget : measure s < budget) : run body stuck budget s = .ok a := by
  rw [Loop.run_of_lt hdecr hbudget (Nat.lt_add_right (rounds + 1) (Nat.lt_succ_self (measure s)))]
  exact h stuck _ (by omega)

include hdecr in
/-- A loop whose rounds never fail comes to an end. -/
theorem run_isOk (hok : ∀ s, ∃ next, body s = .ok next) (hbudget : measure s < budget) :
    ∃ a, run body stuck budget s = .ok a := by
  induction budget generalizing s with
  | zero => omega
  | succ budget ih =>
      obtain ⟨next, hbody⟩ := hok s
      cases next with
      | inr a => exact ⟨a, run_of_done hbody⟩
      | inl s' =>
          have hlt := hdecr s s' hbody
          rw [run_of_again hbody]
          exact ih (by omega)

end

end ContextSnap.Loop
