import Mathlib.Tactic

/-!
# Block-wise folds

A function that consumes its input in blocks of one size, and a machine that is fed one symbol after
the other and keeps those that do not fill a block yet. Whatever the machine was fed, what it keeps
and what follows are worth the whole input.
-/

namespace ContextSnap.Blocks

variable {σ α : Type} (size : ℕ) (compress : σ → List α → σ)

/-- The fold over the blocks of the input, without what is left behind the last whole one. -/
def fold (s : σ) (input : List α) : σ :=
  if _h : 0 < size ∧ size ≤ input.length then
    fold (compress s (input.take size)) (input.drop size)
  else s
termination_by input.length
decreasing_by
  simp only [List.length_drop]
  omega

/-- A state and the symbols that do not fill a block yet, and one symbol more. -/
def push (state : σ × List α) (symbol : α) : σ × List α :=
  if state.2.length + 1 = size then (compress state.1 (state.2 ++ [symbol]), [])
  else (state.1, state.2 ++ [symbol])

variable {size} {compress}

theorem fold_of_lt {input : List α} (h : input.length < size) (s : σ) :
    fold size compress s input = s := by
  rw [fold, dif_neg (by omega)]

theorem fold_block_append {block : List α} (hsize : 0 < size) (h : block.length = size) (s : σ)
    (input : List α) :
    fold size compress s (block ++ input) = fold size compress (compress s block) input := by
  rw [fold, dif_pos ⟨hsize, by rw [List.length_append]; omega⟩, List.take_left' h,
    List.drop_left' h]

section Machine

variable {state : σ × List α}

theorem length_push_lt (h : state.2.length < size) (symbol : α) :
    (push size compress state symbol).2.length < size := by
  rw [push]
  split
  · exact Nat.zero_lt_of_lt h
  · rw [List.length_append, List.length_singleton]
    omega

theorem fold_push (h : state.2.length < size) (symbol : α) (input : List α) :
    fold size compress (push size compress state symbol).1
        ((push size compress state symbol).2 ++ input)
      = fold size compress state.1 (state.2 ++ symbol :: input) := by
  have hcons : state.2 ++ symbol :: input = (state.2 ++ [symbol]) ++ input := by simp
  rw [push]
  split
  · rename_i hfull
    have hlength : (state.2 ++ [symbol]).length = size := by
      rw [List.length_append, List.length_singleton, hfull]
    rw [hcons, fold_block_append (Nat.zero_lt_of_lt h) hlength, List.nil_append]
  · rw [hcons]

/-- **Feeding.** What the machine keeps and what follows are worth the whole input. -/
theorem fold_feed (h : state.2.length < size) (input more : List α) :
    (input.foldl (push size compress) state).2.length < size
      ∧ fold size compress (input.foldl (push size compress) state).1
          ((input.foldl (push size compress) state).2 ++ more)
        = fold size compress state.1 (state.2 ++ input ++ more) := by
  induction input generalizing state with
  | nil => exact ⟨h, by rw [List.append_nil]; rfl⟩
  | cons symbol input ih =>
      obtain ⟨hlength, hfold⟩ := ih (length_push_lt h symbol)
      refine ⟨hlength, hfold.trans ?_⟩
      rw [List.append_assoc, fold_push h, List.append_assoc, List.cons_append]

theorem length_feed (h : state.2.length < size) (input : List α) :
    (input.foldl (push size compress) state).2.length
      = (state.2.length + input.length) % size := by
  induction input generalizing state with
  | nil => exact (Nat.mod_eq_of_lt h).symm
  | cons symbol input ih =>
      have hnext : ((push size compress state symbol).2.length + input.length) % size
          = (state.2.length + (symbol :: input).length) % size := by
        rw [push]
        split
        · rename_i hfull
          rw [List.length_nil, List.length_cons, Nat.zero_add, Nat.add_comm input.length,
            ← Nat.add_assoc, hfull, Nat.add_mod_left]
        · rw [List.length_append, List.length_singleton, List.length_cons, Nat.add_assoc,
            Nat.add_comm 1]
      exact (ih (length_push_lt h symbol)).trans hnext

/-- Input that fills its blocks leaves nothing behind. -/
theorem feed_blocks (h : state.2.length < size) {input : List α}
    (hblocks : (state.2.length + input.length) % size = 0) :
    input.foldl (push size compress) state
      = (fold size compress state.1 (state.2 ++ input), []) := by
  have hnone : (input.foldl (push size compress) state).2 = [] :=
    List.eq_nil_of_length_eq_zero ((length_feed h input).trans hblocks)
  have hfold : fold size compress (input.foldl (push size compress) state).1
      ((input.foldl (push size compress) state).2 ++ [])
        = fold size compress state.1 (state.2 ++ input ++ []) := (fold_feed h input []).2
  rw [hnone, List.append_nil, List.append_nil, fold_of_lt (Nat.zero_lt_of_lt h)] at hfold
  exact Prod.ext hfold hnone

end Machine

end ContextSnap.Blocks
