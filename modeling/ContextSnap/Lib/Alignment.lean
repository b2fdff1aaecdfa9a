import Mathlib.Tactic

/-!
# Alignment distance

How far two sequences are apart when one is turned into the other by inserting, deleting and
replacing single members and by swapping neighbours, and no member is touched twice. The recursion
goes over the prefixes. Its values fill a table, of which a row needs no more than the two rows
above it.
-/

namespace ContextSnap.Alignment

variable {α : Type} [DecidableEq α]

/-- The distance of the first `i` members of `a` and the first `j` members of `b`. -/
def distance (a b : ℕ → α) : ℕ → ℕ → ℕ
  | 0, j => j
  | i + 1, 0 => i + 1
  | i + 1, j + 1 =>
      let inserted := distance a b (i + 1) j + 1
      let deleted := distance a b i (j + 1) + 1
      let replaced := distance a b i j + if a i = b j then 0 else 1
      let least := min (min inserted deleted) replaced
      if 1 ≤ i ∧ 1 ≤ j ∧ a i = b (j - 1) ∧ a (i - 1) = b j then
        min least (distance a b (i - 1) (j - 1) + 1)
      else least
termination_by i j => i + j

variable {a b : ℕ → α}

/-! ### The distance -/

theorem distance_zero_left (j : ℕ) : distance a b 0 j = j := by rw [distance]

theorem distance_zero_right (i : ℕ) : distance a b i 0 = i := by
  cases i with
  | zero => rw [distance]
  | succ i => rw [distance]

theorem distance_succ_succ_le (i j : ℕ) :
    distance a b (i + 1) (j + 1) ≤ distance a b i j + if a i = b j then 0 else 1 := by
  rw [distance]
  split
  · exact (min_le_left _ _).trans (min_le_right _ _)
  · exact min_le_right _ _

theorem distance_succ_succ_eq_zero {i j : ℕ} :
    distance a b (i + 1) (j + 1) = 0 ↔ distance a b i j = 0 ∧ a i = b j := by
  constructor
  · intro hzero
    have hreplaced : distance a b i j + (if a i = b j then 0 else 1) = 0 := by
      rw [distance] at hzero
      split at hzero <;> omega
    by_cases hsame : a i = b j
    · exact ⟨Nat.eq_zero_of_add_eq_zero_right hreplaced, hsame⟩
    · rw [if_neg hsame] at hreplaced
      omega
  · rintro ⟨hzero, hsame⟩
    have hle := distance_succ_succ_le (a := a) (b := b) i j
    rw [hzero, if_pos hsame] at hle
    exact Nat.le_zero.mp hle

theorem distance_eq_zero_iff (i j : ℕ) :
    distance a b i j = 0 ↔ i = j ∧ ∀ k < i, a k = b k := by
  induction i generalizing j with
  | zero => simp [distance_zero_left, eq_comm]
  | succ i ih =>
      cases j with
      | zero => simp [distance_zero_right]
      | succ j =>
          rw [distance_succ_succ_eq_zero, ih, Nat.forall_lt_succ_right, Nat.add_right_cancel_iff]
          constructor
          · rintro ⟨⟨rfl, hbefore⟩, hlast⟩
            exact ⟨rfl, hbefore, hlast⟩
          · rintro ⟨rfl, hbefore, hlast⟩
            exact ⟨⟨rfl, hbefore⟩, hlast⟩

theorem distance_le_max (i j : ℕ) : distance a b i j ≤ max i j := by
  induction i generalizing j with
  | zero => simp [distance_zero_left]
  | succ i ih =>
      cases j with
      | zero => simp [distance_zero_right]
      | succ j =>
          calc distance a b (i + 1) (j + 1)
              ≤ distance a b i j + if a i = b j then 0 else 1 := distance_succ_succ_le i j
            _ ≤ max i j + 1 := add_le_add (ih j) (by split <;> omega)
            _ = max (i + 1) (j + 1) := (Nat.add_max_add_right i j 1).symm

/-- Both sequences play the same part: what is inserted into one is deleted from the other. -/
theorem distance_comm : ∀ i j : ℕ, distance a b i j = distance b a j i
  | 0, j => by rw [distance_zero_left, distance_zero_right]
  | i + 1, 0 => by rw [distance_zero_left, distance_zero_right]
  | i + 1, j + 1 => by
      have hswap : (1 ≤ i ∧ 1 ≤ j ∧ a i = b (j - 1) ∧ a (i - 1) = b j)
          ↔ (1 ≤ j ∧ 1 ≤ i ∧ b j = a (i - 1) ∧ b (j - 1) = a i) := by
        constructor <;> rintro ⟨hi, hj, hlast, hnext⟩ <;>
          exact ⟨hj, hi, hnext.symm, hlast.symm⟩
      have hinserted := distance_comm (i + 1) j
      have hdeleted := distance_comm i (j + 1)
      have hreplaced := distance_comm i j
      have hswapped := distance_comm (i - 1) (j - 1)
      have hsame : a i = b j ↔ b j = a i := eq_comm
      rw [distance, distance]
      simp only [hswap, hinserted, hdeleted, hreplaced, hswapped, hsame]
      rw [min_comm (distance b a j (i + 1) + 1)]
termination_by i j => i + j

/-! ### The table by rows -/

/-- The cells `0` to `width - 1` of row `i`. -/
def row (a b : ℕ → α) (width i : ℕ) : List ℕ := (List.range width).map (distance a b i)

theorem getD_row {width i j : ℕ} (h : j < width) :
    (row a b width i).getD j 0 = distance a b i j := by
  simp [row, List.getD_eq_getElem?_getD, h]

theorem row_zero (width : ℕ) : row a b width 0 = List.range width := by
  calc row a b width 0 = (List.range width).map id :=
        List.map_congr_left fun j _ => distance_zero_left j
    _ = List.range width := List.map_id _

theorem row_succ (width i : ℕ) :
    row a b (width + 1) i = row a b width i ++ [distance a b i width] := by
  rw [row, List.range_succ, List.map_append]
  rfl

/-- A row that is filled from the left, each cell by those before it. -/
theorem foldl_cells {cell : List ℕ → ℕ → ℕ} {width i : ℕ}
    (hcell : ∀ j < width, cell (row a b (j + 1) i) j = distance a b i (j + 1)) :
    (List.range width).foldl (fun current j => current ++ [cell current j]) [i]
      = row a b (width + 1) i := by
  induction width with
  | zero => simp [row, distance_zero_right]
  | succ width ih =>
      rw [List.range_succ, List.foldl_concat,
        ih fun j hj => hcell j (hj.trans (Nat.lt_succ_self width)),
        hcell width (Nat.lt_succ_self width), row_succ (width + 1)]

/-- Two rows that roll down the table. What stands in for the row above the first is not read. -/
theorem foldl_rows {next : ℕ → List ℕ → List ℕ → List ℕ} {width : ℕ}
    (hnext : ∀ i before, (1 ≤ i → before = row a b width (i - 1)) →
      next i (row a b width i) before = row a b width (i + 1)) (before : List ℕ) (count : ℕ) :
    let rows := (List.range count).foldl (fun rows i => (next i rows.1 rows.2, rows.1))
      (row a b width 0, before)
    rows.1 = row a b width count ∧ (1 ≤ count → rows.2 = row a b width (count - 1)) := by
  induction count with
  | zero => exact ⟨rfl, fun h => absurd h (by decide)⟩
  | succ count ih =>
      obtain ⟨hprevious, hbefore⟩ := ih
      rw [List.range_succ, List.foldl_concat]
      refine ⟨?_, fun _ => hprevious⟩
      dsimp only
      rw [hprevious]
      exact hnext count _ hbefore

end ContextSnap.Alignment
