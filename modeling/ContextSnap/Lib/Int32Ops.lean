import Mathlib.Tactic

/-!
# Operations on `int32_t`

An addition, subtraction or multiplication of two machine integers, with the result that the machine
gives and the one that arithmetic gives. They are the same unless the latter is out of range.
-/

namespace ContextSnap

inductive Int32Op where
  | add (a b : Int32)
  | sub (a b : Int32)
  | mul (a b : Int32)
  deriving DecidableEq, Repr

namespace Int32Op

def value : Int32Op → Int32
  | .add a b => a + b
  | .sub a b => a - b
  | .mul a b => a * b

def exact : Int32Op → ℤ
  | .add a b => a.toInt + b.toInt
  | .sub a b => a.toInt - b.toInt
  | .mul a b => a.toInt * b.toInt

def InRange (op : Int32Op) : Prop := -2 ^ 31 ≤ op.exact ∧ op.exact < 2 ^ 31

instance (op : Int32Op) : Decidable op.InRange :=
  inferInstanceAs (Decidable (-2 ^ 31 ≤ op.exact ∧ op.exact < 2 ^ 31))

/-- **No overflow.** -/
theorem toInt_value {op : Int32Op} (h : op.InRange) : op.value.toInt = op.exact := by
  obtain ⟨hlow, hhigh⟩ := h
  have hsame : op.exact.bmod (2 ^ 32) = op.exact :=
    Int.bmod_eq_of_le (by norm_num at *; omega) (by norm_num at *; omega)
  cases op with
  | add a b => exact (Int32.toInt_add a b).trans hsame
  | sub a b => exact (Int32.toInt_sub a b).trans hsame
  | mul a b => exact (Int32.toInt_mul a b).trans hsame

end Int32Op

theorem toInt_max (a b : Int32) : (max a b).toInt = max a.toInt b.toInt := by
  change (if a ≤ b then b else a).toInt = _
  rw [max_def]
  split_ifs with h h' h'
  · rfl
  · exact absurd (Int32.le_iff_toInt_le.mp h) h'
  · exact absurd (Int32.le_iff_toInt_le.mpr h') h
  · rfl

theorem toInt_min (a b : Int32) : (min a b).toInt = min a.toInt b.toInt := by
  change (if a ≤ b then a else b).toInt = _
  rw [min_def]
  split_ifs with h h' h'
  · rfl
  · exact absurd (Int32.le_iff_toInt_le.mp h) h'
  · exact absurd (Int32.le_iff_toInt_le.mpr h') h
  · rfl

/-- A product fits into twice the width. -/
theorem toInt_mul_toInt64 (a b : Int32) :
    (a.toInt64 * b.toInt64).toInt = a.toInt * b.toInt := by
  have hsmall : |a.toInt * b.toInt| ≤ 2 ^ 31 * 2 ^ 31 := by
    rw [abs_mul]
    have habs : ∀ i : Int32, |i.toInt| ≤ 2 ^ 31 := fun i =>
      abs_le.mpr ⟨i.le_toInt, i.toInt_lt.le⟩
    gcongr
    · exact habs a
    · exact habs b
  obtain ⟨hlow, hhigh⟩ := abs_le.mp hsmall
  rw [Int64.toInt_mul, Int32.toInt_toInt64, Int32.toInt_toInt64]
  exact Int.bmod_eq_of_le (by norm_num at *; omega) (by norm_num at *; omega)

end ContextSnap
