import Mathlib.Tactic

/-!
# Positional numerals of a fixed width

The digits of a number, the most significant first and as many as asked for, whatever is above them
cut off. Numerals of one width are compared like the numbers they keep, which is what makes a text
in an alphabet that is in order sort like the numbers it spells.
-/

namespace ContextSnap.Positional

/-- The last `count` digits of a number. -/
def digits (base : Nat) : Nat → Nat → List Nat
  | 0, _ => []
  | count + 1, value => digits base count (value / base) ++ [value % base]

/-- The number that digits spell behind a number. -/
def ofDigits (base start : Nat) (digits : List Nat) : Nat :=
  digits.foldl (fun value digit => base * value + digit) start

section

variable {base : Nat} (count value : Nat)

@[simp]
theorem length_digits : (digits base count value).length = count := by
  induction count generalizing value with
  | zero => rfl
  | succ count ih => rw [digits, List.length_append, ih, List.length_singleton]

theorem lt_of_mem_digits (hbase : 0 < base) {digit : Nat} (h : digit ∈ digits base count value) :
    digit < base := by
  induction count generalizing value with
  | zero => cases h
  | succ count ih =>
      rcases List.mem_append.mp h with h | h
      · exact ih _ h
      · rw [List.mem_singleton.mp h]
        exact Nat.mod_lt value hbase

theorem digits_head (h : 0 < count) :
    (digits base count value).head? = some (value / base ^ (count - 1) % base) := by
  obtain ⟨count, rfl⟩ : ∃ n, count = n + 1 := ⟨count - 1, by omega⟩
  induction count generalizing value with
  | zero => simp [digits]
  | succ count ih =>
      rw [digits, List.head?_append, ih _ (Nat.succ_pos _), Option.some_or, Nat.add_sub_cancel,
        Nat.add_sub_cancel, Nat.div_div_eq_div_mul, pow_succ']

theorem mod_base_pow_succ :
    value % base ^ (count + 1) = base * (value / base % base ^ count) + value % base := by
  rw [pow_succ', Nat.mod_mul, Nat.add_comm]

theorem ofDigits_digits : ofDigits base 0 (digits base count value) = value % base ^ count := by
  induction count generalizing value with
  | zero => rw [pow_zero, Nat.mod_one]; rfl
  | succ count ih =>
      rw [digits, ofDigits, List.foldl_concat, ← ofDigits, ih, mod_base_pow_succ]

end

/-! ### Order -/

section Order

variable {α : Type} [Ord α]

theorem compare_append {first first' : List α} (hlength : first.length = first'.length)
    (second second' : List α) :
    compare (first ++ second) (first' ++ second')
      = (compare first first').then (compare second second') := by
  induction first generalizing first' with
  | nil =>
      rw [List.eq_nil_of_length_eq_zero hlength.symm]
      rfl
  | cons a first ih =>
      obtain ⟨b, first', rfl⟩ := List.exists_cons_of_length_eq_add_one hlength.symm
      rw [List.cons_append, List.cons_append, List.compare_cons_cons, List.compare_cons_cons,
        ih (Nat.succ.inj hlength), Ordering.then_assoc]

theorem compare_map {base : Nat} {letter : Nat → α}
    (hletter : ∀ d < base, ∀ d' < base, compare (letter d) (letter d') = compare d d')
    {first second : List Nat} (hfirst : ∀ d ∈ first, d < base) (hsecond : ∀ d ∈ second, d < base) :
    compare (first.map letter) (second.map letter) = compare first second := by
  induction first generalizing second with
  | nil => cases second <;> rfl
  | cons d first ih =>
      cases second with
      | nil => rfl
      | cons d' second =>
          rw [List.map_cons, List.map_cons, List.compare_cons_cons, List.compare_cons_cons,
            hletter d (hfirst d (List.mem_cons_self ..)) d' (hsecond d' (List.mem_cons_self ..)),
            ih (fun d hd => hfirst d (List.mem_cons_of_mem _ hd))
              fun d hd => hsecond d (List.mem_cons_of_mem _ hd)]

end Order

/-- Numbers are compared by what is above their last digit first. -/
theorem compare_mul_add {base high high' low low' : Nat} (hlow : low < base) (hlow' : low' < base) :
    compare (base * high + low) (base * high' + low')
      = (compare high high').then (compare low low') := by
  rcases Nat.lt_trichotomy high high' with h | h | h
  · have hnext : base * (high + 1) ≤ base * high' := Nat.mul_le_mul_left base h
    rw [Nat.mul_succ] at hnext
    rw [Nat.compare_eq_lt.mpr h, Nat.compare_eq_lt.mpr (by omega)]
    rfl
  · subst h
    rw [Nat.compare_eq_eq.mpr rfl, Ordering.eq_then]
    rcases Nat.lt_trichotomy low low' with h | h | h
    · rw [Nat.compare_eq_lt.mpr h, Nat.compare_eq_lt.mpr (by omega)]
    · rw [Nat.compare_eq_eq.mpr h, Nat.compare_eq_eq.mpr (by omega)]
    · rw [Nat.compare_eq_gt.mpr h, Nat.compare_eq_gt.mpr (by omega)]
  · have hnext : base * (high' + 1) ≤ base * high := Nat.mul_le_mul_left base h
    rw [Nat.mul_succ] at hnext
    rw [Nat.compare_eq_gt.mpr h, Nat.compare_eq_gt.mpr (by omega)]
    rfl

/-- **The order of numerals** of one width is the order of the numbers they keep. -/
theorem compare_digits {base : Nat} (hbase : 0 < base) (count value value' : Nat) :
    compare (digits base count value) (digits base count value')
      = compare (value % base ^ count) (value' % base ^ count) := by
  induction count generalizing value value' with
  | zero =>
      rw [pow_zero, Nat.mod_one, Nat.mod_one]
      rfl
  | succ count ih =>
      have hlast : compare [value % base] [value' % base]
          = compare (value % base) (value' % base) := by
        rw [List.compare_cons_cons, List.compare_nil_nil, Ordering.then_eq]
      rw [digits, digits, compare_append (by rw [length_digits, length_digits]), ih, hlast,
        mod_base_pow_succ, mod_base_pow_succ,
        compare_mul_add (Nat.mod_lt _ hbase) (Nat.mod_lt _ hbase)]

end ContextSnap.Positional
