import ContextSnap.Lib.Calendar
import ContextSnap.Lib.Scan

/-!
# RFC 3339 date-times

The `date-time` production with the ranges of its fields, and the instant that a text denotes. The
letters `T` and `Z` may be small, the fraction of a second has any number of digits, and a second
may be a leap second, which counts as the one after it.
-/

namespace ContextSnap.Rfc3339

open Calendar

def daysInMonth (year month : Nat) : Nat :=
  if month = 2 then
    if year % 4 = 0 ∧ (year % 100 ≠ 0 ∨ year % 400 = 0) then 29 else 28
  else if month = 4 ∨ month = 6 ∨ month = 9 ∨ month = 11 then 30
  else 31

/-- The `time-offset` production. -/
inductive Offset where
  | zulu (small : Bool)
  | numeric (west : Bool) (hour : Fin 24) (minute : Fin 60)
  deriving DecidableEq

namespace Offset

def seconds : Offset → Int
  | .zulu _ => 0
  | .numeric west hour minute =>
      if west then -(3600 * hour + 60 * minute) else 3600 * hour + 60 * minute

def text : Offset → Bytes
  | .zulu small => [if small then 122 else 90]
  | .numeric west hour minute =>
      (if west then 45 else 43)
        :: (zeroPadded 2 (decimal hour) ++ 58 :: zeroPadded 2 (decimal minute))

end Offset

/-- A text of the production by its parts. No digits stand for no fraction. -/
structure DateTimeText where
  year : Nat
  month : Nat
  day : Nat
  smallT : Bool
  hour : Nat
  minute : Nat
  second : Nat
  fraction : Bytes
  offset : Offset
  year_lt : year < 10000
  month_bounds : 1 ≤ month ∧ month ≤ 12
  day_bounds : 1 ≤ day ∧ day ≤ daysInMonth year month
  hour_lt : hour < 24
  minute_lt : minute < 60
  second_le : second ≤ 60
  fraction_digits : fraction.all isDigit = true

namespace DateTimeText

variable (time : DateTimeText)

def fractionText : Bytes := if time.fraction = [] then [] else 46 :: time.fraction

def text : Bytes :=
  zeroPadded 4 (decimal time.year) ++ 45 :: (zeroPadded 2 (decimal time.month)
    ++ 45 :: (zeroPadded 2 (decimal time.day) ++ (if time.smallT then 116 else 84)
    :: (zeroPadded 2 (decimal time.hour) ++ 58 :: (zeroPadded 2 (decimal time.minute)
    ++ 58 :: (zeroPadded 2 (decimal time.second) ++ (time.fractionText ++ time.offset.text))))))

def clock : DateTime :=
  ⟨time.year, time.month, time.day, time.hour, time.minute, time.second⟩

/-- The milliseconds of the fraction, the rest of it cut off. -/
def fractionMillis : Nat := digitsValue time.fraction * 1000 / 10 ^ time.fraction.length

def millis : Int := (timegm time.clock - time.offset.seconds) * 1000 + time.fractionMillis

end DateTimeText

/-! ### Fractions -/

theorem digitsValue_append (digits more : Bytes) :
    digitsValue (digits ++ more) = digitsValue digits * 10 ^ more.length + digitsValue more := by
  have hfold : ∀ (more : Bytes) (start : Nat),
      more.foldl (fun value c => 10 * value + (c.toNat - 48)) start
        = start * 10 ^ more.length + digitsValue more := by
    intro more
    induction more with
    | nil => intro start; simp [digitsValue]
    | cons c more ih =>
        intro start
        have hhead : digitsValue (c :: more)
            = (10 * 0 + (c.toNat - 48)) * 10 ^ more.length + digitsValue more := ih _
        rw [List.foldl_cons, ih, hhead, List.length_cons, pow_succ]
        ring
  rw [digitsValue, List.foldl_append, ← digitsValue, hfold]

theorem digitsValue_lt {digits : Bytes} (h : ∀ c ∈ digits, isDigit c = true) :
    digitsValue digits < 10 ^ digits.length := by
  induction digits using List.reverseRecOn with
  | nil => simp [digitsValue]
  | append_singleton digits c ih =>
      have hrest := ih fun d hd => h d (List.mem_append_left _ hd)
      have hc := h c (List.mem_append_right _ (List.mem_singleton_self c))
      simp only [isDigit, Bool.and_eq_true, decide_eq_true_eq, UInt8.le_iff_toNat_le] at hc
      have hhigh : c.toNat ≤ 57 := hc.2
      have hvalue : digitsValue [c] = c.toNat - 48 := by simp [digitsValue]
      rw [digitsValue_append, hvalue, List.length_append, List.length_singleton, pow_one, pow_succ]
      omega

theorem digitsValue_eq_zero_iff {digits : Bytes} (h : ∀ c ∈ digits, isDigit c = true) :
    digitsValue digits = 0 ↔ ∀ c ∈ digits, c = 48 := by
  induction digits using List.reverseRecOn with
  | nil => simp [digitsValue]
  | append_singleton digits c ih =>
      have hrest := ih fun d hd => h d (List.mem_append_left _ hd)
      have hc := h c (List.mem_append_right _ (List.mem_singleton_self c))
      simp only [isDigit, Bool.and_eq_true, decide_eq_true_eq, UInt8.le_iff_toNat_le] at hc
      have hlow : 48 ≤ c.toNat := hc.1
      have hvalue : digitsValue [c] = c.toNat - 48 := by simp [digitsValue]
      have hcode : c.toNat = 48 ↔ c = 48 := UInt8.toNat_inj (b := 48)
      rw [digitsValue_append, hvalue, List.length_singleton, pow_one]
      simp only [List.mem_append, List.mem_singleton, or_imp, forall_and, forall_eq, ← hrest,
        ← hcode]
      omega

/-- The first three digits are the milliseconds exactly when they are there or all are zero. -/
theorem digitsValue_take_eq_iff {digits : Bytes} (h : ∀ c ∈ digits, isDigit c = true) :
    digitsValue (digits.take 3) = digitsValue digits * 1000 / 10 ^ digits.length
      ↔ 3 ≤ digits.length ∨ ∀ c ∈ digits, c = 48 := by
  rcases Nat.lt_or_ge digits.length 3 with hshort | hlong
  · rw [List.take_of_length_le hshort.le, ← digitsValue_eq_zero_iff h]
    have hcases : digits.length = 0 ∨ digits.length = 1 ∨ digits.length = 2 := by omega
    rcases hcases with hlength | hlength | hlength <;> rw [hlength]
    · have hzero : digitsValue digits = 0 := by
        rw [List.eq_nil_of_length_eq_zero hlength]
        rfl
      simp [hzero]
    · omega
    · omega
  · have hsplit := digitsValue_append (digits.take 3) (digits.drop 3)
    have hkept : ∀ c ∈ digits.drop 3, isDigit c = true := fun c hc => h c (List.mem_of_mem_drop hc)
    have hrest := digitsValue_lt hkept
    have hlength : (digits.drop 3).length = digits.length - 3 := List.length_drop
    have hpower : 10 ^ digits.length = 1000 * 10 ^ (digits.length - 3) := by
      rw [show digits.length = 3 + (digits.length - 3) by omega, pow_add]
      simp
    rw [List.take_append_drop, hlength] at hsplit
    rw [hlength] at hrest
    refine iff_of_true ?_ (.inl hlong)
    rw [hpower, Nat.mul_comm _ 1000, Nat.mul_div_mul_left _ _ (by decide), hsplit, Nat.mul_comm,
      Nat.mul_add_div (by positivity), Nat.div_eq_of_lt hrest, Nat.add_zero]

end ContextSnap.Rfc3339
