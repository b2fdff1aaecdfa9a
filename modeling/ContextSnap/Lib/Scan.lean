import ContextSnap.Lib.Numeric
import Mathlib.Data.List.TakeWhile

/-!
# `sscanf` and zero-padded fields

The conversions `%<width>d` and the literal bytes of a `sscanf` format, and the fixed-width decimal
fields that it reads back.
-/

namespace ContextSnap

inductive ScanDirective where
  | int (width : Nat)
  | literal (c : UInt8)

/-- `%<width>d`. The sign counts for the width, leading spaces do not. -/
def scanInt (width : Nat) (text : Bytes) : Option (Int × Bytes) :=
  let text := text.dropWhile isSpace
  let sign := signPrefix text
  let digits := ((text.drop sign.length).take (width - sign.length)).takeWhile isDigit
  if digits = [] then
    none
  else
    some (signed (decide (sign = str "-")) (digitsValue digits),
      text.drop (sign.length + digits.length))

/-- The values converted before the first directive that fails. -/
def sscanf : List ScanDirective → Bytes → List Int
  | [], _ => []
  | .int width :: format, text =>
      match scanInt width text with
      | some (value, rest) => value :: sscanf format rest
      | none => []
  | .literal _ :: _, [] => []
  | .literal c :: format, c' :: rest => if c' = c then sscanf format rest else []

/-- `std::setw(width)` with `0` as the fill character. -/
def zeroPadded (width : Nat) (text : Bytes) : Bytes :=
  List.replicate (width - text.length) 48 ++ text

/-- The part of a `std::string` that its `c_str()` shows. -/
def cString (text : Bytes) : Bytes := text.takeWhile (· ≠ 0)

theorem length_decimal_le_iff {n width : Nat} (hwidth : 0 < width) :
    (decimal n).length ≤ width ↔ n < 10 ^ width := by
  rw [decimal, List.length_map]
  exact Nat.length_toDigits_le_iff (by decide) hwidth

theorem digitsValue_zeros (count : Nat) (digits : Bytes) :
    digitsValue (List.replicate count 48 ++ digits) = digitsValue digits := by
  induction count with
  | zero => rfl
  | succ count ih => simpa [digitsValue, List.replicate_succ] using ih

/-- A number as a decimal field of exactly `width` digits. -/
def IsField (width : Nat) (n : Nat) (field : Bytes) : Prop :=
  field.length = width ∧ (∀ c ∈ field, isDigit c = true) ∧ digitsValue field = n

theorem isField_zeroPadded {width n : Nat} (hwidth : 0 < width) (hn : n < 10 ^ width) :
    IsField width n (zeroPadded width (decimal n)) := by
  have hlength := (length_decimal_le_iff hwidth).mpr hn
  refine ⟨?_, ?_, ?_⟩
  · simp only [zeroPadded, List.length_append, List.length_replicate]
    omega
  · intro c hc
    rcases List.mem_append.mp hc with hzero | hdigit
    · rw [List.eq_of_mem_replicate hzero]
      rfl
    · exact isDigit_of_mem_decimal hdigit
  · rw [zeroPadded, digitsValue_zeros, digitsValue_decimal]

/-- A number without leading zeros is a field of as many digits as it has. -/
theorem isField_decimal {width n : Nat} (hwidth : 0 < width) (hlow : 10 ^ width ≤ n)
    (hhigh : n < 10 ^ (width + 1)) : IsField (width + 1) n (decimal n) := by
  have hle := (length_decimal_le_iff (Nat.succ_pos width)).mpr hhigh
  have hgt := mt (length_decimal_le_iff hwidth).mp (Nat.not_lt.mpr hlow)
  refine ⟨by omega, ?_, digitsValue_decimal n⟩
  exact fun c hc => isDigit_of_mem_decimal hc

/-- A field is read in full, whatever follows it. -/
theorem scanInt_field {width n : Nat} {field : Bytes} (hwidth : 0 < width)
    (h : IsField width n field) (rest : Bytes) :
    scanInt width (field ++ rest) = some ((n : Int), rest) := by
  obtain ⟨hlength, hdigits, hvalue⟩ := h
  have hnonempty : field ≠ [] := by
    rintro rfl
    exact hwidth.ne hlength
  obtain ⟨c, tail, hfield⟩ := List.exists_cons_of_ne_nil hnonempty
  have hc := hdigits c (by simp [hfield])
  have hspace : (field ++ rest).dropWhile isSpace = field ++ rest := by
    simp [hfield, not_isSpace_of_isDigit hc]
  have hsign : signPrefix (field ++ rest) = [] := by
    simp only [isDigit, Bool.and_eq_true, decide_eq_true_eq] at hc
    have hne : ¬ (c = 45 ∨ c = 43) := by grind
    simp [hfield, signPrefix, hne]
  have htake : (field ++ rest).take width = field := by
    rw [← hlength, List.take_left]
  have hall : field.takeWhile isDigit = field :=
    List.takeWhile_eq_self_iff.mpr hdigits
  have hminus : ¬ ([] : Bytes) = str "-" := by decide
  simp only [scanInt, hspace, hsign, List.length_nil, List.drop_zero, Nat.sub_zero, htake, hall,
    hnonempty, ↓reduceIte, hvalue, hminus, decide_false, signed, Nat.zero_add]
  simp

end ContextSnap
