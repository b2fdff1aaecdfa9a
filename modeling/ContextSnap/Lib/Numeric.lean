import ContextSnap.Lib.Bytes

/-!
# Numerals of the C library

`std::stoll` and `std::stod` convert the longest prefix that is a numeral and report how much of the
text they used; both throw when there is no numeral at all or when its value is out of range. The
`%g` conversion of `printf` goes the other way. All three are given for the C locale and in base
ten, the only one the program asks for; the hexadecimal, `inf` and `nan` spellings of `strtod` need
letters that no text handed to it here contains.

A `double` is a `Float`, whose arithmetic and rounding the kernel can evaluate.
-/

namespace ContextSnap

/-- An optional sign at the front of a numeral. -/
def signPrefix : Bytes → Bytes
  | c :: _ => if c = 45 ∨ c = 43 then [c] else []
  | [] => []

/-! ### Integers -/

/-- The value `strtoll` converts and how many bytes it used. -/
def strtoll (text : Bytes) : Option (Int × Nat) :=
  let space := text.takeWhile isSpace
  let sign := signPrefix (text.drop space.length)
  let digits := (text.drop (space.length + sign.length)).takeWhile isDigit
  if digits = [] then
    none
  else
    let value : Int := digitsValue digits
    some (if sign = str "-" then -value else value, space.length + sign.length + digits.length)

def FitsInt64 (value : Int) : Prop := -2 ^ 63 ≤ value ∧ value < 2 ^ 63

instance (value : Int) : Decidable (FitsInt64 value) :=
  inferInstanceAs (Decidable (_ ∧ _))

/-- `std::stoll`, where `none` is an exception. -/
def stoll (text : Bytes) : Option (Int64 × Nat) :=
  match strtoll text with
  | none => none
  | some (value, consumed) =>
      if FitsInt64 value then some (Int64.ofInt value, consumed) else none

theorem not_isSpace_of_isDigit {c : UInt8} (h : isDigit c = true) : isSpace c = false := by
  simp only [isDigit, Bool.and_eq_true, decide_eq_true_eq] at h
  simp only [isSpace, Bool.or_eq_false_iff, beq_eq_false_iff_ne, Bool.and_eq_false_iff,
    decide_eq_false_iff_not]
  grind

/-- The sign of a decimal literal. -/
def minus (negative : Bool) : Bytes := if negative then [45] else []

def signed (negative : Bool) (magnitude : Nat) : Int :=
  if negative then -magnitude else magnitude

theorem signPrefix_digits (negative : Bool) {digits : Bytes} (hnonempty : digits ≠ [])
    (hdigits : ∀ c ∈ digits, isDigit c = true) :
    signPrefix (minus negative ++ digits) = minus negative := by
  cases negative with
  | true => rfl
  | false =>
      obtain ⟨c, rest, rfl⟩ := List.exists_cons_of_ne_nil hnonempty
      have hc := hdigits c (by simp)
      simp only [isDigit, Bool.and_eq_true, decide_eq_true_eq] at hc
      have hsign : ¬ (c = 45 ∨ c = 43) := by grind
      simp [minus, signPrefix, hsign]

/-- A decimal literal is converted in full. -/
theorem stoll_digits (negative : Bool) {digits : Bytes} (hnonempty : digits ≠ [])
    (hdigits : ∀ c ∈ digits, isDigit c = true)
    (hfits : FitsInt64 (signed negative (digitsValue digits))) :
    stoll (minus negative ++ digits)
      = some (Int64.ofInt (signed negative (digitsValue digits)),
          (minus negative ++ digits).length) := by
  have hspace : (minus negative ++ digits).takeWhile isSpace = [] := by
    obtain ⟨c, rest, rfl⟩ := List.exists_cons_of_ne_nil hnonempty
    cases negative with
    | true => rfl
    | false =>
        have hc := not_isSpace_of_isDigit (hdigits c (by simp))
        simp [minus, hc]
  have htake : digits.takeWhile isDigit = digits := by
    simpa using @List.takeWhile_append_of_pos _ isDigit digits [] hdigits
  have hvalue : (if minus negative = str "-" then -(digitsValue digits : Int)
      else digitsValue digits) = signed negative (digitsValue digits) := by
    cases negative <;> rfl
  have hscan : strtoll (minus negative ++ digits)
      = some (signed negative (digitsValue digits), (minus negative ++ digits).length) := by
    simp only [strtoll, hspace, List.length_nil, List.drop_zero, Nat.zero_add,
      signPrefix_digits negative hnonempty hdigits, List.drop_left, htake, if_neg hnonempty,
      hvalue, List.length_append]
  simp only [stoll, hscan, if_pos hfits]

/-! ### Floating-point numbers -/

/-- The decimal number `±mantissa · 10 ^ exponent`. -/
structure Decimal where
  negative : Bool
  mantissa : Nat
  exponent : Int
  deriving DecidableEq

/-- The exponent part of a numeral, when it is complete. -/
def exponentPart : Bytes → Option Int
  | c :: rest =>
      if c = 101 ∨ c = 69 then
        let sign := signPrefix rest
        let digits := (rest.drop sign.length).takeWhile isDigit
        if digits = [] then none
        else some (if sign = str "-" then -(digitsValue digits : Int) else digitsValue digits)
      else none
  | [] => none

/-- The decimal number at the front of a text, by the longest prefix. -/
def decimalPrefix (text : Bytes) : Option Decimal :=
  let text := text.dropWhile isSpace
  let sign := signPrefix text
  let text := text.drop sign.length
  let whole := text.takeWhile isDigit
  let text := text.drop whole.length
  let fraction := match text with
    | 46 :: rest => rest.takeWhile isDigit
    | _ => []
  if whole ++ fraction = [] then
    none
  else
    let text := match text with
      | 46 :: rest => rest.drop fraction.length
      | _ => text
    some { negative := sign == str "-",
           mantissa := digitsValue (whole ++ fraction),
           exponent := (exponentPart text).getD 0 - fraction.length }

namespace Decimal

/-- The nearest `double`, infinite when there is none in range. -/
def toFloat (d : Decimal) : Float :=
  let magnitude := Float.ofScientific d.mantissa (d.exponent < 0) d.exponent.natAbs
  if d.negative then -magnitude else magnitude

/-- The result is below the normal range and had to be rounded. -/
def underflows (d : Decimal) : Bool :=
  let scale := 10 ^ d.exponent.natAbs
  d.mantissa != 0 && d.exponent < 0 && d.mantissa * 2 ^ 1076 < (2 ^ 54 - 1) * scale
    && d.mantissa * 2 ^ 1074 % scale != 0

end Decimal

/-- The value `strtod` returns. -/
def strtod (text : Bytes) : Float := ((decimalPrefix text).map Decimal.toFloat).getD 0

/-- `std::stod`, where `none` is an exception. -/
def stod (text : Bytes) : Option Float :=
  match decimalPrefix text with
  | none => none
  | some d => if d.toFloat.isInf || d.underflows then none else some d.toFloat

/-! ### `printf` -/

/-- The magnitude of a finite `double` as a fraction. -/
def magnitudeFraction (value : Float) : Nat × Nat :=
  let bits := value.toBits.toNat
  let biased := bits / 2 ^ 52 % 2 ^ 11
  let fraction := bits % 2 ^ 52
  if biased = 0 then (fraction, 2 ^ 1074)
  else if biased ≤ 1075 then (fraction + 2 ^ 52, 2 ^ (1075 - biased))
  else ((fraction + 2 ^ 52) * 2 ^ (biased - 1075), 1)

/-- The exponent of the leading decimal digit of a positive fraction. -/
def leadingExponent (numerator denominator : Nat) : Int :=
  if denominator ≤ numerator then
    (Nat.toDigits 10 (numerator / denominator)).length - 1
  else
    -(((List.range 400).find? fun k => denominator ≤ numerator * 10 ^ k).getD 400 : Nat)

/-- The quotient to the nearest integer, ties to even. -/
def roundHalfEven (numerator denominator : Nat) : Nat :=
  let quotient := numerator / denominator
  let twice := 2 * (numerator % denominator)
  if twice < denominator then quotient
  else if denominator < twice then quotient + 1
  else if quotient % 2 = 0 then quotient else quotient + 1

/-- The first `precision` significant digits of a positive fraction, as one integer, and the
exponent of the first of them. -/
def significantDigits (precision numerator denominator : Nat) : Nat × Int :=
  let leading := leadingExponent numerator denominator
  let shift := (precision : Int) - 1 - leading
  let digits := roundHalfEven (numerator * 10 ^ shift.toNat) (denominator * 10 ^ (-shift).toNat)
  if digits = 10 ^ precision then (10 ^ (precision - 1), leading + 1) else (digits, leading)

/-- The digits after the point, less their trailing zeros, with the point. -/
def fractionText (digits : Bytes) : Bytes :=
  let kept := (digits.reverse.dropWhile (· == 48)).reverse
  if kept = [] then [] else 46 :: kept

/-- `printf("%.*g", precision, value)` for a finite value and a positive precision. -/
def formatG (precision : Nat) (value : Float) : Bytes :=
  let sign := if 2 ^ 63 ≤ value.toBits.toNat then str "-" else []
  let (numerator, denominator) := magnitudeFraction value
  if numerator = 0 then
    sign ++ str "0"
  else
    let (significand, exponent) := significantDigits precision numerator denominator
    let digits := decimal significand
    if -4 ≤ exponent ∧ exponent < precision then
      if 0 ≤ exponent then
        sign ++ digits.take (exponent.toNat + 1) ++ fractionText (digits.drop (exponent.toNat + 1))
      else
        sign ++ str "0" ++ fractionText (List.replicate ((-exponent).toNat - 1) 48 ++ digits)
    else
      let mark := if exponent < 0 then str "e-" else str "e+"
      let power := decimal exponent.natAbs
      sign ++ digits.take 1 ++ fractionText (digits.drop 1) ++ mark
        ++ (if power.length < 2 then 48 :: power else power)

set_option maxRecDepth 10000 in
example : formatG 17 0.1 = str "0.10000000000000001" := by decide

set_option maxRecDepth 10000 in
example : formatG 6 1e300 = str "1e+300" ∧ formatG 3 0.000012345 = str "1.23e-05" := by
  decide

end ContextSnap
