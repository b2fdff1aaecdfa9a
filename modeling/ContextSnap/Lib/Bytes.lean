import Mathlib.Tactic

/-!
# Byte strings

A `std::string` is a sequence of bytes with no encoding attached, so every text of the program is a
list of bytes here. String literals enter through `str`, which is injective, so that two keys of a
document are told apart by comparing the literals themselves.
-/

namespace ContextSnap

/-- A `std::string` or `std::string_view`. -/
abbrev Bytes := List UInt8

/-- The bytes of a string literal. -/
def str (text : String) : Bytes := text.toByteArray.data.toList

@[simp]
theorem str_inj {left right : String} : str left = str right ↔ left = right := by
  constructor
  · intro h
    apply String.toByteArray_inj.mp
    exact ByteArray.ext (Array.toList_inj.mp h)
  · exact fun h => h ▸ rfl

/-! ### ASCII, as the C locale sees it -/

/-- `std::tolower` in the C locale. -/
def toLower (c : UInt8) : UInt8 := if 65 ≤ c ∧ c ≤ 90 then c + 32 else c

/-- `std::toupper` in the C locale. -/
def toUpper (c : UInt8) : UInt8 := if 97 ≤ c ∧ c ≤ 122 then c - 32 else c

/-- The `lower` helper that several source files keep for themselves. -/
def lower (text : Bytes) : Bytes := text.map toLower

theorem eq_of_toLower {c d : UInt8} (hd : d < 97 ∨ 122 < d) (h : toLower c = d) : c = d := by
  rw [toLower] at h
  split at h <;> grind

theorem toLower_toLower (c : UInt8) : toLower (toLower c) = toLower c := by
  unfold toLower
  split <;> grind

theorem lower_lower (text : Bytes) : lower (lower text) = lower text := by
  rw [lower, lower, List.map_map]
  exact List.map_congr_left fun c _ => toLower_toLower c

theorem length_lower (text : Bytes) : (lower text).length = text.length := List.length_map _

theorem lower_append (text more : Bytes) : lower (text ++ more) = lower text ++ lower more :=
  List.map_append

theorem mem_of_mem_lower {text : Bytes} {d : UInt8} (hd : d < 97 ∨ 122 < d) (h : d ∈ lower text) :
    d ∈ text := by
  obtain ⟨c, hc, hlower⟩ := List.mem_map.mp h
  rwa [← eq_of_toLower hd hlower]

def isDigit (c : UInt8) : Bool := 48 ≤ c && c ≤ 57

/-- `std::isspace` in the C locale. -/
def isSpace (c : UInt8) : Bool := c == 32 || (9 ≤ c && c ≤ 13)

/-! ### Decimal numerals -/

/-- `std::to_string` of a natural number. -/
def decimal (n : Nat) : Bytes := (Nat.toDigits 10 n).map Char.toUInt8

/-- The number a run of decimal digits spells. -/
def digitsValue (digits : Bytes) : Nat :=
  digits.foldl (fun value c => 10 * value + (c.toNat - 48)) 0

/-- `std::to_string` of a signed integer. -/
def decimalInt (i : Int) : Bytes :=
  if i < 0 then str "-" ++ decimal i.natAbs else decimal i.natAbs

private theorem toNat_toUInt8_of_isDigit {c : Char} (h : c.isDigit = true) :
    c.toUInt8.toNat = c.toNat := by
  simp only [Char.isDigit, Bool.and_eq_true, decide_eq_true_eq] at h
  have hle : c.toNat ≤ 57 := UInt32.le_iff_toNat_le.mp h.2
  simp only [Char.toUInt8, UInt32.toNat_toUInt8]
  exact Nat.mod_eq_of_lt (by change c.toNat < 256; omega)

theorem isDigit_of_mem_decimal {n : Nat} {c : UInt8} (h : c ∈ decimal n) : isDigit c = true := by
  obtain ⟨d, hd, rfl⟩ := List.mem_map.mp h
  have hdigit := Nat.isDigit_of_mem_toDigits (by decide) (by decide) hd
  have hval := toNat_toUInt8_of_isDigit hdigit
  simp only [Char.isDigit, Bool.and_eq_true, decide_eq_true_eq] at hdigit
  have hlow : 48 ≤ d.toNat := UInt32.le_iff_toNat_le.mp hdigit.1
  have hhigh : d.toNat ≤ 57 := UInt32.le_iff_toNat_le.mp hdigit.2
  simp only [isDigit, Bool.and_eq_true, decide_eq_true_eq, UInt8.le_iff_toNat_le, hval]
  exact ⟨hlow, hhigh⟩

theorem decimal_ne_nil (n : Nat) : decimal n ≠ [] := by
  simp [decimal, Nat.toDigits_ne_nil]

theorem digitsValue_decimal (n : Nat) : digitsValue (decimal n) = n := by
  have hfold : ∀ (digits : List Char) (start : Nat), (∀ c ∈ digits, c.isDigit = true) →
      (digits.map Char.toUInt8).foldl (fun value c => 10 * value + (c.toNat - 48)) start
        = Nat.ofDigitChars 10 digits start := by
    intro digits
    induction digits with
    | nil => intro start _; simp
    | cons c digits ih =>
        intro start hdigits
        have hc := toNat_toUInt8_of_isDigit (hdigits c (by simp))
        simp only [List.map_cons, List.foldl_cons, Nat.ofDigitChars_cons, hc]
        exact ih _ fun d hd => hdigits d (by simp [hd])
  rw [digitsValue, decimal, hfold _ _ fun c hc =>
    Nat.isDigit_of_mem_toDigits (by decide) (by decide) hc]
  exact Nat.ofDigitChars_ten_toDigits

end ContextSnap
