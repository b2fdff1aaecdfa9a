import ContextSnap.Lib.JsonText

/-!
# UTF-16

A scalar value is one unit of 16 bits or a surrogate pair. Units that were not made from scalar
values are read all the same: a surrogate outside of a pair is taken for a code point.
-/

namespace ContextSnap.Utf16

open JsonText (utf8)

def IsHigh (unit : UInt16) : Prop := 0xD800 ≤ unit.toNat ∧ unit.toNat ≤ 0xDBFF

def IsLow (unit : UInt16) : Prop := 0xDC00 ≤ unit.toNat ∧ unit.toNat ≤ 0xDFFF

instance (unit : UInt16) : Decidable (IsHigh unit) := inferInstanceAs (Decidable (_ ∧ _))

instance (unit : UInt16) : Decidable (IsLow unit) := inferInstanceAs (Decidable (_ ∧ _))

def pairValue (high low : UInt16) : ℕ :=
  0x10000 + 0x400 * (high.toNat - 0xD800) + (low.toNat - 0xDC00)

def codePoints : List UInt16 → List ℕ
  | [] => []
  | [unit] => [unit.toNat]
  | high :: low :: rest =>
      if IsHigh high ∧ IsLow low then pairValue high low :: codePoints rest
      else high.toNat :: codePoints (low :: rest)

def encodeChar (c : Char) : List UInt16 :=
  if c.toNat < 0x10000 then [UInt16.ofNat c.toNat]
  else [UInt16.ofNat (0xD800 + (c.toNat - 0x10000) / 0x400),
    UInt16.ofNat (0xDC00 + (c.toNat - 0x10000) % 0x400)]

/-! ### Decoding -/

section Decoding

variable {high low unit : UInt16} {rest : List UInt16}

theorem codePoints_pair (hhigh : IsHigh high) (hlow : IsLow low) :
    codePoints (high :: low :: rest) = pairValue high low :: codePoints rest := by
  rw [codePoints, if_pos ⟨hhigh, hlow⟩]

/-- A unit that starts no pair. -/
theorem codePoints_single (h : IsHigh unit → ∀ low ∈ rest.head?, ¬IsLow low) :
    codePoints (unit :: rest) = unit.toNat :: codePoints rest := by
  cases rest with
  | nil => rfl
  | cons low rest =>
      rw [codePoints, if_neg]
      rintro ⟨hhigh, hlow⟩
      exact h hhigh low rfl hlow

theorem pairValue_lt (hhigh : IsHigh high) (hlow : IsLow low) : pairValue high low < 0x110000 := by
  obtain ⟨-, hhigh⟩ := hhigh
  obtain ⟨-, hlow⟩ := hlow
  unfold pairValue
  omega

end Decoding

/-! ### Scalar values -/

theorem toNat_lt (c : Char) : c.toNat < 0x110000 := by
  have hvalid := c.valid
  simp only [UInt32.isValidChar, Nat.isValidChar] at hvalid
  change c.val.toNat < _
  omega

theorem toNat_unit {n : ℕ} (h : n < 0x10000) : (UInt16.ofNat n).toNat = n := by
  rw [UInt16.toNat_ofNat']
  exact Nat.mod_eq_of_lt h

theorem codePoints_encodeChar_append (c : Char) (rest : List UInt16) :
    codePoints (encodeChar c ++ rest) = c.toNat :: codePoints rest := by
  have hlt := toNat_lt c
  rw [encodeChar]
  split
  · next hsmall =>
      have hvalue := toNat_unit hsmall
      have hscalar : c.toNat < 0xD800 ∨ 0xDFFF < c.toNat ∧ c.toNat < 0x110000 := c.valid
      rw [List.singleton_append, codePoints_single, hvalue]
      rintro ⟨hfirst, hlast⟩
      omega
  · next hlarge =>
      have hhigh : (UInt16.ofNat (0xD800 + (c.toNat - 0x10000) / 0x400)).toNat = _ :=
        toNat_unit (by omega)
      have hlow : (UInt16.ofNat (0xDC00 + (c.toNat - 0x10000) % 0x400)).toNat = _ :=
        toNat_unit (by omega)
      generalize UInt16.ofNat _ = high at hhigh ⊢
      generalize UInt16.ofNat _ = low at hlow ⊢
      have hpair : pairValue high low = c.toNat := by
        unfold pairValue
        omega
      rw [List.cons_append, List.singleton_append, codePoints_pair, hpair]
      · exact ⟨by omega, by omega⟩
      · exact ⟨by omega, by omega⟩

/-- **Round trip.** -/
theorem codePoints_encode (chars : List Char) :
    codePoints (chars.flatMap encodeChar) = chars.map Char.toNat := by
  induction chars with
  | nil => rfl
  | cons c chars ih =>
      rw [List.flatMap_cons, codePoints_encodeChar_append, ih, List.map_cons]

theorem utf8_toNat (c : Char) : utf8 c.toNat = String.utf8EncodeChar c := by
  have hvalid : c.toNat.isValidChar := c.valid
  rw [utf8, if_pos hvalid, Char.ofNat_toNat]

/-- Well-formed units are the UTF-8 text of what they were made from. -/
theorem utf8_codePoints_encode (chars : List Char) :
    (codePoints (chars.flatMap encodeChar)).flatMap utf8
      = chars.flatMap String.utf8EncodeChar := by
  rw [codePoints_encode, List.flatMap_map]
  exact List.flatMap_congr fun c _ => utf8_toNat c

end ContextSnap.Utf16
