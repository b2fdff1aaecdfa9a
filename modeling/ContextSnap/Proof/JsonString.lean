import ContextSnap.Core.Json
import ContextSnap.Lib.JsonText

/-!
# String literals

`parse_string` accepts exactly the string literals of the grammar and returns the bytes they stand
for.
-/

namespace ContextSnap.Json

open JsonText

/-! ### UTF-8 -/

private theorem or_eq_add {mark low : Nat} (k : Nat) (hmark : mark % 2 ^ k = 0) (hlow : low < 2 ^ k) :
    mark ||| low = mark + low := by
  have hmul : 2 ^ k * (mark / 2 ^ k) = mark := by
    have := Nat.div_add_mod mark (2 ^ k)
    omega
  rw [← hmul, ← Nat.two_pow_add_eq_or_of_lt hlow]

private theorem continuation_byte (codePoint shift : UInt32) (hshift : shift.toNat < 32) :
    ((0x80 : UInt32) ||| ((codePoint >>> shift) &&& 0x3F)).toUInt8
      = UInt8.ofNat (codePoint.toNat / 2 ^ shift.toNat % 64 + 0x80) := by
  have hmask : (0x3F : UInt32).toNat = 2 ^ 6 - 1 := rfl
  have hmark : (0x80 : UInt32).toNat = 0x80 := rfl
  have hlow := Nat.mod_lt (codePoint.toNat / 2 ^ shift.toNat) (show 2 ^ 6 > 0 by decide)
  apply UInt8.toNat_inj.mp
  rw [UInt32.toNat_toUInt8, UInt8.toNat_ofNat', UInt32.toNat_or, UInt32.toNat_and,
    UInt32.toNat_shiftRight, hmask, hmark, Nat.and_two_pow_sub_one_eq_mod,
    Nat.mod_eq_of_lt hshift, Nat.shiftRight_eq_div_pow, or_eq_add 6 (by decide) hlow]
  omega

private theorem lead_byte (codePoint mark shift : UInt32) (k : Nat) (hshift : shift.toNat < 32)
    (hmark : mark.toNat % 2 ^ k = 0) (hlow : codePoint.toNat / 2 ^ shift.toNat < 2 ^ k) :
    (mark ||| (codePoint >>> shift)).toUInt8
      = UInt8.ofNat (codePoint.toNat / 2 ^ shift.toNat + mark.toNat) := by
  apply UInt8.toNat_inj.mp
  rw [UInt32.toNat_toUInt8, UInt8.toNat_ofNat', UInt32.toNat_or, UInt32.toNat_shiftRight,
    Nat.mod_eq_of_lt hshift, Nat.shiftRight_eq_div_pow, or_eq_add k hmark hlow, Nat.add_comm]

private theorem appendUtf8_bytes (codePoint : UInt32) (h : codePoint.toNat < 0x110000) :
    appendUtf8 codePoint =
      let v := codePoint.toNat
      if v ≤ 0x7F then [UInt8.ofNat v]
      else if v ≤ 0x7FF then [UInt8.ofNat (v / 64 + 0xC0), UInt8.ofNat (v % 64 + 0x80)]
      else if v ≤ 0xFFFF then
        [UInt8.ofNat (v / 4096 + 0xE0), UInt8.ofNat (v / 64 % 64 + 0x80), UInt8.ofNat (v % 64 + 0x80)]
      else
        [UInt8.ofNat (v / 262144 + 0xF0), UInt8.ofNat (v / 4096 % 64 + 0x80),
          UInt8.ofNat (v / 64 % 64 + 0x80), UInt8.ofNat (v % 64 + 0x80)] := by
  have e0 : (0 : UInt32).toNat = 0 := rfl
  have e6 : (6 : UInt32).toNat = 6 := rfl
  have e12 : (12 : UInt32).toNat = 12 := rfl
  have e18 : (18 : UInt32).toNat = 18 := rfl
  have t0 := continuation_byte codePoint 0 (by decide)
  have t6 := continuation_byte codePoint 6 (by decide)
  have t12 := continuation_byte codePoint 12 (by decide)
  have h7F : (codePoint ≤ 0x7F) ↔ codePoint.toNat ≤ 0x7F := UInt32.le_iff_toNat_le
  have h7FF : (codePoint ≤ 0x7FF) ↔ codePoint.toNat ≤ 0x7FF := UInt32.le_iff_toNat_le
  have hFFFF : (codePoint ≤ 0xFFFF) ↔ codePoint.toNat ≤ 0xFFFF := UInt32.le_iff_toNat_le
  simp only [appendUtf8, h7F, h7FF, hFFFF, t0, t6, t12, e0, e6, e12, Nat.reducePow, Nat.div_one]
  split
  · simp only [List.cons.injEq, and_true]
    apply UInt8.toNat_inj.mp
    simp
  split
  · rw [lead_byte codePoint 0xC0 6 5 (by decide) (by decide) (by rw [e6]; omega)]
    rfl
  split
  · rw [lead_byte codePoint 0xE0 12 4 (by decide) (by decide) (by rw [e12]; omega)]
    rfl
  · rw [lead_byte codePoint 0xF0 18 3 (by decide) (by decide) (by rw [e18]; omega)]
    rfl

theorem appendUtf8_eq_utf8 (codePoint : UInt32) (h : codePoint.toNat < 0x110000) :
    appendUtf8 codePoint = utf8 codePoint.toNat := by
  rw [appendUtf8_bytes codePoint h, utf8]
  split
  · rename_i hvalid
    simp only [String.utf8EncodeChar, char_val_ofNat hvalid]
    split
    · rfl
    split
    · rw [Nat.mod_eq_of_lt (show codePoint.toNat / 64 < 32 by omega)]
    split
    · rw [Nat.mod_eq_of_lt (show codePoint.toNat / 4096 < 16 by omega)]
    · rw [Nat.mod_eq_of_lt (show codePoint.toNat / 262144 < 8 by omega)]
  · rename_i hinvalid
    have hsurrogate : 0xD800 ≤ codePoint.toNat ∧ codePoint.toNat ≤ 0xDFFF := by
      simp only [Nat.isValidChar] at hinvalid
      omega
    rw [if_neg (by omega), if_neg (by omega), if_pos (by omega)]
    simp only [Nat.reducePow, Nat.add_comm]

/-! ### Escapes -/

private theorem isHexDigit_toNat {c : UInt8} :
    IsHexDigit c ↔ (48 ≤ c.toNat ∧ c.toNat ≤ 57) ∨ (65 ≤ c.toNat ∧ c.toNat ≤ 70)
      ∨ (97 ≤ c.toNat ∧ c.toNat ≤ 102) := by
  simp only [IsHexDigit, UInt8.le_iff_toNat_le]
  rfl

private theorem hexValue_toNat (d : HexDigit) :
    d.value = if d.byte.toNat ≤ 57 then d.byte.toNat - 48
      else if d.byte.toNat ≤ 70 then d.byte.toNat - 55 else d.byte.toNat - 87 := by
  simp only [HexDigit.value, UInt8.le_iff_toNat_le]
  rfl

theorem hexDigit_value_lt (d : HexDigit) : d.value < 16 := by
  have hvalid := isHexDigit_toNat.mp d.valid
  rw [hexValue_toNat]
  split
  · omega
  split <;> omega

theorem hexDigitValue_toNat (c : UInt8) :
    (hexDigitValue c).map UInt32.toNat
      = if 48 ≤ c.toNat ∧ c.toNat ≤ 57 then some (c.toNat - 48)
        else if 97 ≤ c.toNat ∧ c.toNat ≤ 102 then some (c.toNat - 87)
        else if 65 ≤ c.toNat ∧ c.toNat ≤ 70 then some (c.toNat - 55)
        else none := by
  have hlt := c.toNat_lt
  simp only [hexDigitValue, UInt8.le_iff_toNat_le]
  change Option.map UInt32.toNat (if 48 ≤ c.toNat ∧ c.toNat ≤ 57 then _
    else if 97 ≤ c.toNat ∧ c.toNat ≤ 102 then _
    else if 65 ≤ c.toNat ∧ c.toNat ≤ 70 then _ else none) = _
  split
  · simp only [Option.map_some, UInt8.toNat_toUInt32, UInt8.toNat_sub, UInt8.reduceToNat,
      Option.some.injEq]
    omega
  split
  · simp only [Option.map_some, UInt8.toNat_toUInt32, UInt8.toNat_add, UInt8.toNat_sub,
      UInt8.reduceToNat, Option.some.injEq]
    omega
  split
  · simp only [Option.map_some, UInt8.toNat_toUInt32, UInt8.toNat_add, UInt8.toNat_sub,
      UInt8.reduceToNat, Option.some.injEq]
    omega
  · rfl

theorem hexDigitValue_byte (d : HexDigit) :
    ∃ digit, hexDigitValue d.byte = some digit ∧ digit.toNat = d.value := by
  have hvalid := isHexDigit_toNat.mp d.valid
  have hmap := hexDigitValue_toNat d.byte
  rw [hexValue_toNat]
  cases hdigit : hexDigitValue d.byte with
  | none =>
      rw [hdigit] at hmap
      simp only [Option.map_none] at hmap
      grind
  | some digit =>
      refine ⟨digit, rfl, ?_⟩
      rw [hdigit] at hmap
      simp only [Option.map_some] at hmap
      grind

theorem isHexDigit_of_hexDigitValue {c : UInt8} {digit : UInt32}
    (h : hexDigitValue c = some digit) : IsHexDigit c := by
  have hmap := hexDigitValue_toNat c
  rw [h, Option.map_some] at hmap
  rw [isHexDigit_toNat]
  grind

theorem codeUnit_value_lt (u : CodeUnit) : u.value < 0x10000 := by
  have h3 := hexDigit_value_lt u.d3
  have h2 := hexDigit_value_lt u.d2
  have h1 := hexDigit_value_lt u.d1
  have h0 := hexDigit_value_lt u.d0
  simp only [CodeUnit.value]
  omega

section Parser

variable (size : Nat)

private theorem shiftIn_toNat (value digit : UInt32) (hvalue : value.toNat < 2 ^ 12)
    (hdigit : digit.toNat < 16) : ((value <<< 4) ||| digit).toNat = 16 * value.toNat + digit.toNat := by
  have e4 : (4 : UInt32).toNat % 32 = 4 := rfl
  rw [UInt32.toNat_or, UInt32.toNat_shiftLeft, e4, Nat.shiftLeft_eq,
    Nat.mod_eq_of_lt (by omega), or_eq_add 4 (by omega) (by omega)]
  omega

private theorem parseHexDigits_byte (digits : Nat) (value : UInt32) (d : HexDigit) (rest : Bytes)
    (hvalue : value.toNat < 2 ^ 12) :
    ∃ next : UInt32, next.toNat = 16 * value.toNat + d.value
      ∧ parseHexDigits size (digits + 1) value (d.byte :: rest)
        = parseHexDigits size digits next rest := by
  obtain ⟨digit, hdigit, hval⟩ := hexDigitValue_byte d
  refine ⟨(value <<< 4) ||| digit, ?_, by simp [parseHexDigits, hdigit]⟩
  rw [shiftIn_toNat value digit hvalue (hval ▸ hexDigit_value_lt d), hval]

theorem parseHex4_text (u : CodeUnit) (rest : Bytes) :
    parseHex4 size (u.text ++ rest) = .ok (UInt32.ofNat u.value, rest) := by
  have h3 := hexDigit_value_lt u.d3
  have h2 := hexDigit_value_lt u.d2
  have h1 := hexDigit_value_lt u.d1
  obtain ⟨v3, e3, s3⟩ := parseHexDigits_byte size 3 0 u.d3
    (u.d2.byte :: u.d1.byte :: u.d0.byte :: rest) (by decide)
  obtain ⟨v2, e2, s2⟩ := parseHexDigits_byte size 2 v3 u.d2 (u.d1.byte :: u.d0.byte :: rest)
    (by rw [e3]; simp; omega)
  obtain ⟨v1, e1, s1⟩ := parseHexDigits_byte size 1 v2 u.d1 (u.d0.byte :: rest)
    (by rw [e2, e3]; simp; omega)
  obtain ⟨v0, e0, s0⟩ := parseHexDigits_byte size 0 v1 u.d0 rest (by rw [e1, e2, e3]; simp; omega)
  have hvalue : v0 = UInt32.ofNat u.value := by
    apply UInt32.toNat_inj.mp
    have hlt := codeUnit_value_lt u
    have ezero : (0 : UInt32).toNat = 0 := rfl
    rw [UInt32.toNat_ofNat', Nat.mod_eq_of_lt (by omega), e0, e1, e2, e3, ezero]
    simp only [CodeUnit.value]
    omega
  have hlength : ¬ (u.text ++ rest).length < 4 := by simp [CodeUnit.text]
  rw [parseHex4, if_neg hlength]
  simp only [CodeUnit.text, List.cons_append, List.nil_append]
  rw [s3, s2, s1, s0, hvalue]
  rfl

private theorem parseHexDigits_ok {digits : Nat} {value result : UInt32} {rest rest' : Bytes}
    (h : parseHexDigits size (digits + 1) value rest = .ok (result, rest')) :
    ∃ (d : HexDigit) (next : UInt32) (more : Bytes), rest = d.byte :: more
      ∧ parseHexDigits size digits next more = .ok (result, rest') := by
  cases rest with
  | nil => simp [parseHexDigits] at h
  | cons c more =>
      cases hdigit : hexDigitValue c with
      | none => simp [parseHexDigits, hdigit] at h
      | some digit =>
          simp only [parseHexDigits, hdigit] at h
          exact ⟨⟨c, isHexDigit_of_hexDigitValue hdigit⟩, _, more, rfl, h⟩

theorem parseHex4_ok {rest rest' : Bytes} {codePoint : UInt32}
    (h : parseHex4 size rest = .ok (codePoint, rest')) :
    ∃ u : CodeUnit, rest = u.text ++ rest' := by
  rw [parseHex4] at h
  split at h
  · simp at h
  obtain ⟨d3, v3, rest3, hrest, h3⟩ := parseHexDigits_ok size h
  obtain ⟨d2, v2, rest2, rfl, h2⟩ := parseHexDigits_ok size h3
  obtain ⟨d1, v1, rest1, rfl, h1⟩ := parseHexDigits_ok size h2
  obtain ⟨d0, v0, rest0, rfl, h0⟩ := parseHexDigits_ok size h1
  simp only [parseHexDigits, Except.ok.injEq, Prod.mk.injEq] at h0
  exact ⟨⟨d3, d2, d1, d0⟩, by simp [hrest, CodeUnit.text, h0.2]⟩

private theorem codePoint_toNat (u : CodeUnit) : (UInt32.ofNat u.value).toNat = u.value := by
  have hlt := codeUnit_value_lt u
  rw [UInt32.toNat_ofNat', Nat.mod_eq_of_lt (by omega)]

private theorem isHigh_iff (u : CodeUnit) :
    (0xD800 ≤ UInt32.ofNat u.value ∧ UInt32.ofNat u.value ≤ 0xDBFF) ↔ u.IsHigh := by
  simp only [UInt32.le_iff_toNat_le, codePoint_toNat]
  rfl

private theorem isLow_iff (u : CodeUnit) :
    (0xDC00 ≤ UInt32.ofNat u.value ∧ UInt32.ofNat u.value ≤ 0xDFFF) ↔ u.IsLow := by
  simp only [UInt32.le_iff_toNat_le, codePoint_toNat]
  rfl

theorem parseLowSurrogate_text (low : CodeUnit) (rest : Bytes) :
    parseLowSurrogate size (92 :: 117 :: (low.text ++ rest))
      = if low.IsLow then some (UInt32.ofNat low.value, rest) else none := by
  simp only [parseLowSurrogate, parseHex4_text, isLow_iff]

private theorem pairValue_lt {high low : CodeUnit} (hhigh : high.IsHigh) (hlow : low.IsLow) :
    pairValue high low < 0x110000 := by
  obtain ⟨_, hhigh⟩ := hhigh
  obtain ⟨_, hlow⟩ := hlow
  unfold pairValue
  omega

private theorem pair_toNat {high low : CodeUnit} (hhigh : high.IsHigh) (hlow : low.IsLow) :
    ((0x10000 : UInt32) + ((UInt32.ofNat high.value - 0xD800) <<< 10)
      + (UInt32.ofNat low.value - 0xDC00)).toNat = pairValue high low := by
  have hhigh' := ((isHigh_iff high).mpr hhigh).1
  have hlow' := ((isLow_iff low).mpr hlow).1
  obtain ⟨h1, h2⟩ := hhigh
  obtain ⟨h3, h4⟩ := hlow
  simp only [UInt32.toNat_add, UInt32.toNat_shiftLeft, UInt32.toNat_sub_of_le _ _ hhigh',
    UInt32.toNat_sub_of_le _ _ hlow', codePoint_toNat, Nat.shiftLeft_eq,
    UInt32.reduceToNat, Nat.reduceMod, Nat.reducePow]
  unfold pairValue
  omega

theorem parseUnicodeEscape_pair {high low : CodeUnit} (hhigh : high.IsHigh) (hlow : low.IsLow)
    (rest : Bytes) :
    parseUnicodeEscape size (high.text ++ 92 :: 117 :: (low.text ++ rest))
      = .ok (utf8 (pairValue high low), rest) := by
  have hlt := pairValue_lt hhigh hlow
  have hpair := pair_toNat hhigh hlow
  simp only [parseUnicodeEscape, parseHex4_text, bind, Except.bind, isHigh_iff, hhigh, if_true,
    parseLowSurrogate_text, hlow, pure, Except.pure]
  rw [appendUtf8_eq_utf8 _ (by rw [hpair]; exact hlt), hpair]

theorem parseUnicodeEscape_single {u : CodeUnit} {rest : Bytes}
    (halone : u.IsHigh → parseLowSurrogate size rest = none) :
    parseUnicodeEscape size (u.text ++ rest) = .ok (utf8 u.value, rest) := by
  have hlt := codeUnit_value_lt u
  have hutf8 := appendUtf8_eq_utf8 (UInt32.ofNat u.value) (by rw [codePoint_toNat]; omega)
  rw [codePoint_toNat] at hutf8
  simp only [parseUnicodeEscape, parseHex4_text, bind, Except.bind, isHigh_iff, pure, Except.pure]
  split
  · rename_i hhigh
    simp [halone hhigh, hutf8]
  · rw [hutf8]

theorem parseEscape_letter (letter : EscapeLetter) (rest : Bytes) :
    parseEscape size (letter.byte :: rest) = .ok ([letter.denotes], rest) := by
  cases letter <;> rfl

theorem parseUnicodeEscape_ok {rest rest' bytes : Bytes}
    (h : parseUnicodeEscape size rest = .ok (bytes, rest')) :
    ∃ chars, chars ≠ [] ∧ 92 :: 117 :: rest = charsText chars ++ rest' := by
  cases hhex : parseHex4 size rest with
  | error e => simp [parseUnicodeEscape, hhex, bind, Except.bind] at h
  | ok first =>
      obtain ⟨codePoint, rest1⟩ := first
      obtain ⟨u, rfl⟩ := parseHex4_ok size hhex
      have hsingle : ∀ tail, 92 :: 117 :: (u.text ++ tail) = charsText [.unicode u] ++ tail := by
        simp [charsText, StringChar.text]
      simp only [parseUnicodeEscape, hhex, bind, Except.bind, pure, Except.pure] at h
      split at h
      · cases hlow : parseLowSurrogate size rest1 with
        | none =>
            simp only [hlow, Except.ok.injEq, Prod.mk.injEq] at h
            exact ⟨[.unicode u], by simp, by rw [hsingle, h.2]⟩
        | some second =>
            obtain ⟨low, rest2⟩ := second
            simp only [hlow, Except.ok.injEq, Prod.mk.injEq] at h
            simp only [parseLowSurrogate] at hlow
            split at hlow
            · rename_i rest3
              cases hhex2 : parseHex4 size rest3 with
              | error e => simp [hhex2] at hlow
              | ok found =>
                  obtain ⟨low', rest4⟩ := found
                  obtain ⟨v, rfl⟩ := parseHex4_ok size hhex2
                  simp only [hhex2, Option.ite_none_right_eq_some, Option.some.injEq,
                    Prod.mk.injEq] at hlow
                  refine ⟨[.unicode u, .unicode v], by simp, ?_⟩
                  rw [hsingle, hlow.2.2, h.2]
                  simp [charsText, StringChar.text]
            · simp at hlow
      · simp only [Except.ok.injEq, Prod.mk.injEq] at h
        exact ⟨[.unicode u], by simp, by rw [hsingle, h.2]⟩

theorem parseEscape_ok {rest rest' bytes : Bytes}
    (h : parseEscape size rest = .ok (bytes, rest')) :
    ∃ chars, chars ≠ [] ∧ 92 :: rest = charsText chars ++ rest' := by
  have hletter : ∀ (letter : EscapeLetter) (tail : Bytes),
      92 :: letter.byte :: tail = charsText [.escape letter] ++ tail := by
    simp [charsText, StringChar.text]
  simp only [parseEscape] at h
  split at h
  case h_10 => exact parseUnicodeEscape_ok size h
  all_goals try contradiction
  all_goals
    simp only [Except.ok.injEq, Prod.mk.injEq] at h
    obtain ⟨-, rfl⟩ := h
  · exact ⟨_, by simp, hletter .quote _⟩
  · exact ⟨_, by simp, hletter .backslash _⟩
  · exact ⟨_, by simp, hletter .slash _⟩
  · exact ⟨_, by simp, hletter .b _⟩
  · exact ⟨_, by simp, hletter .f _⟩
  · exact ⟨_, by simp, hletter .n _⟩
  · exact ⟨_, by simp, hletter .r _⟩
  · exact ⟨_, by simp, hletter .t _⟩

/-! ### The loop -/

theorem parseStringBody_quote (out rest : Bytes) :
    parseStringBody size (out, 34 :: rest) = .ok (.inr (out, rest)) := rfl

theorem parseStringBody_plain (out rest : Bytes) {c : UInt8}
    (hvalid : 0x20 ≤ c ∧ c ≠ 34 ∧ c ≠ 92) :
    parseStringBody size (out, c :: rest) = .ok (.inl (out ++ [c], rest)) := by
  obtain ⟨hcontrol, hquote, hbackslash⟩ := hvalid
  simp only [parseStringBody]
  rw [if_neg hquote, if_neg hbackslash, if_neg (UInt8.not_lt.mpr hcontrol)]

theorem parseStringBody_escape (out : Bytes) {rest rest' bytes : Bytes}
    (h : parseEscape size rest = .ok (bytes, rest')) :
    parseStringBody size (out, 92 :: rest) = .ok (.inl (out ++ bytes, rest')) := by
  have hbody : parseStringBody size (out, 92 :: rest)
      = (parseEscape size rest).bind fun read => .ok (.inl (out ++ read.1, read.2)) := rfl
  rw [hbody, h]
  rfl

private theorem charsText_cons (char : StringChar) (chars : List StringChar) :
    charsText (char :: chars) = char.text ++ charsText chars := by
  simp [charsText]

/-- No low half follows unless the next character is a `\u` escape. -/
private theorem parseLowSurrogate_other {chars : List StringChar}
    (hother : ∀ low tail, chars = .unicode low :: tail → False) (rest : Bytes) :
    parseLowSurrogate size (charsText chars ++ 34 :: rest) = none := by
  match chars with
  | [] => rfl
  | .plain c hvalid :: tail =>
      simp only [charsText_cons, StringChar.text, List.cons_append, List.nil_append]
      unfold parseLowSurrogate
      split
      · rename_i hcons
        simp only [List.cons.injEq] at hcons
        exact absurd hcons.1 hvalid.2.2
      · rfl
  | .escape letter :: tail => cases letter <;> rfl
  | .unicode low :: tail => exact (hother low tail rfl).elim

theorem parseString_returns (chars : List StringChar) (out rest : Bytes) :
    Loop.Returns (parseStringBody size) chars.length (out, charsText chars ++ 34 :: rest)
      (out ++ charsDenote chars, rest) := by
  induction chars using charsDenote.induct generalizing out with
  | case1 =>
      simp only [charsDenote, List.append_nil]
      exact .done (parseStringBody_quote size out rest) _
  | case2 c hvalid chars ih =>
      rw [charsText_cons, charsDenote, List.append_cons out]
      exact .again (parseStringBody_plain size out _ hvalid) (ih _)
  | case3 letter chars ih =>
      rw [charsText_cons, charsDenote, List.append_cons out]
      exact .again (parseStringBody_escape size out (parseEscape_letter size letter _)) (ih _)
  | case4 high low chars hpair ih =>
      have htext : charsText (.unicode high :: .unicode low :: chars) ++ 34 :: rest
          = 92 :: 117 :: (high.text ++ 92 :: 117 :: (low.text ++ (charsText chars ++ 34 :: rest))) := by
        simp [charsText_cons, StringChar.text]
      rw [htext, charsDenote, if_pos hpair, ← List.append_assoc out]
      have hescape : parseEscape size (117 :: _) = _ :=
        parseUnicodeEscape_pair size hpair.1 hpair.2 (charsText chars ++ 34 :: rest)
      have hround := Loop.Returns.again (parseStringBody_escape size out hescape) (ih _)
      exact hround.mono (by simp)
  | case5 high low chars hpair ih =>
      have htext : charsText (.unicode high :: .unicode low :: chars) ++ 34 :: rest
          = 92 :: 117 :: (high.text ++ (charsText (.unicode low :: chars) ++ 34 :: rest)) := by
        simp [charsText_cons, StringChar.text]
      rw [htext, charsDenote, if_neg hpair, ← List.append_assoc out]
      have halone : high.IsHigh →
          parseLowSurrogate size (charsText (.unicode low :: chars) ++ 34 :: rest) = none := by
        intro hhigh
        have hlow := parseLowSurrogate_text size low (charsText chars ++ 34 :: rest)
        rw [if_neg fun hlow => hpair ⟨hhigh, hlow⟩] at hlow
        simpa [charsText_cons, StringChar.text] using hlow
      have hescape : parseEscape size (117 :: _) = _ := parseUnicodeEscape_single size halone
      exact .again (parseStringBody_escape size out hescape) (ih _)
  | case6 unit chars hother ih =>
      have htext : charsText (.unicode unit :: chars) ++ 34 :: rest
          = 92 :: 117 :: (unit.text ++ (charsText chars ++ 34 :: rest)) := by
        simp [charsText_cons, StringChar.text]
      have hdenote : charsDenote (.unicode unit :: chars) = utf8 unit.value ++ charsDenote chars := by
        rw [charsDenote]
        exact hother
      rw [htext, hdenote, ← List.append_assoc out]
      have halone : unit.IsHigh → parseLowSurrogate size (charsText chars ++ 34 :: rest) = none :=
        fun _ => parseLowSurrogate_other size hother rest
      have hescape : parseEscape size (117 :: _) = _ := parseUnicodeEscape_single size halone
      exact .again (parseStringBody_escape size out hescape) (ih _)

/-- What one round of the loop consumed is a piece of a string literal. -/
theorem parseStringBody_again {out out' rest rest' : Bytes}
    (h : parseStringBody size (out, rest) = .ok (.inl (out', rest'))) :
    ∃ chars, chars ≠ [] ∧ rest = charsText chars ++ rest' := by
  cases rest with
  | nil => simp [parseStringBody] at h
  | cons c rest =>
      simp only [parseStringBody] at h
      split at h
      · simp at h
      rename_i hquote
      split at h
      · rename_i hbackslash
        cases hescape : parseEscape size rest with
        | error e => simp [hescape, bind, Except.bind] at h
        | ok read =>
            simp only [hescape, bind, Except.bind, pure, Except.pure, Except.ok.injEq, Sum.inl.injEq,
              Prod.mk.injEq] at h
            rw [hbackslash, ← h.2]
            exact parseEscape_ok size hescape
      rename_i hbackslash
      split at h
      · simp at h
      rename_i hcontrol
      simp only [Except.ok.injEq, Sum.inl.injEq, Prod.mk.injEq] at h
      refine ⟨[.plain c ⟨UInt8.not_lt.mp hcontrol, hquote, hbackslash⟩], by simp, ?_⟩
      simp [charsText, StringChar.text, h.2]

theorem parseStringBody_done {out rest : Bytes} {result : Bytes × Bytes}
    (h : parseStringBody size (out, rest) = .ok (.inr result)) : rest = 34 :: result.2 := by
  cases rest with
  | nil => simp [parseStringBody] at h
  | cons c rest =>
      simp only [parseStringBody] at h
      split at h
      · rename_i hquote
        simp only [Except.ok.injEq, Sum.inr.injEq] at h
        rw [hquote, ← h]
      split at h
      · cases hescape : parseEscape size rest <;>
          simp [hescape, bind, Except.bind, pure, Except.pure] at h
      split at h <;> simp at h

theorem length_le_charsText (chars : List StringChar) : chars.length ≤ (charsText chars).length := by
  induction chars with
  | nil => simp
  | cons char chars ih =>
      have hpos : 1 ≤ char.text.length := by cases char <;> simp [StringChar.text]
      simp only [charsText_cons, List.length_append, List.length_cons]
      omega

/-- Every round that goes round again takes something off the text. -/
theorem parseStringBody_shrinks (s s' : Bytes × Bytes)
    (h : parseStringBody size s = .ok (.inl s')) : s'.2.length < s.2.length := by
  obtain ⟨chars, hne, hrest⟩ := parseStringBody_again size h
  have hpos := List.length_pos_iff.mpr hne
  have hle := length_le_charsText chars
  rw [hrest, List.length_append]
  omega

theorem parseString_text (chars : List StringChar) (rest : Bytes) :
    parseString size (stringText chars ++ rest) = .ok (charsDenote chars, rest) := by
  have hlength := length_le_charsText chars
  have hloop := parseString_returns size chars [] rest
  simp only [parseString, cursorLoop, stringText, List.cons_append, List.append_assoc,
    List.drop_succ_cons, List.drop_zero]
  refine hloop _ _ ?_
  simp only [List.length_append]
  omega

/-- What `parse_string` accepts is a string literal, once it was called on a quote. -/
theorem parseString_ok {rest rest' out : Bytes} (h : parseString size (34 :: rest) = .ok (out, rest')) :
    ∃ chars, 34 :: rest = stringText chars ++ rest' := by
  have hchars : ∃ chars, rest = charsText chars ++ 34 :: rest' := by
    refine Loop.run_ok (P := fun s a => ∃ chars, s.2 = charsText chars ++ 34 :: a.2) ?_ ?_ h
    · intro s a hdone
      exact ⟨[], parseStringBody_done size hdone⟩
    · intro s s' a hagain ⟨chars, hchars⟩
      obtain ⟨front, -, hfront⟩ := parseStringBody_again size hagain
      exact ⟨front ++ chars, by rw [hfront, hchars]; simp [charsText]⟩
  obtain ⟨chars, rfl⟩ := hchars
  exact ⟨chars, by simp [stringText]⟩

end Parser

end ContextSnap.Json
