import ContextSnap.Lib.Utf16
import ContextSnap.Proof.FrameStream
import ContextSnap.Proof.JsonGrammar
import ContextSnap.Proof.PickleReader

/-!
# Two readers of UTF-16

The session reader takes units off a pickle, the JSON parser takes them off `\u` escapes. Both look
one unit ahead for the second half of a pair, and both write what they found as UTF-8.
-/

namespace ContextSnap

open JsonText (CodeUnit StringChar charsDenote stringText utf8)
open Utf16 (IsHigh IsLow codePoints)

/-! ### Escapes -/

namespace Json

/-- The escapes are those of the units, with digits in either case. -/
def Spells (escapes : List CodeUnit) (units : List UInt16) : Prop :=
  List.Forall₂ (fun escape unit => escape.value = unit.toNat) escapes units

theorem isHexDigit_hexByte : ∀ n : Fin 16,
    JsonText.IsHexDigit (if n < 10 then 48 + n.val else 87 + n.val).toUInt8 := by decide

/-- A digit with letters in lower case. -/
def hexDigit (n : Fin 16) : JsonText.HexDigit := ⟨_, isHexDigit_hexByte n⟩

theorem hexDigit_value : ∀ n : Fin 16, (hexDigit n).value = n.val := by decide

/-- Every unit has an escape. -/
theorem exists_spells (units : List UInt16) : ∃ escapes, Spells escapes units := by
  induction units with
  | nil => exact ⟨[], .nil⟩
  | cons unit units ih =>
      obtain ⟨escapes, hescapes⟩ := ih
      have hmod (n : ℕ) : n % 16 < 16 := Nat.mod_lt n (by decide)
      refine ⟨⟨hexDigit ⟨_, hmod (unit.toNat / 16 / 16 / 16)⟩,
        hexDigit ⟨_, hmod (unit.toNat / 16 / 16)⟩, hexDigit ⟨_, hmod (unit.toNat / 16)⟩,
        hexDigit ⟨_, hmod unit.toNat⟩⟩ :: escapes, .cons ?_ hescapes⟩
      have hlt : unit.toNat < 65536 := unit.toNat_lt
      simp only [CodeUnit.value, hexDigit_value]
      omega

theorem isHigh_iff_of_value {escape : CodeUnit} {unit : UInt16} (h : escape.value = unit.toNat) :
    escape.IsHigh ↔ IsHigh unit := by rw [CodeUnit.IsHigh, h, IsHigh]

theorem isLow_iff_of_value {escape : CodeUnit} {unit : UInt16} (h : escape.value = unit.toNat) :
    escape.IsLow ↔ IsLow unit := by rw [CodeUnit.IsLow, h, IsLow]

theorem pairValue_of_values {escape next : CodeUnit} {high low : UInt16}
    (hhigh : escape.value = high.toNat) (hlow : next.value = low.toNat) :
    JsonText.pairValue escape next = Utf16.pairValue high low := by
  unfold JsonText.pairValue Utf16.pairValue
  rw [hhigh, hlow]

theorem charsDenote_units {escapes : List CodeUnit} {units : List UInt16}
    (h : Spells escapes units) :
    charsDenote (escapes.map .unicode) = (codePoints units).flatMap utf8 := by
  induction units using Utf16.codePoints.induct generalizing escapes with
  | case1 =>
      cases h
      rfl
  | case2 unit =>
      obtain ⟨escape, _, hvalue, hnil, rfl⟩ := List.forall₂_cons_right_iff.mp h
      cases hnil
      simp [charsDenote, codePoints, hvalue]
  | case3 high low units hpair ih =>
      obtain ⟨escape, _, hhigh, hrest, rfl⟩ := List.forall₂_cons_right_iff.mp h
      obtain ⟨next, escapes, hlow, hspells, rfl⟩ := List.forall₂_cons_right_iff.mp hrest
      have hescapes : escape.IsHigh ∧ next.IsLow :=
        ⟨(isHigh_iff_of_value hhigh).mpr hpair.1, (isLow_iff_of_value hlow).mpr hpair.2⟩
      have hvalue := pairValue_of_values hhigh hlow
      rw [List.map_cons, List.map_cons, charsDenote, if_pos hescapes, hvalue,
        Utf16.codePoints_pair hpair.1 hpair.2, List.flatMap_cons, ih hspells]
  | case4 high low units hpair ih =>
      obtain ⟨escape, _, hhigh, hrest, rfl⟩ := List.forall₂_cons_right_iff.mp h
      have hspells := hrest
      obtain ⟨next, escapes, hlow, -, rfl⟩ := List.forall₂_cons_right_iff.mp hrest
      have hescapes : ¬(escape.IsHigh ∧ next.IsLow) := by
        rw [isHigh_iff_of_value hhigh, isLow_iff_of_value hlow]
        exact hpair
      rw [List.map_cons, List.map_cons, charsDenote, if_neg hescapes, hhigh, ← List.map_cons,
        ih hspells, codePoints, if_neg hpair, List.flatMap_cons]

theorem parse_escapes {escapes : List CodeUnit} {units : List UInt16} (h : Spells escapes units) :
    parse (stringText (escapes.map .unicode))
      = .ok (.string ((codePoints units).flatMap utf8)) := by
  have hparse := (parse_text ⟨[], .string (escapes.map .unicode), []⟩ (Nat.zero_le _)).1
  simp only [JsonText.Document.text, JsonText.SyntaxTree.text, JsonText.Whitespace.text,
    JsonText.SyntaxTree.denote, charsDenote_units h] at hparse
  simpa using hparse

end Json

/-! ### Units of a pickle -/

namespace Browser.Session

open Buffer

def unitBytes (unit : UInt16) : Bytes := bytes16 unit.toNat

/-- A pickled text: the number of its units, the units, and what fills the last four bytes. -/
def pickledText (units : List UInt16) : Bytes :=
  let count := units.length.toUInt32
  [(count &&& 0xFF).toUInt8, ((count >>> 8) &&& 0xFF).toUInt8, ((count >>> 16) &&& 0xFF).toUInt8,
      ((count >>> 24) &&& 0xFF).toUInt8]
    ++ units.flatMap unitBytes ++ List.replicate (2 * (units.length % 2)) 0

namespace Reader

theorem pushUtf8_eq_appendUtf8 (code : UInt32) : pushUtf8 code = Json.appendUtf8 code := by
  have hlt (bound : UInt32) (next : UInt32) (h : next.toNat = bound.toNat + 1) :
      code < next ↔ code ≤ bound := by
    rw [UInt32.lt_iff_toNat_lt, UInt32.le_iff_toNat_le, h, Nat.lt_succ_iff]
  have hshift : code >>> 0 = code := by
    apply UInt32.toNat_inj.mp
    rw [UInt32.toNat_shiftRight]
    rfl
  rw [pushUtf8, Json.appendUtf8]
  simp only [hlt 0x7F 0x80 rfl, hlt 0x7FF 0x800 rfl, hlt 0xFFFF 0x10000 rfl, hshift]

theorem pushUtf8_eq_utf8 {code : UInt32} {value : ℕ} (hvalue : code.toNat = value)
    (h : value < 0x110000) : pushUtf8 code = utf8 value := by
  rw [pushUtf8_eq_appendUtf8, Json.appendUtf8_eq_utf8 code (hvalue ▸ h), hvalue]

section Units

variable {front back data : Bytes} {offset : UInt64} {unit : UInt16}

theorem readUnit_unitBytes (hoffset : offset.toNat = front.length)
    (hsize : (front ++ (unitBytes unit ++ back)).length < 2 ^ 64) :
    readUnit (front ++ (unitBytes unit ++ back)) offset = .ok unit.toUInt32 := by
  have hlength : (unitBytes unit).length = 2 := rfl
  have hnext : (offset + 1).toNat = front.length + 1 := by
    have hone : (1 : UInt64).toNat = 1 := rfl
    simp only [List.length_append, hlength] at hsize
    rw [toNat_offset_add (by omega), hoffset, hone]
  have hlow : read (front ++ (unitBytes unit ++ back)) front.length
      = .ok unit.toNat.toUInt8 := read_append_length
  have hhigh : read (front ++ (unitBytes unit ++ back)) (front.length + 1)
      = .ok (unit.toNat / 256).toUInt8 := read_append_right
  have hunit : unit.toNat < 65536 := unit.toNat_lt
  rw [readUnit, hnext, hoffset, hlow, hhigh]
  refine congrArg Except.ok (UInt32.toNat_inj.mp ?_)
  calc (unit.toNat.toUInt8.toUInt32 ||| ((unit.toNat / 256).toUInt8.toUInt32 <<< 8)).toNat
      = littleEndian16 unit.toNat.toUInt8 (unit.toNat / 256).toUInt8 := by
        have height : (8 : UInt32).toNat % 32 = 8 := rfl
        have hbyte := (unit.toNat / 256).toUInt8.toNat_lt
        rw [UInt32.toNat_or, UInt32.toNat_shiftLeft, height, UInt8.toNat_toUInt32,
          UInt8.toNat_toUInt32, littleEndian16, Nat.mod_eq_of_lt]
        rw [Nat.shiftLeft_eq]
        omega
    _ = unit.toNat := littleEndian16_bytes16 hunit
    _ = unit.toUInt32.toNat := (UInt16.toNat_toUInt32 unit).symm

theorem isHigh_toUInt32 (unit : UInt16) :
    (unit.toUInt32 ≥ 0xD800 ∧ unit.toUInt32 ≤ 0xDBFF) ↔ IsHigh unit := by
  rw [ge_iff_le, UInt32.le_iff_toNat_le, UInt32.le_iff_toNat_le, UInt16.toNat_toUInt32]
  rfl

theorem isLow_toUInt32 (unit : UInt16) :
    (unit.toUInt32 ≥ 0xDC00 ∧ unit.toUInt32 ≤ 0xDFFF) ↔ IsLow unit := by
  rw [ge_iff_le, UInt32.le_iff_toNat_le, UInt32.le_iff_toNat_le, UInt16.toNat_toUInt32]
  rfl

theorem toNat_succ_of_lt {i count : UInt32} (h : i < count) : (i + 1).toNat = i.toNat + 1 := by
  have hone : (1 : UInt32).toNat = 1 := rfl
  have hlt := UInt32.lt_iff_toNat_lt.mp h
  have hcount := count.toNat_lt
  rw [UInt32.toNat_add, hone]
  exact Nat.mod_eq_of_lt (by omega)

/-- The code point of a pair, computed in 32 bits. -/
theorem toNat_pair {high low : UInt16} (hhigh : IsHigh high) (hlow : IsLow low) :
    ((0x10000 : UInt32) + ((high.toUInt32 - 0xD800) <<< 10) + (low.toUInt32 - 0xDC00)).toNat
      = Utf16.pairValue high low := by
  obtain ⟨hfirst, hsecond⟩ := hhigh
  obtain ⟨hthird, hfourth⟩ := hlow
  have hten : (10 : UInt32).toNat % 32 = 10 := rfl
  have hhigh : (high.toUInt32 - 0xD800).toNat = high.toNat - 0xD800 := by
    rw [UInt32.toNat_sub_of_le, UInt16.toNat_toUInt32]
    · rfl
    · rw [UInt32.le_iff_toNat_le, UInt16.toNat_toUInt32]
      exact hfirst
  have hlow : (low.toUInt32 - 0xDC00).toNat = low.toNat - 0xDC00 := by
    rw [UInt32.toNat_sub_of_le, UInt16.toNat_toUInt32]
    · rfl
    · rw [UInt32.le_iff_toNat_le, UInt16.toNat_toUInt32]
      exact hthird
  have hbase : (0x10000 : UInt32).toNat = 0x10000 := rfl
  unfold Utf16.pairValue
  rw [UInt32.toNat_add, UInt32.toNat_add, UInt32.toNat_shiftLeft, hten, hhigh, hlow, hbase,
    Nat.shiftLeft_eq]
  omega

theorem toNat_add_two (hoffset : offset.toNat = front.length)
    (hsize : (front ++ (unitBytes unit ++ back)).length < 2 ^ 64) :
    (offset + 2).toNat = (front ++ unitBytes unit).length := by
  have htwo : (2 : UInt64).toNat = 2 := rfl
  have hlength : (unitBytes unit).length = 2 := rfl
  simp only [List.length_append, hlength] at hsize ⊢
  rw [toNat_offset_add (by omega), hoffset, htwo]

theorem readUnit_low {low : UInt16} {rest : List UInt16} (hoffset : offset.toNat = front.length)
    (hdata : data = front ++ (unitBytes unit ++ ((low :: rest).flatMap unitBytes ++ back)))
    (hsize : data.length < 2 ^ 64) : readUnit data (offset + 2) = .ok low.toUInt32 := by
  have hstart := toNat_add_two hoffset (hdata ▸ hsize)
  have hsplit : data = (front ++ unitBytes unit)
      ++ (unitBytes low ++ (rest.flatMap unitBytes ++ back)) := by
    rw [hdata, List.flatMap_cons]
    simp only [List.append_assoc]
  rw [hsplit] at hsize ⊢
  exact readUnit_unitBytes hstart hsize

/-- A unit for itself, if it starts no pair with the unit behind it. -/
theorem readUnitsBody_single {count i : UInt32} {rest : List UInt16} (out : Bytes)
    (hoffset : offset.toNat = front.length)
    (hdata : data = front ++ (unitBytes unit ++ (rest.flatMap unitBytes ++ back)))
    (hsize : data.length < 2 ^ 64) (hcount : count.toNat = i.toNat + (rest.length + 1))
    (halone : IsHigh unit → ∀ low ∈ rest.head?, ¬IsLow low) :
    readUnitsBody data count (i, offset, out)
      = .ok (.inl (i + 1, offset + 2, out ++ utf8 unit.toNat)) := by
  have hunit : readUnit data offset = .ok unit.toUInt32 := hdata ▸ readUnit_unitBytes hoffset
    (hdata ▸ hsize)
  have hpush : pushUtf8 unit.toUInt32 = utf8 unit.toNat :=
    pushUtf8_eq_utf8 (UInt16.toNat_toUInt32 unit) (unit.toNat_lt.trans (by decide))
  have hi : i < count := UInt32.lt_iff_toNat_lt.mpr (by omega)
  have hnext := toNat_succ_of_lt hi
  have hlookahead : readLowSurrogate data unit.toUInt32 (i + 1 < count) (offset + 2)
      = .ok none := by
    by_cases hhigh : IsHigh unit
    · cases rest with
      | nil =>
          have hlast : decide (i + 1 < count) = false := by
            rw [decide_eq_false_iff_not, UInt32.lt_iff_toNat_lt, hnext, hcount]
            exact Nat.lt_irrefl _
          rw [readLowSurrogate, hlast, if_neg (by simp)]
          rfl
      | cons low rest =>
          have hlow := readUnit_low hoffset hdata hsize
          have hnone := mt (isLow_toUInt32 low).mp (halone hhigh low rfl)
          rw [readLowSurrogate]
          split
          · rw [hlow]
            simp only [bind, Except.bind, if_neg hnone]
            rfl
          · rfl
    · rw [readLowSurrogate, if_neg fun h => hhigh ((isHigh_toUInt32 unit).mp ⟨h.1, h.2.1⟩)]
      rfl
  rw [readUnitsBody, if_pos hi, hunit]
  simp only [bind, Except.bind, hlookahead, hpush]
  rfl

/-- The two halves of a pair for the code point they stand for. -/
theorem readUnitsBody_pair {count i : UInt32} {low : UInt16} {rest : List UInt16} (out : Bytes)
    (hoffset : offset.toNat = front.length)
    (hdata : data = front ++ (unitBytes unit ++ ((low :: rest).flatMap unitBytes ++ back)))
    (hsize : data.length < 2 ^ 64) (hcount : count.toNat = i.toNat + (rest.length + 2))
    (hhigh : IsHigh unit) (hlow : IsLow low) :
    readUnitsBody data count (i, offset, out)
      = .ok (.inl (i + 1 + 1, offset + 2 + 2, out ++ utf8 (Utf16.pairValue unit low))) := by
  have hunit : readUnit data offset = .ok unit.toUInt32 := hdata ▸ readUnit_unitBytes hoffset
    (hdata ▸ hsize)
  have hi : i < count := UInt32.lt_iff_toNat_lt.mpr (by omega)
  have hnext := toNat_succ_of_lt hi
  have hmore : decide (i + 1 < count) = true :=
    decide_eq_true (UInt32.lt_iff_toNat_lt.mpr (by omega))
  have hlookahead : readLowSurrogate data unit.toUInt32 (i + 1 < count) (offset + 2)
      = .ok (some low.toUInt32) := by
    have hboth := (isHigh_toUInt32 unit).mpr hhigh
    rw [readLowSurrogate, if_pos ⟨hboth.1, hboth.2, hmore⟩, readUnit_low hoffset hdata hsize]
    simp only [bind, Except.bind, if_pos ((isLow_toUInt32 low).mpr hlow)]
    rfl
  have hpush : pushUtf8 ((0x10000 : UInt32) + ((unit.toUInt32 - 0xD800) <<< 10)
      + (low.toUInt32 - 0xDC00)) = utf8 (Utf16.pairValue unit low) :=
    pushUtf8_eq_utf8 (toNat_pair hhigh hlow) (Utf16.pairValue_lt hhigh hlow)
  rw [readUnitsBody, if_pos hi, hunit]
  simp only [bind, Except.bind, hlookahead, hpush]
  rfl

theorem readUnits_returns_nil {count i : UInt32} (offset : UInt64) (out : Bytes)
    (hcount : count.toNat = i.toNat) :
    Loop.Returns (readUnitsBody data count) 0 (i, offset, out) (offset, out) := by
  have hend : ¬i < count := by
    rw [UInt32.lt_iff_toNat_lt, hcount]
    exact Nat.lt_irrefl _
  refine .done ?_ 0
  rw [readUnitsBody, if_neg hend]
  rfl

theorem units_behind {units : List UInt16} (front back : Bytes) (unit : UInt16) :
    front ++ ((unit :: units).flatMap unitBytes ++ back)
      = (front ++ unitBytes unit) ++ (units.flatMap unitBytes ++ back) := by
  rw [List.flatMap_cons]
  simp only [List.append_assoc]

/-- **The loop** over the units, from any of them on. -/
theorem readUnits_returns {count i : UInt32} {units : List UInt16} (out : Bytes)
    (hoffset : offset.toNat = front.length)
    (hdata : data = front ++ (units.flatMap unitBytes ++ back))
    (hsize : data.length < 2 ^ 64) (hcount : count.toNat = i.toNat + units.length) :
    ∃ offset', Loop.Returns (readUnitsBody data count) units.length (i, offset, out)
      (offset', out ++ (codePoints units).flatMap utf8) := by
  induction units using Utf16.codePoints.induct generalizing i offset front out with
  | case1 =>
      refine ⟨offset, ?_⟩
      rw [codePoints, List.flatMap_nil, List.append_nil]
      exact readUnits_returns_nil offset out hcount
  | case2 unit =>
      have hsplit : data
          = front ++ (unitBytes unit ++ (([] : List UInt16).flatMap unitBytes ++ back)) := by
        simpa [List.flatMap_cons] using hdata
      have hround := readUnitsBody_single out hoffset hsplit hsize hcount (by simp)
      have hmore : i < count := UInt32.lt_iff_toNat_lt.mpr (hcount ▸ Nat.lt_succ_self _)
      have hnext := toNat_succ_of_lt hmore
      refine ⟨offset + 2, ?_⟩
      rw [codePoints, List.flatMap_cons, List.flatMap_nil, List.append_nil]
      exact .again hround (readUnits_returns_nil _ _ (hcount.trans hnext.symm))
  | case3 high low units hpair ih =>
      have hcount' : count.toNat = i.toNat + (units.length + 2) := hcount
      have hmore : i < count := UInt32.lt_iff_toNat_lt.mpr (by omega)
      have hnext := toNat_succ_of_lt hmore
      have hnext' := toNat_succ_of_lt (UInt32.lt_iff_toNat_lt.mpr
        (show (i + 1).toNat < count.toNat by omega))
      have hsplit : data
          = front ++ (unitBytes high ++ ((low :: units).flatMap unitBytes ++ back)) := by
        rw [hdata, List.flatMap_cons, List.append_assoc]
      have hround := readUnitsBody_pair out hoffset hsplit hsize hcount hpair.1 hpair.2
      have hfirst := toNat_add_two hoffset (hsplit ▸ hsize)
      have hbehind : data = (front ++ unitBytes high ++ unitBytes low)
          ++ (units.flatMap unitBytes ++ back) := by
        rw [hdata, units_behind, units_behind]
      have hsecond : (offset + 2 + 2).toNat = (front ++ unitBytes high ++ unitBytes low).length :=
        toNat_add_two hfirst (by rw [← List.append_assoc, ← hbehind]; exact hsize)
      have hleft : count.toNat = (i + 1 + 1).toNat + units.length := by omega
      obtain ⟨offset', hrest⟩ :=
        ih (out ++ utf8 (Utf16.pairValue high low)) hsecond hbehind hleft
      refine ⟨offset', ?_⟩
      rw [Utf16.codePoints_pair hpair.1 hpair.2, List.flatMap_cons, ← List.append_assoc]
      exact (Loop.Returns.again hround hrest).mono (by simp)
  | case4 high low units hpair ih =>
      have halone : IsHigh high → ∀ next ∈ (low :: units).head?, ¬IsLow next := by
        rintro hhigh next hhead hlow
        obtain rfl := Option.some.inj hhead
        exact hpair ⟨hhigh, hlow⟩
      have hcount' : count.toNat = i.toNat + ((low :: units).length + 1) := hcount
      have hmore : i < count := UInt32.lt_iff_toNat_lt.mpr (by omega)
      have hnext := toNat_succ_of_lt hmore
      have hsplit : data
          = front ++ (unitBytes high ++ ((low :: units).flatMap unitBytes ++ back)) := by
        rw [hdata, List.flatMap_cons, List.append_assoc]
      have hround := readUnitsBody_single out hoffset hsplit hsize hcount halone
      have hleft : count.toNat = (i + 1).toNat + (low :: units).length := by omega
      obtain ⟨offset', hrest⟩ := ih (out ++ utf8 high.toNat)
        (toNat_add_two hoffset (hsplit ▸ hsize)) (hdata.trans (units_behind front back high)) hleft
      refine ⟨offset', ?_⟩
      rw [Utf16.codePoints_single halone, List.flatMap_cons, ← List.append_assoc]
      exact .again hround hrest

end Units

/-! ### The whole text -/

section Text

variable {reader : Reader} {before after : Bytes} {units : List UInt16}

theorem length_units (units : List UInt16) :
    (units.flatMap unitBytes).length = 2 * units.length := by
  induction units with
  | nil => rfl
  | cons unit units ih =>
      rw [List.flatMap_cons, List.length_append, ih, List.length_cons]
      change 2 + _ = _
      omega

section Start

variable (hdata : reader.data = before ++ (pickledText units ++ after))
  (hsize : reader.size.toNat = reader.data.length) (hoffset : reader.offset.toNat = before.length)

include hdata in
theorem length_pickledText : reader.data.length = before.length + 4
    + (2 * units.length + (List.replicate (2 * (units.length % 2)) 0 ++ after).length) := by
  rw [hdata, pickledText]
  simp only [List.length_append, List.length_cons, List.length_nil, length_units]
  omega

include hdata hsize hoffset in
theorem toNat_skipCount : (reader.offset + 4).toNat = before.length + 4 := by
  have hfour : (4 : UInt64).toNat = 4 := rfl
  have hlt := reader.size.toNat_lt
  have hlength := length_pickledText hdata
  rw [toNat_offset_add (by omega), hoffset, hfour]

include hdata hsize hoffset in
/-- The number of units, as the pickle says it. -/
theorem readU32_pickledText : reader.readU32
    = .ok (some units.length.toUInt32, { reader with offset := reader.offset + 4 }) := by
  have hlt := reader.size.toNat_lt
  have hlength := length_pickledText hdata
  have hnext (k : UInt64) (hk : k.toNat ≤ 4) :
      (reader.offset + k).toNat = before.length + k.toNat := by
    rw [toNat_offset_add (by omega), hoffset]
  have hroom : ¬reader.offset + 4 > reader.size := by
    rw [gt_iff_lt, UInt64.lt_iff_toNat_lt, hnext 4 (by decide)]
    change ¬reader.size.toNat < before.length + 4
    omega
  have hread : ∀ k, read reader.data (before.length + k) = read (pickledText units ++ after) k := by
    intro k
    rw [hdata, read_append_right]
  have hone : (reader.offset + 1).toNat = before.length + 1 := hnext 1 (by decide)
  have htwo : (reader.offset + 2).toNat = before.length + 2 := hnext 2 (by decide)
  have hthree : (reader.offset + 3).toNat = before.length + 3 := hnext 3 (by decide)
  rw [readU32, if_neg hroom, hone, htwo, hthree, hoffset, hread 1, hread 2, hread 3,
    ← Nat.add_zero before.length, hread 0]
  simp only [pickledText, List.cons_append, read_cons_zero, read_cons_succ, bind, Except.bind]
  rw [Ipc.frameLength_bytes]
  rfl

include hdata hsize hoffset in
theorem readString16_pickledText (hcount : units.length < 2 ^ 32) :
    ∃ next, reader.readString16 = .ok (some ((codePoints units).flatMap utf8), next) := by
  have hlength := length_pickledText hdata
  have hstart := toNat_skipCount hdata hsize hoffset
  have hlt := reader.size.toNat_lt
  have hunits : units.length.toUInt32.toNat = units.length := by
    rw [Nat.toUInt32_eq, UInt32.toNat_ofNat']
    exact Nat.mod_eq_of_lt hcount
  have hleft : (reader.size - (reader.offset + 4)).toNat
      = reader.data.length - (before.length + 4) := by
    rw [UInt64.toNat_sub_of_le, hsize, hstart]
    rw [UInt64.le_iff_toNat_le, hsize, hstart]
    omega
  have hroom : ¬(units.length.toUInt32 * 2).toUInt64 > reader.size - (reader.offset + 4) := by
    rw [gt_iff_lt, UInt64.lt_iff_toNat_lt, toNat_doubled, hunits, hleft]
    split <;> omega
  have hsplit : reader.data = (before ++ (pickledText units).take 4)
      ++ (units.flatMap unitBytes ++ (List.replicate (2 * (units.length % 2)) 0 ++ after)) := by
    rw [hdata, pickledText]
    simp
  have hfront : (reader.offset + 4).toNat = (before ++ (pickledText units).take 4).length := by
    rw [hstart, List.length_append]
    rfl
  have hall : units.length.toUInt32.toNat = (0 : UInt32).toNat + units.length :=
    hunits.trans (Nat.zero_add _).symm
  obtain ⟨offset', hreturns⟩ := readUnits_returns [] hfront hsplit (by omega) hall
  have hrun : readUnits reader.data units.length.toUInt32 (reader.offset + 4)
      = .ok (offset', (codePoints units).flatMap utf8) :=
    hreturns .endless _ (by rw [hunits]; exact Nat.lt_succ_self _)
  refine ⟨align { reader with offset := offset' }, ?_⟩
  rw [readString16, readU32_pickledText hdata hsize hoffset]
  simp only [bind, Except.bind, pure, Except.pure, if_neg hroom, hrun]

end Start

/-- **Two decoders.** The session reader makes the same text of units as the parser makes of their
escapes, and it is the UTF-8 text of the characters if the units were made from some. -/
theorem readString16_eq_parse (hdata : reader.data = before ++ (pickledText units ++ after))
    (hsize : reader.size.toNat = reader.data.length) (hoffset : reader.offset.toNat = before.length)
    (hcount : units.length < 2 ^ 32) :
    (∃ escapes, Json.Spells escapes units)
      ∧ ∃ text next, reader.readString16 = .ok (some text, next)
        ∧ (∀ escapes, Json.Spells escapes units →
          Json.parse (stringText (escapes.map .unicode)) = .ok (.string text))
        ∧ ∀ chars : List Char, chars.flatMap Utf16.encodeChar = units →
          text = chars.flatMap String.utf8EncodeChar := by
  obtain ⟨next, hread⟩ := readString16_pickledText hdata hsize hoffset hcount
  refine ⟨Json.exists_spells units, _, next, hread, fun escapes => Json.parse_escapes, ?_⟩
  rintro chars rfl
  exact Utf16.utf8_codePoints_encode chars

/-- A pair, and a second half without a first one. -/
theorem readString16_eq_parse_swapped :
    ∃ text next, (Reader.ofPayload (pickledText [0xD83D, 0xDE00, 0xDC00])).readString16
        = .ok (some text, next)
      ∧ Json.parse (str "\"\\ud83d\\uDE00\\udc00\"") = .ok (.string text) := by
  obtain ⟨-, text, next, hread, hparse, -⟩ := @readString16_eq_parse
    (Reader.ofPayload (pickledText [0xD83D, 0xDE00, 0xDC00])) [] [] [0xD83D, 0xDE00, 0xDC00]
    (List.append_nil _).symm rfl rfl (by decide)
  refine ⟨text, next, hread, ?_⟩
  have hspells : Json.Spells
      [⟨⟨100, by decide⟩, ⟨56, by decide⟩, ⟨51, by decide⟩, ⟨100, by decide⟩⟩,
        ⟨⟨68, by decide⟩, ⟨69, by decide⟩, ⟨48, by decide⟩, ⟨48, by decide⟩⟩,
        ⟨⟨100, by decide⟩, ⟨99, by decide⟩, ⟨48, by decide⟩, ⟨48, by decide⟩⟩]
      [0xD83D, 0xDE00, 0xDC00] := .cons (by decide) (.cons (by decide) (.cons (by decide) .nil))
  have hescapes := hparse _ hspells
  exact hescapes

end Text

end Reader

end Browser.Session

end ContextSnap
