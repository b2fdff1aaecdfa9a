import ContextSnap.Core.Ulid
import ContextSnap.Lib.Positional

/-!
# The order of ULIDs

An id is the numerals of its milliseconds and of forty bits of either random word in an alphabet
that is in byte order, so ids sort like these three numbers and are read back to the first of them.
-/

namespace ContextSnap

open Positional

def letter (digit : Nat) : UInt8 := kAlphabet.getD digit 0

theorem compare_letter : ∀ d < 32, ∀ d' < 32, compare (letter d) (letter d') = compare d d' := by
  decide +kernel

theorem decodeChar_letter : ∀ d < 32, decodeChar (letter d) = some (UInt64.ofNat d) := by
  decide +kernel

/-! ### Numerals in base 32 -/

theorem base32_eq (count : Nat) (value : UInt64) :
    base32 count value = (digits 32 count value.toNat).map letter := by
  induction count generalizing value with
  | zero => rfl
  | succ count ih =>
      have hmask : (0x1F : UInt64).toNat = 2 ^ 5 - 1 := rfl
      have hshift : (5 : UInt64).toNat = 5 := rfl
      rw [base32, ih, digits, List.map_append, List.map_singleton, UInt64.toNat_shiftRight,
        UInt64.toNat_and, hmask, hshift, Nat.and_two_pow_sub_one_eq_mod, Nat.shiftRight_eq_div_pow]
      rfl

theorem length_base32 (count : Nat) (value : UInt64) : (base32 count value).length = count := by
  rw [base32_eq, List.length_map, length_digits]

theorem compare_base32 (count : Nat) (value value' : UInt64) :
    compare (base32 count value) (base32 count value')
      = compare (value.toNat % 32 ^ count) (value'.toNat % 32 ^ count) := by
  rw [base32_eq, base32_eq, compare_map compare_letter
    (fun _ hd => lt_of_mem_digits _ _ (by decide) hd)
    (fun _ hd => lt_of_mem_digits _ _ (by decide) hd), compare_digits (by decide)]

theorem decodeChar_base32 {count : Nat} {value : UInt64} {c : UInt8} (h : c ∈ base32 count value) :
    (decodeChar c).isSome = true := by
  rw [base32_eq] at h
  obtain ⟨d, hd, rfl⟩ := List.mem_map.mp h
  rw [decodeChar_letter d (lt_of_mem_digits _ _ (by decide) hd)]
  rfl

theorem mapM_decodeChar {numeral : List Nat} (h : ∀ d ∈ numeral, d < 32) :
    (numeral.map letter).mapM decodeChar = some (numeral.map UInt64.ofNat) := by
  induction numeral with
  | nil => rfl
  | cons d numeral ih =>
      rw [List.map_cons, List.mapM_cons, decodeChar_letter d (h d (List.mem_cons_self ..)),
        ih fun d hd => h d (List.mem_cons_of_mem _ hd)]
      rfl

theorem toNat_shiftIn (millis : UInt64) {d : Nat} (hd : d < 32)
    (hfits : 32 * millis.toNat + 31 < 2 ^ 64) :
    ((millis <<< 5) ||| UInt64.ofNat d).toNat = 32 * millis.toNat + d := by
  have hshift : (5 : UInt64).toNat = 5 := rfl
  have hdigit : (UInt64.ofNat d).toNat = d :=
    UInt64.toNat_ofNat_of_lt' (by change d < 2 ^ 64; omega)
  have hpower : millis.toNat <<< 5 = 2 ^ 5 * millis.toNat := by
    rw [Nat.shiftLeft_eq, Nat.mul_comm]
  rw [UInt64.toNat_or, UInt64.toNat_shiftLeft, hshift, hdigit, hpower,
    Nat.mod_eq_of_lt (by omega), ← Nat.two_pow_add_eq_or_of_lt hd]

/-- The digits read behind a number that leaves room for all of them. -/
theorem toNat_foldl_shiftIn (numeral : List Nat) (start : UInt64) (h : ∀ d ∈ numeral, d < 32)
    (hfits : (start.toNat + 1) * 32 ^ numeral.length ≤ 2 ^ 64) :
    ((numeral.map UInt64.ofNat).foldl (fun (millis value : UInt64) => (millis <<< 5) ||| value)
      start).toNat = ofDigits 32 start.toNat numeral := by
  induction numeral generalizing start with
  | nil => rfl
  | cons d numeral ih =>
      have hd := h d (List.mem_cons_self ..)
      rw [List.length_cons, pow_succ', ← Nat.mul_assoc] at hfits
      have hroom : (start.toNat + 1) * 32 ≤ (start.toNat + 1) * 32 * 32 ^ numeral.length :=
        Nat.le_mul_of_pos_right _ (by positivity)
      have hstep := toNat_shiftIn start hd (by omega)
      have hnext : (32 * start.toNat + d + 1) * 32 ^ numeral.length ≤ 2 ^ 64 :=
        (Nat.mul_le_mul_right _ (by omega)).trans hfits
      rw [List.map_cons, List.foldl_cons, ih _ (fun d hd => h d (List.mem_cons_of_mem _ hd))
        (by rw [hstep]; exact hnext), hstep]
      rfl

/-! ### Ids -/

def ulidMillis (time : Timestamp) : Nat := (time.toInt / 1000000).toNat

/-- The bits of a random word that go into an id. -/
def ulidBits (word : UInt64) : Nat := word.toNat % 2 ^ 40

/-- The 48 bits that `generate_ulid` takes of a time. -/
def ulidTime (time : Timestamp) : UInt64 :=
  (if time / 1000000 < 0 then 0 else time / 1000000).toUInt64 &&& 0x0000FFFFFFFFFFFF

theorem generateUlid_eq (time : Timestamp) (hi lo : UInt64) :
    generateUlid time hi lo = base32 10 (ulidTime time) ++ base32 8 (hi &&& 0x000000FFFFFFFFFF)
      ++ base32 8 (lo &&& 0x000000FFFFFFFFFF) := rfl

theorem toNat_ulidTime {time : Timestamp} (h : 0 ≤ time.toInt) :
    (ulidTime time).toNat = ulidMillis time ∧ ulidMillis time < 2 ^ 48 := by
  have hhigh := time.toInt_lt
  have hmillion : (1000000 : Int64).toInt = 1000000 := by decide
  have hmask : (0x0000FFFFFFFFFFFF : UInt64).toNat = 2 ^ 48 - 1 := rfl
  have hvalue : (time / 1000000).toInt = time.toInt / 1000000 := by
    rw [Int64.toInt_div, hmillion, Int.tdiv_eq_ediv_of_nonneg h]
    exact Int.bmod_eq_of_le (by omega) (by omega)
  have hsign : ¬ time / 1000000 < 0 := by
    rw [Int64.lt_iff_toInt_lt, hvalue]
    simp only [Int64.toInt_zero]
    omega
  have hbits : (time / 1000000).toUInt64.toNat = ulidMillis time := by
    rw [ulidMillis, ← hvalue]
    have hle : 0 ≤ time / 1000000 := by
      rw [Int64.le_iff_toInt_le, hvalue, Int64.toInt_zero]
      omega
    exact Int64.toNat_toUInt64_of_le hle
  have hlt : ulidMillis time < 2 ^ 48 := by
    rw [ulidMillis]
    omega
  refine ⟨?_, hlt⟩
  rw [ulidTime, if_neg hsign, UInt64.toNat_and, hmask, Nat.and_two_pow_sub_one_eq_mod, hbits,
    Nat.mod_eq_of_lt hlt]

theorem toNat_lowBits (word : UInt64) :
    (word &&& 0x000000FFFFFFFFFF).toNat % 32 ^ 8 = ulidBits word := by
  have hmask : (0x000000FFFFFFFFFF : UInt64).toNat = 2 ^ 40 - 1 := rfl
  rw [UInt64.toNat_and, hmask, Nat.and_two_pow_sub_one_eq_mod]
  exact Nat.mod_mod _ _

theorem isValidUlid_generateUlid {time : Timestamp} (h : 0 ≤ time.toInt) (hi lo : UInt64) :
    isValidUlid (generateUlid time hi lo) = true := by
  obtain ⟨htime, hlt⟩ := toNat_ulidTime h
  have hlength : (generateUlid time hi lo).length = kUlidLength := by
    simp only [generateUlid_eq, List.length_append, length_base32]
    rfl
  have hall : (generateUlid time hi lo).all (fun c => (decodeChar c).isSome) = true := by
    rw [List.all_eq_true]
    intro c hc
    simp only [generateUlid_eq, List.mem_append] at hc
    rcases hc with (hc | hc) | hc <;> exact decodeChar_base32 hc
  have hhead : (generateUlid time hi lo).head? = some (letter (ulidMillis time / 32 ^ 9 % 32)) := by
    rw [generateUlid_eq, List.append_assoc, List.head?_append, base32_eq, List.head?_map,
      digits_head _ _ (by decide), htime]
    rfl
  have hdigit : ulidMillis time / 32 ^ 9 % 32 ≤ 7 := by omega
  have htop : UInt64.ofNat (ulidMillis time / 32 ^ 9 % 32) ≤ 7 := by
    rw [UInt64.le_iff_toNat_le, UInt64.toNat_ofNat_of_lt' (by change _ < 2 ^ 64; omega)]
    exact hdigit
  rw [isValidUlid, hlength, hall, hhead, Option.bind_some, decodeChar_letter _ (by omega)]
  simpa using htop

theorem ulidTimestamp_generateUlid {time : Timestamp} (h : 0 ≤ time.toInt) (hi lo : UInt64) :
    (ulidTimestamp (generateUlid time hi lo)).toInt = time.toInt / 1000000 * 1000000 := by
  obtain ⟨htime, hlt⟩ := toNat_ulidTime h
  have hhigh := time.toInt_lt
  have hnumeral : ∀ d ∈ digits 32 10 (ulidTime time).toNat, d < 32 :=
    fun _ hd => lt_of_mem_digits _ _ (by decide) hd
  have hlength : ¬ (generateUlid time hi lo).length < kTimestampChars := by
    simp only [generateUlid_eq, List.length_append, length_base32]
    decide
  have hfront : (generateUlid time hi lo).take kTimestampChars
      = (digits 32 10 (ulidTime time).toNat).map letter := by
    rw [generateUlid_eq, List.append_assoc, ← base32_eq]
    exact List.take_left' (length_base32 _ _)
  have hread := toNat_foldl_shiftIn (digits 32 10 (ulidTime time).toNat) 0 hnumeral
    (by rw [length_digits]; decide)
  rw [UInt64.toNat_zero, ofDigits_digits, Nat.mod_eq_of_lt (by omega)] at hread
  rw [ulidTimestamp, if_neg hlength, hfront, mapM_decodeChar hnumeral]
  dsimp only
  set millis := ((digits 32 10 (ulidTime time).toNat).map UInt64.ofNat).foldl
    (fun (millis value : UInt64) => (millis <<< 5) ||| value) 0
  have hvalue : millis.toInt64.toInt = time.toInt / 1000000 := by
    have hbits : millis.toInt64.toInt = (millis.toNat : Int).bmod (2 ^ 64) :=
      BitVec.toInt_eq_toNat_bmod _
    rw [hbits, hread, htime, Int.bmod_eq_of_le (by omega) (by omega), ulidMillis]
    exact Int.toNat_of_nonneg (by omega)
  have hmillion : (1000000 : Int64).toInt = 1000000 := by decide
  rw [Int64.toInt_mul, hvalue, hmillion]
  exact Int.bmod_eq_of_le (by omega) (by omega)

theorem compare_generateUlid {time time' : Timestamp} (h : 0 ≤ time.toInt) (h' : 0 ≤ time'.toInt)
    (hi lo hi' lo' : UInt64) :
    compare (generateUlid time hi lo) (generateUlid time' hi' lo')
      = (compare (ulidMillis time) (ulidMillis time')).then
          ((compare (ulidBits hi) (ulidBits hi')).then (compare (ulidBits lo) (ulidBits lo'))) := by
  obtain ⟨htime, hlt⟩ := toNat_ulidTime h
  obtain ⟨htime', hlt'⟩ := toNat_ulidTime h'
  have hlength : ∀ (count : Nat) (value value' : UInt64),
      (base32 count value).length = (base32 count value').length := by
    intro count value value'
    rw [length_base32, length_base32]
  rw [generateUlid_eq, generateUlid_eq, List.append_assoc, List.append_assoc,
    compare_append (hlength ..), compare_append (hlength ..), compare_base32, compare_base32,
    compare_base32, toNat_lowBits, toNat_lowBits, toNat_lowBits, toNat_lowBits, htime, htime',
    Nat.mod_eq_of_lt (by omega), Nat.mod_eq_of_lt (by omega)]

/-- **ULIDs** are valid, are read back to their millisecond, and are ordered like their millisecond
and their random bits. -/
theorem ulid_ordered {time time' : Timestamp} (h : 0 ≤ time.toInt) (h' : 0 ≤ time'.toInt)
    (hi lo hi' lo' : UInt64) :
    isValidUlid (generateUlid time hi lo) = true
      ∧ (ulidTimestamp (generateUlid time hi lo)).toInt = time.toInt / 1000000 * 1000000
      ∧ compare (generateUlid time hi lo) (generateUlid time' hi' lo')
        = (compare (ulidMillis time) (ulidMillis time')).then
            ((compare (ulidBits hi) (ulidBits hi')).then (compare (ulidBits lo) (ulidBits lo')))
      ∧ (generateUlid time hi lo = generateUlid time' hi' lo'
        ↔ (ulidMillis time, ulidBits hi, ulidBits lo)
          = (ulidMillis time', ulidBits hi', ulidBits lo')) := by
  have hcompare := compare_generateUlid h h' hi lo hi' lo'
  refine ⟨isValidUlid_generateUlid h hi lo, ulidTimestamp_generateUlid h hi lo, hcompare, ?_⟩
  rw [← Std.LawfulEqOrd.compare_eq_iff_eq (α := Bytes), hcompare, Ordering.then_eq_eq,
    Ordering.then_eq_eq, Nat.compare_eq_eq, Nat.compare_eq_eq, Nat.compare_eq_eq, Prod.mk.injEq,
    Prod.mk.injEq]

/-- Two ids of one millisecond of 2025 and the same first word. -/
theorem ulid_ordered_sameMillis :
    compare (generateUlid 1757310000123000000 7 1) (generateUlid 1757310000123999999 7 2)
      = .lt := by
  have h := (@ulid_ordered 1757310000123000000 1757310000123999999 (by decide) (by decide) 7 1 7
    2).2.2.1
  rw [h]
  decide

end ContextSnap
