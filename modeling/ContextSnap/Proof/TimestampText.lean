import ContextSnap.Proof.Timestamp

/-!
# Timestamps before the epoch

Both conversions of `format_timestamp` truncate towards zero, so a time before the epoch has
negative milliseconds past its second. Their sign takes a place of the three that are read back:
with two digits it fills them, with one the padding zero comes before it, and with three the last
digit is cut off.
-/

namespace ContextSnap.Storage

open Calendar

def RoundTrips (timestamp : Timestamp) : Prop :=
  ∃ back, parseTimestamp (formatTimestamp timestamp) = .ok back
    ∧ toUnixMillis back = toUnixMillis timestamp

/-- The milliseconds past the second, which are not positive before the epoch. -/
def millisPastSecond (timestamp : Timestamp) : Int := (timestamp.toInt.tdiv 1000000).tmod 1000

/-- Three characters spell the milliseconds. -/
def FillsField (millis : Int) : Prop := 0 ≤ millis ∨ -100 < millis ∧ millis ≤ -10

/-! ### What is read -/

theorem isField_decimal_of_length {n width : Nat} (h : (decimal n).length = width) :
    IsField width n (decimal n) :=
  ⟨h, fun _ hc => isDigit_of_mem_decimal hc, digitsValue_decimal n⟩

theorem scanInt_minus {width n : Nat} {field : Bytes} (hwidth : 0 < width)
    (h : IsField width n field) (rest : Bytes) :
    scanInt (width + 1) (45 :: (field ++ rest)) = some (-(n : Int), rest) := by
  obtain ⟨hlength, hdigits, hvalue⟩ := h
  have hnonempty : field ≠ [] := by
    rintro rfl
    exact hwidth.ne hlength
  have hsign : signPrefix (45 :: (field ++ rest)) = [45] := rfl
  have hspace : (45 :: (field ++ rest)).dropWhile isSpace = 45 :: (field ++ rest) := rfl
  have htake : (field ++ rest).take width = field := by
    rw [← hlength, List.take_left]
  have hall : field.takeWhile isDigit = field := List.takeWhile_eq_self_iff.mpr hdigits
  have hminus : ([45] : Bytes) = str "-" := by decide
  simp only [scanInt, hspace, hsign, List.length_singleton, List.drop_succ_cons, List.drop_zero,
    Nat.add_sub_cancel, htake, hall, if_neg hnonempty, hvalue]
  rw [decide_eq_true hminus, Nat.add_comm 1, List.drop_succ_cons, List.drop_left]
  rfl

theorem scanInt_zero_minus (width : Nat) (rest : Bytes) :
    scanInt (width + 2) (48 :: 45 :: rest) = some (0, 45 :: rest) := by
  have hminus : ¬ ([] : Bytes) = str "-" := by decide
  have hspace : (48 :: 45 :: rest).dropWhile isSpace = 48 :: 45 :: rest := rfl
  have hsign : signPrefix (48 :: 45 :: rest) = [] := rfl
  have hdigits : ((48 :: 45 :: rest).take (width + 2)).takeWhile isDigit = [48] := by
    simp [List.take_succ_cons, isDigit]
  simp only [scanInt, hspace, hsign, List.length_nil, List.drop_zero, Nat.sub_zero, hdigits]
  rw [decide_eq_false hminus]
  rfl

theorem isField_dropLast {width n : Nat} {field : Bytes} (h : IsField (width + 1) n field) :
    ∃ front last, field = front ++ [last] ∧ IsField width (n / 10) front := by
  obtain ⟨hlength, hdigits, hvalue⟩ := h
  have hnonempty : field ≠ [] := by
    rintro rfl
    cases hlength
  refine ⟨field.dropLast, field.getLast hnonempty, (List.dropLast_concat_getLast hnonempty).symm,
    by rw [List.length_dropLast, hlength]; rfl,
    fun c hc => hdigits c (List.dropLast_subset _ hc), ?_⟩
  have hlast := hdigits _ (List.getLast_mem hnonempty)
  rw [← List.dropLast_concat_getLast hnonempty, digitsValue, List.foldl_concat] at hvalue
  simp only [isDigit, Bool.and_eq_true, decide_eq_true_eq, UInt8.le_iff_toNat_le] at hlast
  have hlow : 48 ≤ (field.getLast hnonempty).toNat := hlast.1
  have hhigh : (field.getLast hnonempty).toNat ≤ 57 := hlast.2
  rw [digitsValue, ← hvalue]
  omega

/-- What is read of negative milliseconds. -/
def readBack (magnitude : Nat) : Nat :=
  if magnitude < 10 then 0 else if magnitude < 100 then magnitude else magnitude / 10

theorem decimalInt_neg {magnitude : Nat} (hpos : 0 < magnitude) :
    decimalInt (-(magnitude : Int)) = 45 :: decimal magnitude := by
  rw [decimalInt, if_pos (by omega), Int.natAbs_neg, Int.natAbs_natCast]
  rfl

theorem length_decimal_eq (n width : Nat) (hlow : 10 ^ width ≤ n) (hhigh : n < 10 ^ (width + 1)) :
    (decimal n).length = width + 1 := by
  have hle := (length_decimal_le_iff (Nat.succ_pos width)).mpr hhigh
  have hnonempty := List.length_pos_iff.mpr (decimal_ne_nil n)
  rcases Nat.eq_zero_or_pos width with rfl | hwidth
  · omega
  · have hgt := mt (length_decimal_le_iff hwidth).mp (Nat.not_lt.mpr hlow)
    omega

theorem sscanf_negative (magnitude : Nat) (hpos : 0 < magnitude) (hlt : magnitude < 1000) :
    (sscanf [.literal 46, .int 3] (cString (str "."
      ++ zeroPadded 3 (decimalInt (-(magnitude : Int))) ++ str "Z"))).getD 0 0
      = -(readBack magnitude : Int) := by
  have hdigits : ∀ c ∈ decimal magnitude, c ≠ 0 := fun c hc =>
    isDigit_ne_zero (isDigit_of_mem_decimal hc)
  rw [decimalInt_neg hpos, readBack]
  by_cases hone : magnitude < 10
  · have hlength := length_decimal_eq magnitude 0 (by omega) (by omega)
    have htext : str "." ++ zeroPadded 3 (45 :: decimal magnitude) ++ str "Z"
        = (46 :: 48 :: 45 :: decimal magnitude) ++ str "Z" := by
      rw [zeroPadded, List.length_cons, hlength]
      rfl
    have hnul : ∀ c ∈ 46 :: 48 :: 45 :: decimal magnitude, c ≠ 0 := by simpa using hdigits
    rw [htext, cString_append hnul, if_pos hone]
    simp only [List.cons_append, sscanf, ↓reduceIte, scanInt_zero_minus 1]
    rfl
  · have hnul : ∀ c ∈ 46 :: 45 :: decimal magnitude, c ≠ 0 := by simpa using hdigits
    have htext : str "." ++ zeroPadded 3 (45 :: decimal magnitude) ++ str "Z"
        = (46 :: 45 :: decimal magnitude) ++ str "Z" := by
      have hnone : 3 - (45 :: decimal magnitude).length = 0 := by
        by_cases htwo : magnitude < 100
        · rw [List.length_cons, length_decimal_eq magnitude 1 (by omega) (by omega)]
        · rw [List.length_cons, length_decimal_eq magnitude 2 (by omega) (by omega)]
      rw [zeroPadded, hnone]
      rfl
    rw [htext, cString_append hnul, if_neg hone]
    by_cases htwo : magnitude < 100
    · have hfield := isField_decimal_of_length
        (length_decimal_eq magnitude 1 (by omega) (by omega))
      simp only [List.cons_append, sscanf, ↓reduceIte, scanInt_minus (by decide) hfield,
        if_pos htwo, List.getD_cons_zero]
    · have hfield := isField_decimal_of_length
        (length_decimal_eq magnitude 2 (by omega) (by omega))
      obtain ⟨front, last, hsplit, hfront⟩ := isField_dropLast hfield
      simp only [hsplit, List.append_assoc, List.cons_append, sscanf, ↓reduceIte,
        scanInt_minus (by decide) hfront, if_neg htwo, List.getD_cons_zero]

theorem readBack_eq_iff (magnitude : Nat) (hpos : 0 < magnitude) :
    readBack magnitude = magnitude ↔ 10 ≤ magnitude ∧ magnitude < 100 := by
  unfold readBack
  split
  · omega
  · split <;> omega

/-! ### The round trip -/

theorem truncated_parts (nanos : Int) :
    (nanos - nanos.tdiv 1000000000 * 1000000000).tdiv 1000000 = (nanos.tdiv 1000000).tmod 1000
      ∧ nanos.tdiv 1000000 = nanos.tdiv 1000000000 * 1000 + (nanos.tdiv 1000000).tmod 1000 := by
  have hparts : ∀ n : Int, 0 ≤ n →
      (n - n / 1000000000 * 1000000000) / 1000000 = n / 1000000 % 1000
        ∧ n / 1000000 = n / 1000000000 * 1000 + n / 1000000 % 1000 := by
    intro n _
    omega
  rcases Int.le_total 0 nanos with hsign | hsign
  · have hpast : 0 ≤ nanos - nanos / 1000000000 * 1000000000 := by omega
    rw [Int.tdiv_eq_ediv_of_nonneg hsign, Int.tdiv_eq_ediv_of_nonneg hsign,
      Int.tdiv_eq_ediv_of_nonneg hpast, Int.tmod_eq_emod_of_nonneg (by omega)]
    exact hparts nanos hsign
  · obtain ⟨n, rfl⟩ : ∃ n, nanos = -n := ⟨-nanos, (Int.neg_neg nanos).symm⟩
    have hn : 0 ≤ n := by omega
    obtain ⟨hpast, hwhole⟩ := hparts n hn
    have hback : -n - -(n / 1000000000) * 1000000000 = -(n - n / 1000000000 * 1000000000) := by ring
    simp only [Int.neg_tdiv, Int.neg_tmod, Int.tdiv_eq_ediv_of_nonneg hn, hback]
    rw [Int.tdiv_eq_ediv_of_nonneg (by omega), Int.tmod_eq_emod_of_nonneg (by omega)]
    omega

theorem toInt_toUnixMillis (timestamp : Timestamp) :
    (toUnixMillis timestamp).toInt = timestamp.toInt.tdiv 1000000 := by
  have hlow := timestamp.le_toInt
  have hhigh := timestamp.toInt_lt
  have hmillion : (1000000 : Int64).toInt = 1000000 := by decide
  have hquotient := Int.mul_tdiv_add_tmod timestamp.toInt 1000000
  have hbelow : timestamp.toInt.tmod 1000000 < 1000000 := Int.tmod_lt_of_pos _ (by decide)
  have habove : -1000000 < timestamp.toInt.tmod 1000000 := Int.lt_tmod_of_pos _ (by decide)
  rw [toUnixMillis, Int64.toInt_div, hmillion]
  exact Int.bmod_eq_of_le (by omega) (by omega)

/-- The milliseconds of a timestamp put together from its second and what was read. -/
theorem toInt_toUnixMillis_parts (seconds millis : Int)
    (hlow : -9223372036854775808 ≤ seconds * 1000000000 + millis * 1000000)
    (hhigh : seconds * 1000000000 + millis * 1000000 < 9223372036854775808) :
    (toUnixMillis (Int64.ofInt seconds * 1000000000 + Int64.ofInt millis * 1000000)).toInt
      = seconds * 1000 + millis := by
  have hvalue : (Int64.ofInt seconds * 1000000000 + Int64.ofInt millis * 1000000).toInt
      = (seconds * 1000 + millis) * 1000000 := by
    rw [show (1000000000 : Int64) = Int64.ofInt 1000000000 from rfl,
      show (1000000 : Int64) = Int64.ofInt 1000000 from rfl, ← Int64.ofInt_mul, ← Int64.ofInt_mul,
      ← Int64.ofInt_add, Int64.toInt_ofInt_of_le hlow hhigh]
    ring
  rw [toInt_toUnixMillis, hvalue, Int.mul_tdiv_cancel _ (by decide)]

/-- The milliseconds are read as `read`, between zero and what they are. -/
theorem roundTrips_iff_read {timestamp : Timestamp} {read : Int}
    (hread : (sscanf [.literal 46, .int 3] (cString (str "."
      ++ zeroPadded 3 (decimalInt (millisPastSecond timestamp)) ++ str "Z"))).getD 0 0 = read)
    (hbetween : 0 ≤ read ∧ read ≤ millisPastSecond timestamp ∧ 0 ≤ timestamp.toInt
      ∨ millisPastSecond timestamp ≤ read ∧ read ≤ 0 ∧ timestamp.toInt ≤ 0) :
    RoundTrips timestamp ↔ read = millisPastSecond timestamp := by
  obtain ⟨hpast, hwhole⟩ := truncated_parts timestamp.toInt
  have hparse := parseTimestamp_format timestamp
  have hlow := timestamp.le_toInt
  have hhigh := timestamp.toInt_lt
  have hlt : millisPastSecond timestamp < 1000 := Int.tmod_lt_of_pos _ (by decide)
  have hgt : -1000 < millisPastSecond timestamp := Int.lt_tmod_of_pos _ (by decide)
  have hquotient := Int.mul_tdiv_add_tmod timestamp.toInt 1000000
  have hbelow : timestamp.toInt.tmod 1000000 < 1000000 := Int.tmod_lt_of_pos _ (by decide)
  have habove : -1000000 < timestamp.toInt.tmod 1000000 := Int.lt_tmod_of_pos _ (by decide)
  have hsign : timestamp.toInt ≤ 0 → timestamp.toInt.tmod 1000000 ≤ 0 := by
    intro h
    rw [← Int.neg_neg timestamp.toInt, Int.neg_tmod]
    exact Int.neg_nonpos_of_nonneg (Int.tmod_nonneg _ (by omega))
  have hsign' : 0 ≤ timestamp.toInt → 0 ≤ timestamp.toInt.tmod 1000000 := Int.tmod_nonneg _
  dsimp only at hparse
  rw [hpast, ← millisPastSecond, hread] at hparse
  rw [← millisPastSecond] at hwhole
  have hmillis := toInt_toUnixMillis timestamp
  have hback := toInt_toUnixMillis_parts (timestamp.toInt.tdiv 1000000000) read (by omega)
    (by omega)
  constructor
  · rintro ⟨back, hok, hsame⟩
    rw [← Except.ok.inj (hparse.symm.trans hok)] at hsame
    have hvalues := congrArg Int64.toInt hsame
    rw [hback, hmillis, hwhole] at hvalues
    exact Int.add_left_cancel hvalues
  · intro heq
    refine ⟨_, hparse, Int64.toInt_inj.mp ?_⟩
    rw [hback, hmillis, hwhole, heq]

/-- **The round trip** of a timestamp works exactly when its milliseconds fill their field: always
from the epoch on, and before it for none and for two digits of them. -/
theorem roundTrips_iff (timestamp : Timestamp) :
    RoundTrips timestamp ↔ FillsField (millisPastSecond timestamp) := by
  have hlt : millisPastSecond timestamp < 1000 := Int.tmod_lt_of_pos _ (by decide)
  have hgt : -1000 < millisPastSecond timestamp := Int.lt_tmod_of_pos _ (by decide)
  rcases Int.lt_or_le (millisPastSecond timestamp) 0 with hneg | hnonneg
  · obtain ⟨magnitude, hmagnitude⟩ : ∃ n : Nat, millisPastSecond timestamp = -n :=
      ⟨(millisPastSecond timestamp).natAbs, by omega⟩
    have hepoch : timestamp.toInt ≤ 0 := by
      by_contra hpos
      have hquotient : 0 ≤ timestamp.toInt.tdiv 1000000 := Int.tdiv_nonneg (by omega) (by decide)
      have hpast : 0 ≤ millisPastSecond timestamp := Int.tmod_nonneg _ hquotient
      omega
    have hread := sscanf_negative magnitude (by omega) (by omega)
    rw [← hmagnitude] at hread
    have hle : readBack magnitude ≤ magnitude := by
      unfold readBack
      split
      · omega
      · split <;> omega
    have hiff := readBack_eq_iff magnitude (by omega)
    rw [roundTrips_iff_read hread (.inr ⟨by omega, by omega, hepoch⟩), hmagnitude, FillsField]
    omega
  · have hfield := @isField_of_bounds 3 (millisPastSecond timestamp) (by decide) hnonneg
      (by omega)
    have hread := sscanf_millis hfield (str "Z")
    rw [Int.toNat_of_nonneg hnonneg] at hread
    have hbetween : 0 ≤ timestamp.toInt ∨ timestamp.toInt ≤ 0 ∧ millisPastSecond timestamp = 0 := by
      rcases Int.le_total 0 timestamp.toInt with hepoch | hepoch
      · exact .inl hepoch
      · have hquotient : 0 ≤ (-timestamp.toInt).tdiv 1000000 :=
          Int.tdiv_nonneg (by omega) (by decide)
        have hpast : 0 ≤ ((-timestamp.toInt).tdiv 1000000).tmod 1000 := Int.tmod_nonneg _ hquotient
        rw [Int.neg_tdiv, Int.neg_tmod, ← millisPastSecond] at hpast
        exact .inr ⟨hepoch, by omega⟩
    refine iff_of_true ((roundTrips_iff_read hread ?_).mpr rfl) (.inl hnonneg)
    rcases hbetween with hepoch | ⟨hepoch, hzero⟩
    · exact .inl ⟨hnonneg, Int.le_refl _, hepoch⟩
    · exact .inr ⟨Int.le_refl _, by omega, hepoch⟩

/-- One millisecond before the epoch is written with its sign behind the padding, and read as the
epoch. -/
theorem not_roundTrips : ¬ ∀ timestamp, RoundTrips timestamp := by
  intro h
  obtain ⟨back, hok, hsame⟩ := h (-1000000)
  have hepoch : parseTimestamp (formatTimestamp (-1000000)) = .ok 0 := by decide
  rw [← Except.ok.inj (hepoch.symm.trans hok)] at hsame
  exact absurd hsame (by decide)

end ContextSnap.Storage
