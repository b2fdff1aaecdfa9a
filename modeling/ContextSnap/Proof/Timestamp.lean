import ContextSnap.Storage.Timestamp

/-!
# Timestamps read back

A whole millisecond from the epoch on survives its RFC 3339 text and its count of milliseconds. The
nanoseconds of an `int64` reach from the year 1677 to 2262, so that every year has four digits.
-/

namespace ContextSnap.Storage

open Calendar

/-- A whole number of milliseconds from 1970 on. -/
def WholeMillis (timestamp : Timestamp) : Prop :=
  0 ≤ timestamp.toInt ∧ timestamp.toInt % 1000000 = 0

instance (timestamp : Timestamp) : Decidable (WholeMillis timestamp) :=
  inferInstanceAs (Decidable (_ ∧ _))

theorem year_bounds (seconds : Int) (hlow : -10000000000 ≤ seconds)
    (hhigh : seconds < 10000000000) :
    1000 ≤ (gmtime seconds).year ∧ (gmtime seconds).year < 10000 := by
  have hyoe := yearOfEra_bounds
    (Int.emod_nonneg (seconds / 86400 + 719468) (show (146097 : Int) ≠ 0 by decide))
    (Int.emod_lt_of_pos (seconds / 86400 + 719468) (by decide))
  simp only [gmtime, civilFromDays]
  split <;> dsimp only <;> omega

theorem decimalInt_of_nonneg {i : Int} (h : 0 ≤ i) : decimalInt i = decimal i.toNat := by
  rw [decimalInt, if_neg (Int.not_lt.mpr h), show i.natAbs = i.toNat by omega]

theorem isField_of_bounds {width : Nat} (value : Int) (hwidth : 0 < width) (hlow : 0 ≤ value)
    (hhigh : value < 10 ^ width) :
    IsField width value.toNat (zeroPadded width (decimalInt value)) := by
  rw [decimalInt_of_nonneg hlow]
  apply isField_zeroPadded hwidth
  have hcast : ((10 ^ width : Nat) : Int) = 10 ^ width := by push_cast; rfl
  omega

theorem isDigit_ne_zero {c : UInt8} (h : isDigit c = true) : c ≠ 0 := by
  rintro rfl
  exact absurd h (by decide)

section Fields

variable {year month day hour minute second : Nat}
variable {yearField monthField dayField hourField minuteField secondField : Bytes}

/-- Six fields, from the year to the second, and their separators. -/
def clockText (yearField monthField dayField hourField minuteField secondField : Bytes) : Bytes :=
  yearField ++ 45 :: (monthField ++ 45 :: (dayField ++ 84 :: (hourField ++ 58 :: (minuteField
    ++ 58 :: secondField))))

/-- What `c_str()` shows of a text whose front has no NUL. -/
theorem cString_append {front : Bytes} (h : ∀ c ∈ front, c ≠ 0) (rest : Bytes) :
    cString (front ++ rest) = front ++ cString rest := by
  apply List.takeWhile_append_of_pos
  intro c hc
  exact decide_eq_true (h c hc)

theorem field_ne_zero {width n : Nat} {field : Bytes} (h : IsField width n field) :
    ∀ c ∈ field, c ≠ 0 :=
  fun c hc => isDigit_ne_zero (h.2.1 c hc)

/-- The six fields of a clock are read from their text, and what is left decides about the
milliseconds. -/
theorem parseTimestamp_clockText (hyear : IsField 4 year yearField)
    (hmonth : IsField 2 month monthField) (hday : IsField 2 day dayField)
    (hhour : IsField 2 hour hourField) (hminute : IsField 2 minute minuteField)
    (hsecond : IsField 2 second secondField) (rest : Bytes) :
    parseTimestamp
        (clockText yearField monthField dayField hourField minuteField secondField ++ rest)
      = .ok (Int64.ofInt (timegm ⟨year, month, day, hour, minute, second⟩) * 1000000000
        + Int64.ofInt ((sscanf [.literal 46, .int 3] (cString rest)).getD 0 0) * 1000000) := by
  have hnul : ∀ c ∈ clockText yearField monthField dayField hourField minuteField secondField,
      c ≠ 0 := by
    intro c hc
    simp only [clockText, List.mem_append, List.mem_cons] at hc
    rcases hc with h | rfl | h | rfl | h | rfl | h | rfl | h | rfl | h
    · exact field_ne_zero hyear c h
    · decide
    · exact field_ne_zero hmonth c h
    · decide
    · exact field_ne_zero hday c h
    · decide
    · exact field_ne_zero hhour c h
    · decide
    · exact field_ne_zero hminute c h
    · decide
    · exact field_ne_zero hsecond c h
  have hlength : ¬ (clockText yearField monthField dayField hourField minuteField secondField
      ++ rest).length < 19 := by
    simp only [clockText, List.length_append, List.length_cons, hyear.1, hmonth.1, hday.1, hhour.1,
      hminute.1, hsecond.1]
    omega
  have hfields : sscanf timestampFormat
        (clockText yearField monthField dayField hourField minuteField secondField ++ cString rest)
      = (year : Int) :: month :: day :: hour :: minute :: second
        :: sscanf [.literal 46, .int 3] (cString rest) := by
    simp only [clockText, timestampFormat, List.append_assoc, List.cons_append, sscanf,
      scanInt_field (by decide) hyear, scanInt_field (by decide) hmonth,
      scanInt_field (by decide) hday, scanInt_field (by decide) hhour,
      scanInt_field (by decide) hminute, scanInt_field (by decide) hsecond, ↓reduceIte]
  have hcount : ∀ tail : List Int,
      ¬ ((year : Int) :: month :: day :: hour :: minute :: second :: tail).length < 6 := by
    intro tail
    simp only [List.length_cons]
    omega
  rw [parseTimestamp, if_neg hlength, cString_append hnul, hfields]
  dsimp only
  rw [if_neg (hcount _)]
  rfl

end Fields

theorem putTime_eq (time : DateTime) :
    putTime time
      = clockText (decimalInt time.year) (zeroPadded 2 (decimalInt time.month))
          (zeroPadded 2 (decimalInt time.day)) (zeroPadded 2 (decimalInt time.hour))
          (zeroPadded 2 (decimalInt time.minute)) (zeroPadded 2 (decimalInt time.second)) := by
  have hdash : str "-" = [45] := by decide
  have hletter : str "T" = [84] := by decide
  have hcolon : str ":" = [58] := by decide
  simp only [putTime, clockText, hdash, hletter, hcolon, List.append_assoc, List.cons_append,
    List.nil_append]

/-- What `formatTimestamp` writes is read up to the milliseconds, which depend on their text. -/
theorem parseTimestamp_format (timestamp : Timestamp) :
    let nanos := timestamp.toInt
    let seconds := nanos.tdiv 1000000000
    let millis := (nanos - seconds * 1000000000).tdiv 1000000
    parseTimestamp (formatTimestamp timestamp) = .ok (Int64.ofInt seconds * 1000000000
      + Int64.ofInt ((sscanf [.literal 46, .int 3] (cString (str "."
        ++ zeroPadded 3 (decimalInt millis) ++ str "Z"))).getD 0 0) * 1000000) := by
  intro nanos seconds millis
  have hlow : -9223372036854775808 ≤ nanos := timestamp.le_toInt
  have hhigh : nanos < 9223372036854775808 := timestamp.toInt_lt
  have hquotient : 1000000000 * seconds + nanos.tmod 1000000000 = nanos :=
    Int.mul_tdiv_add_tmod nanos 1000000000
  have hbelow : nanos.tmod 1000000000 < 1000000000 := Int.tmod_lt_of_pos nanos (by decide)
  have habove : -1000000000 < nanos.tmod 1000000000 := Int.lt_tmod_of_pos nanos (by decide)
  have hyear := year_bounds seconds (by omega) (by omega)
  obtain ⟨hmonth, hday, hhour, hminute, hsecond⟩ := gmtime_inRange seconds
  have hback := timegm_gmtime seconds
  set time := gmtime seconds with htime
  have hyearField : IsField 4 time.year.toNat (decimalInt time.year) := by
    rw [decimalInt_of_nonneg (by omega)]
    exact isField_decimal (by decide) (by omega) (by omega)
  have htext : formatTimestamp timestamp
      = clockText (decimalInt time.year) (zeroPadded 2 (decimalInt time.month))
          (zeroPadded 2 (decimalInt time.day)) (zeroPadded 2 (decimalInt time.hour))
          (zeroPadded 2 (decimalInt time.minute)) (zeroPadded 2 (decimalInt time.second))
        ++ (str "." ++ zeroPadded 3 (decimalInt millis) ++ str "Z") := by
    rw [← putTime_eq]
    simp only [formatTimestamp, List.append_assoc]
    rfl
  have hclock := parseTimestamp_clockText hyearField
    (isField_of_bounds time.month (by decide) (by omega) (by omega))
    (isField_of_bounds time.day (by decide) (by omega) (by omega))
    (isField_of_bounds time.hour (by decide) (by omega) (by omega))
    (isField_of_bounds time.minute (by decide) (by omega) (by omega))
    (isField_of_bounds time.second (by decide) (by omega) (by omega))
    (str "." ++ zeroPadded 3 (decimalInt millis) ++ str "Z")
  have hnat : ∀ {i : Int}, 0 ≤ i → (i.toNat : Int) = i := Int.toNat_of_nonneg
  rw [htext, hclock, hnat (show 0 ≤ time.year by omega), hnat (show 0 ≤ time.month by omega),
    hnat (show 0 ≤ time.day by omega), hnat hhour.1, hnat hminute.1, hnat hsecond.1, hback]

theorem sscanf_millis {millis : Nat} {field : Bytes} (h : IsField 3 millis field) (rest : Bytes) :
    (sscanf [.literal 46, .int 3] (cString (46 :: (field ++ rest)))).getD 0 0 = (millis : Int) := by
  have hnul : ∀ c ∈ 46 :: field, c ≠ 0 := by
    intro c hc
    rcases List.mem_cons.mp hc with rfl | hc
    · decide
    · exact field_ne_zero h c hc
  have hshown : cString (46 :: (field ++ rest)) = 46 :: (field ++ cString rest) :=
    cString_append hnul rest
  rw [hshown]
  simp only [sscanf, scanInt_field (by decide) h, ↓reduceIte, List.getD_cons_zero]

/-- **RFC 3339.** A timestamp of whole milliseconds is read back from its text. -/
theorem parseTimestamp_formatTimestamp {timestamp : Timestamp} (h : WholeMillis timestamp) :
    parseTimestamp (formatTimestamp timestamp) = .ok timestamp := by
  obtain ⟨hlow, hwhole⟩ := h
  have hread := parseTimestamp_format timestamp
  set nanos := timestamp.toInt with hnanos
  set seconds := nanos.tdiv 1000000000 with hseconds
  set millis := (nanos - seconds * 1000000000).tdiv 1000000 with hmillis
  have hdiv : seconds = nanos / 1000000000 := Int.tdiv_eq_ediv_of_nonneg hlow
  have hsplit : nanos = seconds * 1000000000 + millis * 1000000 := by
    rw [hmillis, Int.tdiv_eq_ediv_of_nonneg (by omega)]
    omega
  have hmillisBounds : 0 ≤ millis ∧ millis < 1000 := by omega
  have hfield := @isField_of_bounds 3 millis (by decide) (by omega) (by omega)
  have hpoint : str "." ++ zeroPadded 3 (decimalInt millis) ++ str "Z"
    = 46 :: (zeroPadded 3 (decimalInt millis) ++ str "Z") := rfl
  rw [hread, hpoint, sscanf_millis hfield, Int.toNat_of_nonneg hmillisBounds.1,
    show (1000000000 : Int64) = Int64.ofInt 1000000000 from rfl,
    show (1000000 : Int64) = Int64.ofInt 1000000 from rfl, ← Int64.ofInt_mul, ← Int64.ofInt_mul,
    ← Int64.ofInt_add, ← hsplit, hnanos, Int64.ofInt_toInt]

end ContextSnap.Storage
