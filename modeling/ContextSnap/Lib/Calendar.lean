import ContextSnap.Lib.Bytes

/-!
# The proleptic Gregorian calendar

What `gmtime` and `timegm` of the C library compute: a count of seconds since 1970 as a broken-down
time and back. Years are counted from March, so that the leap day is the last of its year, and in
cycles of 400 years.
-/

namespace ContextSnap.Calendar

/-- A broken-down time, with the month from 1 to 12 and the full year. -/
structure DateTime where
  year : Int
  month : Int
  day : Int
  hour : Int
  minute : Int
  second : Int
  deriving DecidableEq, Repr

/-- The days of the 400-year cycle before the year `yoe` of it. -/
def daysBeforeYear (yoe : Int) : Int := 365 * yoe + yoe / 4 - yoe / 100

/-- The days since 1970-01-01 of a day of the month `mp` after March of a year from March on. -/
def daysFromMarch (y mp day : Int) : Int :=
  146097 * (y / 400) + daysBeforeYear (y % 400) + (153 * mp + 2) / 5 + (day - 1) - 719468

/-- The days since 1970-01-01 of a date whose month is between 1 and 12. -/
def daysFromCivil (year month day : Int) : Int :=
  if month ≤ 2 then daysFromMarch (year - 1) (month + 9) day else daysFromMarch year (month - 3) day

/-- The year of a 400-year cycle that the day `doe` of it falls in: centuries, then spans of four
years, then years. The last century and the last year of a span may be a day longer. -/
def yearOfEra (doe : Int) : Int :=
  let century := min (doe / 36524) 3
  let dayOfCentury := doe - 36524 * century
  let span := dayOfCentury / 1461
  let dayOfSpan := dayOfCentury - 1461 * span
  100 * century + 4 * span + min (dayOfSpan / 365) 3

/-- The date of a count of days since 1970-01-01: year, month and day. -/
def civilFromDays (days : Int) : Int × Int × Int :=
  let z := days + 719468
  let doy := z % 146097 - daysBeforeYear (yearOfEra (z % 146097))
  let mp := (5 * doy + 2) / 153
  let day := doy - (153 * mp + 2) / 5 + 1
  let y := yearOfEra (z % 146097) + 400 * (z / 146097)
  if mp < 10 then (y, mp + 3, day) else (y + 1, mp - 9, day)

/-- `gmtime`. -/
def gmtime (seconds : Int) : DateTime :=
  let date := civilFromDays (seconds / 86400)
  let clock := seconds % 86400
  { year := date.1, month := date.2.1, day := date.2.2, hour := clock / 3600,
    minute := clock / 60 % 60, second := clock % 60 }

/-- `timegm`, which takes a month out of range as a shift of the year. -/
def timegm (time : DateTime) : Int :=
  let year := time.year + (time.month - 1) / 12
  let month := (time.month - 1) % 12 + 1
  daysFromCivil year month 1 * 86400 + (time.day - 1) * 86400 + time.hour * 3600
    + time.minute * 60 + time.second

theorem yearOfEra_bounds {doe : Int} (hlow : 0 ≤ doe) (hhigh : doe < 146097) :
    0 ≤ yearOfEra doe ∧ yearOfEra doe < 400 := by
  simp only [yearOfEra]
  omega

theorem dayOfYear_bounds {doe : Int} (hlow : 0 ≤ doe) (hhigh : doe < 146097) :
    0 ≤ doe - daysBeforeYear (yearOfEra doe) ∧ doe - daysBeforeYear (yearOfEra doe) ≤ 365 := by
  set century := min (doe / 36524) 3 with hcentury
  set span := (doe - 36524 * century) / 1461 with hspan
  set year := min ((doe - 36524 * century - 1461 * span) / 365) 3 with hyear
  have hyoe : yearOfEra doe = 100 * century + 4 * span + year := rfl
  have hquarter : yearOfEra doe / 4 = 25 * century + span := by omega
  have hhundred : yearOfEra doe / 100 = century := by omega
  rw [daysBeforeYear, hquarter, hhundred, hyoe]
  omega

theorem civilFromDays_bounds (days : Int) :
    (1 ≤ (civilFromDays days).2.1 ∧ (civilFromDays days).2.1 ≤ 12)
      ∧ 1 ≤ (civilFromDays days).2.2 ∧ (civilFromDays days).2.2 ≤ 31 := by
  have hdoy := dayOfYear_bounds (Int.emod_nonneg (days + 719468) (by decide))
    (Int.emod_lt_of_pos (days + 719468) (by decide))
  simp only [civilFromDays]
  set doy := (days + 719468) % 146097 - daysBeforeYear (yearOfEra ((days + 719468) % 146097))
  split <;> dsimp only <;> omega

/-- A count of days is the count of its date. -/
theorem daysFromCivil_civilFromDays (days : Int) :
    daysFromCivil (civilFromDays days).1 (civilFromDays days).2.1 (civilFromDays days).2.2
      = days := by
  have hlow := Int.emod_nonneg (days + 719468) (show (146097 : Int) ≠ 0 by decide)
  have hhigh := Int.emod_lt_of_pos (days + 719468) (show (0 : Int) < 146097 by decide)
  have hyoe := yearOfEra_bounds hlow hhigh
  have hdoy := dayOfYear_bounds hlow hhigh
  have hmarch : ∀ era yoe doe : Int, 0 ≤ yoe ∧ yoe < 400 → ∀ mp, daysFromMarch (yoe + 400 * era) mp
      (doe - daysBeforeYear yoe - (153 * mp + 2) / 5 + 1) = 146097 * era + doe - 719468 := by
    intro era yoe doe hyoe mp
    rw [daysFromMarch, show (yoe + 400 * era) / 400 = era by omega,
      show (yoe + 400 * era) % 400 = yoe by omega]
    omega
  have hdays := Int.mul_ediv_add_emod (days + 719468) 146097
  simp only [civilFromDays]
  split
  · rw [daysFromCivil, if_neg (by dsimp only; omega)]
    simp only [Int.add_sub_cancel]
    rw [hmarch _ _ _ hyoe]
    omega
  · rw [daysFromCivil, if_pos (by dsimp only; omega)]
    simp only [Int.add_sub_cancel, Int.sub_add_cancel]
    rw [hmarch _ _ _ hyoe]
    omega

/-- A broken-down time each of whose fields is in its range. -/
structure DateTime.InRange (time : DateTime) : Prop where
  month : 1 ≤ time.month ∧ time.month ≤ 12
  day : 1 ≤ time.day ∧ time.day ≤ 31
  hour : 0 ≤ time.hour ∧ time.hour < 24
  minute : 0 ≤ time.minute ∧ time.minute < 60
  second : 0 ≤ time.second ∧ time.second < 60

theorem gmtime_inRange (seconds : Int) : (gmtime seconds).InRange := by
  obtain ⟨hmonth, hday⟩ := civilFromDays_bounds (seconds / 86400)
  refine ⟨hmonth, hday, ?_, ?_, ?_⟩ <;> simp only [gmtime] <;> omega

/-- **Calendar.** A broken-down time counts for the seconds it was broken down from. -/
theorem timegm_gmtime (seconds : Int) : timegm (gmtime seconds) = seconds := by
  have hbounds := civilFromDays_bounds (seconds / 86400)
  have hdays := daysFromCivil_civilFromDays (seconds / 86400)
  have hday : ∀ year month day, daysFromCivil year month 1 + (day - 1)
      = daysFromCivil year month day := by
    intro year month day
    simp only [daysFromCivil, daysFromMarch]
    split <;> omega
  have hclock : ∀ clock : Int, clock / 3600 * 3600 + clock / 60 % 60 * 60 + clock % 60 = clock := by
    intro clock
    have hhours : clock / 60 / 60 = clock / 3600 := Int.ediv_ediv_of_nonneg (by decide)
    omega
  have htime := hclock (seconds % 86400)
  simp only [timegm, gmtime]
  set date := civilFromDays (seconds / 86400)
  rw [show (date.2.1 - 1) / 12 = 0 by omega, show (date.2.1 - 1) % 12 + 1 = date.2.1 by omega,
    Int.add_zero]
  have hcount := (hday date.1 date.2.1 date.2.2).trans hdays
  omega

end ContextSnap.Calendar
