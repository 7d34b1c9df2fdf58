import Mathlib

/-!
# Instants and UTC calendar arithmetic

An instant is an `Int`, the time value of a JavaScript `Date`: milliseconds since
1970-01-01T00:00:00Z. The functions below are the `Date` methods the services use,
as ECMAScript defines them; the proleptic Gregorian calendar has no daylight saving
in UTC, so a UTC day always has `msPerDay` milliseconds.
-/

namespace HivePoint

def msPerMinute : Int := 60 * 1000
def msPerHour : Int := 60 * msPerMinute
def msPerDay : Int := 24 * msPerHour

/-! ### Time of day -/

def getUTCMilliseconds (t : Int) : Int := t % 1000
def getUTCSeconds (t : Int) : Int := t / 1000 % 60
def getUTCMinutes (t : Int) : Int := t / msPerMinute % 60
def getUTCHours (t : Int) : Int := t / msPerHour % 24

/-- `date.setUTCHours(0, 0, 0, 0)`: the first instant of the same UTC day. -/
def setUTCMidnight (t : Int) : Int := t / msPerDay * msPerDay

/-- `date.setUTCDate(date.getUTCDate() + days)`: ECMAScript carries a day number
    outside the month into the neighbouring months, so this moves by whole days. -/
def addUTCDays (t : Int) (days : Int) : Int := t + days * msPerDay

/-! ### Calendar months -/

/-- The day number of 1 January of `year` (ECMAScript `DayFromYear`). -/
def dayFromYear (year : Int) : Int :=
  365 * (year - 1970) + (year - 1969) / 4 - (year - 1901) / 100 + (year - 1601) / 400

/-- The year that contains the day number `day`. -/
def yearFromDay (day : Int) : Int :=
  -- 400 years have 146097 days: the estimate is off by at most one year
  let year := 1970 + day * 400 / 146097
  if dayFromYear (year + 1) ≤ day then year + 1
  else if dayFromYear year ≤ day then year
  else year - 1

/-- Is the number of days of `year` 366? -/
def inLeapYear (year : Int) : Bool := dayFromYear (year + 1) - dayFromYear year = 366

/-- The day within the year on which each of the twelve months starts. -/
def monthStarts (year : Int) : List Int :=
  let leap : Int := if inLeapYear year then 1 else 0
  [0, 31, 59 + leap, 90 + leap, 120 + leap, 151 + leap, 181 + leap, 212 + leap, 243 + leap,
    273 + leap, 304 + leap, 334 + leap]

/-- The month, from 0, of a day within its year. -/
def monthFromDayWithinYear (year dayWithinYear : Int) : Int :=
  ((monthStarts year).filter (· ≤ dayWithinYear)).length - 1

/-- The day number of day `date` of month `month` of `year`; months from 12 on carry into
    later years, days past the month's end into later months (ECMAScript `MakeDay`). -/
def makeDay (year month date : Int) : Int :=
  let ym := year + month / 12
  dayFromYear ym + (monthStarts ym).getD (month % 12).toNat 0 + date - 1

def getUTCFullYear (t : Int) : Int := yearFromDay (t / msPerDay)

def getUTCMonth (t : Int) : Int :=
  monthFromDayWithinYear (getUTCFullYear t) (t / msPerDay - dayFromYear (getUTCFullYear t))

def getUTCDate (t : Int) : Int :=
  t / msPerDay - dayFromYear (getUTCFullYear t) -
    (monthStarts (getUTCFullYear t)).getD (getUTCMonth t).toNat 0 + 1

/-- `date.setUTCMonth(date.getUTCMonth() + months)`. -/
def addUTCMonths (t : Int) (months : Int) : Int :=
  let day := t / msPerDay
  let year := yearFromDay day
  let dayWithinYear := day - dayFromYear year
  let month := monthFromDayWithinYear year dayWithinYear
  let date := dayWithinYear - (monthStarts year).getD month.toNat 0 + 1
  makeDay year (month + months) date * msPerDay + t % msPerDay

-- 2026-01-31T00:00:00Z plus one month is 2026-03-03, and plus twelve is 2027-01-31.
example : addUTCMonths 1769817600000 1 = 1772496000000 := by decide +kernel
example : addUTCMonths 1769817600000 12 = 1801353600000 := by decide +kernel

/-! ### Days as intervals -/

/-- A day lasts. -/
theorem msPerDay_pos : 0 < msPerDay := by decide

/-- The start of the UTC day of `t` is not later than `t`. -/
theorem setUTCMidnight_le (t : Int) : setUTCMidnight t ≤ t := by
  simp only [setUTCMidnight, msPerDay, msPerHour, msPerMinute]
  omega

/-- `t` is earlier than the start of the next UTC day. -/
theorem lt_addUTCDays_setUTCMidnight (t : Int) : t < addUTCDays (setUTCMidnight t) 1 := by
  simp only [addUTCDays, setUTCMidnight, msPerDay, msPerHour, msPerMinute]
  omega

/-! ### A month later -/

/-- A year has at least 365 days. -/
theorem dayFromYear_succ (year : Int) : dayFromYear year + 365 ≤ dayFromYear (year + 1) := by
  simp only [dayFromYear]
  omega

/-- The year of a day has started by that day. -/
theorem dayFromYear_yearFromDay_le (day : Int) : dayFromYear (yearFromDay day) ≤ day := by
  simp only [yearFromDay]
  split
  · rename_i h
    exact h
  · split
    · rename_i h
      exact h
    · simp only [dayFromYear]
      omega

/-- The months of a year start one after the other. -/
private theorem monthStarts_lt_succ (year : Int) {month : Nat} (h : month < 11) :
    (monthStarts year).getD month 0 < (monthStarts year).getD (month + 1) 0 := by
  simp only [monthStarts]
  split <;> (revert month; decide)

/-- Months are numbered from 0 to 11. -/
private theorem monthFromDayWithinYear_bounds (year : Int) {dayWithinYear : Int}
    (h : 0 ≤ dayWithinYear) :
    0 ≤ monthFromDayWithinYear year dayWithinYear ∧
      monthFromDayWithinYear year dayWithinYear < 12 := by
  have hlength : (monthStarts year).length = 12 := rfl
  have hle := List.length_filter_le (fun start => decide (start ≤ dayWithinYear)) (monthStarts year)
  have hpos : 0 < ((monthStarts year).filter fun start => decide (start ≤ dayWithinYear)).length :=
    List.length_pos_of_mem (List.mem_filter.mpr ⟨List.mem_cons_self, by simpa using h⟩)
  simp only [monthFromDayWithinYear]
  omega

/-- The same day of the next month is later: a month that is too short carries into the next. -/
theorem lt_makeDay_succ (year date : Int) {month : Int} (h₀ : 0 ≤ month) (h₁ : month < 12) :
    dayFromYear year + (monthStarts year).getD month.toNat 0 + date - 1 <
      makeDay year (month + 1) date := by
  obtain ⟨m, rfl⟩ := Int.eq_ofNat_of_zero_le h₀
  simp only [makeDay, Int.toNat_natCast]
  by_cases hlast : m = 11
  · -- from December into January
    subst hlast
    have hnext := dayFromYear_succ year
    have hdecember : (monthStarts year).getD 11 0 < 365 := by
      simp only [monthStarts]
      split <;> decide
    show _ < dayFromYear (year + 1) + 0 + date - 1
    omega
  · have hmonth : m < 11 := by omega
    have hlt := monthStarts_lt_succ year hmonth
    rw [show ((m : Int) + 1) / 12 = 0 by omega, show ((m : Int) + 1) % 12 =
      ((m + 1 : Nat) : Int) by omega,
      Int.toNat_natCast, Int.add_zero]
    omega

/-- Adding a month moves forward in time. -/
theorem lt_addUTCMonths_one (t : Int) : t < addUTCMonths t 1 := by
  have hsplit : t / msPerDay * msPerDay + t % msPerDay = t := Int.ediv_mul_add_emod t msPerDay
  have hday := dayFromYear_yearFromDay_le (t / msPerDay)
  simp only [addUTCMonths]
  generalize t / msPerDay = day at hday hsplit ⊢
  obtain ⟨h₀, h₁⟩ := monthFromDayWithinYear_bounds (yearFromDay day) (Int.sub_nonneg_of_le hday)
  generalize monthFromDayWithinYear (yearFromDay day) (day - dayFromYear (yearFromDay day)) =
    month at h₀ h₁ ⊢
  have hlt : day < makeDay (yearFromDay day) (month + 1)
      (day - dayFromYear (yearFromDay day) - (monthStarts (yearFromDay day)).getD month.toNat
        0 + 1) := by
    refine Int.lt_of_le_of_lt ?_ (lt_makeDay_succ (yearFromDay day) _ h₀ h₁)
    omega
  have hmul := Int.mul_lt_mul_of_pos_right hlt msPerDay_pos
  omega

end HivePoint
