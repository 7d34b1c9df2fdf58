import HivePoint.ForStd.Calendar
import HivePoint.Native.BillingOverageCollection

/-!
# Renewals and the calendar

A period ends on the same day of the next month, as `setUTCMonth` computes it. A month that
does not have this day is skipped, and the periods after it run a month ahead.

## Key results

- `yearFromDay_spec`: `yearFromDay` is the year of a day
- `monthCalendar`: the months as a calendar
- `day_addUTCMonths_one`: a month later is the same day of the next month, if it has it
- `renewals_followCalendar_iff`: when no month is skipped
- `not_renewals_followCalendar`: a month after 31 January 2026 comes March
-/

namespace HivePoint

/-! ### Years and months -/

/-- A day lies in its year. -/
theorem yearFromDay_spec (day : Int) :
    dayFromYear (yearFromDay day) ≤ day ∧ day < dayFromYear (yearFromDay day + 1) := by
  refine ⟨dayFromYear_yearFromDay_le day, ?_⟩
  simp only [yearFromDay]
  split
  · simp only [dayFromYear]
    omega
  · split
    · rename_i h _
      exact not_le.mp h
    · rename_i h
      rw [Int.sub_add_cancel]
      exact not_le.mp h

/-- In an increasing list the elements up to `x` come first. -/
private theorem lt_length_filter_iff {l : List Int} (h : l.Pairwise (· < ·)) (x : Int) {i : Nat}
    (hi : i < l.length) : i < (l.filter (· ≤ x)).length ↔ l.getD i 0 ≤ x := by
  induction l generalizing i with
  | nil => exact absurd hi (Nat.not_lt_zero i)
  | cons a l ih =>
    obtain ⟨hhead, htail⟩ := List.pairwise_cons.mp h
    by_cases ha : a ≤ x
    · rw [List.filter_cons_of_pos (by simpa using ha)]
      cases i with
      | zero => simpa using ha
      | succ i =>
        have hrest := ih htail (Nat.lt_of_succ_lt_succ hi)
        simpa using hrest
    · -- nothing after an element past `x` is up to `x`
      have hnone : l.filter (· ≤ x) = [] := by
        refine List.filter_eq_nil_iff.mpr fun b hb hle => ?_
        have := hhead b hb
        have : b ≤ x := by simpa using hle
        omega
      rw [List.filter_cons_of_neg (by simpa using ha), hnone]
      refine iff_of_false (by simp) fun hle => ?_
      cases i with
      | zero => exact ha (by simpa using hle)
      | succ i =>
        have hlen : i < l.length := Nat.lt_of_succ_lt_succ hi
        have hlt := hhead (l.getD i 0) (by
          rw [List.getD_eq_getElem l 0 hlen]
          exact List.getElem_mem hlen)
        simp only [List.getD_cons_succ] at hle
        omega

/-- The months of a year start one after the other. -/
private theorem monthStarts_pairwise (year : Int) : (monthStarts year).Pairwise (· < ·) := by
  unfold monthStarts
  split <;> decide

/-- A day of a year lies in its month, of which the last one ends with the year. -/
private theorem monthFromDayWithinYear_spec (year : Int) {dayWithinYear : Int}
    (h : 0 ≤ dayWithinYear) :
    ∃ month : Nat, month < 12 ∧ monthFromDayWithinYear year dayWithinYear = month ∧
      (monthStarts year).getD month 0 ≤ dayWithinYear ∧
      (month < 11 → dayWithinYear < (monthStarts year).getD (month + 1) 0) := by
  have hlength : (monthStarts year).length = 12 := rfl
  have hfilter := fun i => lt_length_filter_iff (i := i) (monthStarts_pairwise year) dayWithinYear
  have hle := List.length_filter_le (fun start => decide (start ≤ dayWithinYear)) (monthStarts year)
  have hpos := (hfilter 0 (by omega)).mpr h
  generalize hcount :
    ((monthStarts year).filter fun start => decide (start ≤ dayWithinYear)).length =
    count at hle hpos hfilter
  refine ⟨count - 1, by omega, ?_, (hfilter (count - 1) (by omega)).mp (by omega), fun hlast => ?_⟩
  · rw [monthFromDayWithinYear, hcount]
    omega
  · refine not_le.mp fun hstart => ?_
    have := (hfilter (count - 1 + 1) (by omega)).mpr hstart
    omega

/-! ### Months as a calendar -/

/-- The first day of a month, counted from January of the year 0. -/
def monthStart (month : Int) : Int := makeDay 0 month 1

/-- A day is counted from the start of its month. -/
private theorem makeDay_eq (year month date : Int) :
    makeDay year month date = monthStart (12 * year + month) + date - 1 := by
  have hyear : 0 + (12 * year + month) / 12 = year + month / 12 := by omega
  have hmonth : (12 * year + month) % 12 = month % 12 := by omega
  simp only [monthStart, makeDay, hyear, hmonth]
  omega

/-- A month starts in its year. -/
private theorem monthStart_eq (year : Int) {month : Nat} (h : month < 12) :
    monthStart (12 * year + month) = dayFromYear year + (monthStarts year).getD month 0 := by
  have hyear : 0 + (12 * year + (month : Int)) / 12 = year := by omega
  have hmonth : (12 * year + (month : Int)) % 12 = month := by omega
  rw [monthStart, makeDay, hyear, hmonth, Int.toNat_natCast]
  omega

/-- A month starts before the next one. -/
private theorem monthStart_lt_succ (month : Int) : monthStart month < monthStart (month + 1) := by
  have hlt := lt_makeDay_succ (month / 12) 1 (Int.emod_nonneg month (by decide))
    (Int.emod_lt_of_pos month (by decide))
  have hsplit : 12 * (month / 12) + month % 12 = month := Int.mul_ediv_add_emod month 12
  rw [makeDay_eq, ← Int.add_assoc, hsplit] at hlt
  have hstart : monthStart month =
      dayFromYear (month / 12) + (monthStarts (month / 12)).getD (month % 12).toNat 0 := by
    rw [monthStart, makeDay, Int.zero_add]
    omega
  omega

/-- The month of a day, counted from January of the year 0. -/
def monthIndex (day : Int) : Int :=
  12 * yearFromDay day + monthFromDayWithinYear (yearFromDay day)
    (day - dayFromYear (yearFromDay day))

/-- A day lies in its month. -/
private theorem monthIndex_spec (day : Int) :
    monthStart (monthIndex day) ≤ day ∧ day < monthStart (monthIndex day + 1) := by
  obtain ⟨hyear, hnext⟩ := yearFromDay_spec day
  obtain ⟨month, hmonth, heq, hstart, hend⟩ :=
    monthFromDayWithinYear_spec (yearFromDay day) (Int.sub_nonneg_of_le hyear)
  rw [monthIndex, heq]
  refine ⟨?_, ?_⟩
  · rw [monthStart_eq _ hmonth]
    omega
  · by_cases hlast : month < 11
    · have hsucc := monthStart_eq (yearFromDay day) (show month + 1 < 12 by omega)
      rw [show 12 * yearFromDay day + (month : Int) + 1 = 12 * yearFromDay day +
        ((month + 1 : Nat) : Int)
        by omega, hsucc]
      have := hend hlast
      omega
    · -- December ends with the year
      have hjanuary := monthStart_eq (yearFromDay day + 1) (show 0 < 12 by omega)
      rw [show 12 * yearFromDay day + (month : Int) + 1 = 12 * (yearFromDay day + 1) +
        ((0 : Nat) : Int)
        by omega, hjanuary]
      exact lt_of_lt_of_eq hnext (Int.add_zero _).symm

def monthCalendar : Calendar where
  start := monthStart
  index := monthIndex
  start_lt := monthStart_lt_succ
  start_index_le day := (monthIndex_spec day).1
  lt_start_index day := (monthIndex_spec day).2

/-- The number of days of a month, counted from January of the year 0. -/
def daysInMonth (month : Int) : Int :=
  [31, if inLeapYear (month / 12) then 29 else 28, 31, 30, 31, 30, 31, 31, 30, 31, 30, 31].getD
    (month % 12).toNat 0

/-- A year has 365 or 366 days. -/
private theorem dayFromYear_succ_eq (year : Int) :
    dayFromYear (year + 1) = dayFromYear year + 365 + if inLeapYear year then 1 else 0 := by
  have hle : dayFromYear (year + 1) ≤ dayFromYear year + 366 := by
    simp only [dayFromYear]
    omega
  have hge := dayFromYear_succ year
  unfold inLeapYear
  split
  · rename_i h
    have := of_decide_eq_true h
    omega
  · rename_i h
    have : ¬dayFromYear (year + 1) - dayFromYear year = 366 := fun heq => h (decide_eq_true heq)
    omega

/-- The months before December end where the next one starts. -/
private theorem monthStarts_succ_sub (year : Int) {month : Nat} (h : month < 11) :
    (monthStarts year).getD (month + 1) 0 - (monthStarts year).getD month 0 =
      [31, if inLeapYear year then 29 else 28, 31, 30, 31, 30, 31, 31, 30, 31, 30, 31].getD
        month 0 := by
  unfold monthStarts
  split <;> (revert month; decide)

/-- The calendar's months have the lengths of the months. -/
private theorem length_monthCalendar (month : Int) :
    monthCalendar.length month = daysInMonth month := by
  obtain ⟨year, m, hm, rfl⟩ : ∃ (year : Int) (m : Nat), m < 12 ∧ month = 12 * year + m :=
    ⟨month / 12, (month % 12).toNat, by omega, by omega⟩
  have hyear : (12 * year + (m : Int)) / 12 = year := by omega
  have hmonth : (12 * year + (m : Int)) % 12 = m := by omega
  show monthStart (12 * year + m + 1) - monthStart (12 * year + m) = _
  rw [daysInMonth, hyear, hmonth, Int.toNat_natCast, monthStart_eq year hm]
  -- inside a year the next month starts in it, and December ends with the year
  by_cases hlast : m < 11
  · rw [show 12 * year + (m : Int) + 1 = 12 * year + ((m + 1 : Nat) : Int) by omega,
      monthStart_eq year (by omega)]
    have hdiff := monthStarts_succ_sub year hlast
    omega
  · obtain rfl : m = 11 := by omega
    rw [show 12 * year + ((11 : Nat) : Int) + 1 = 12 * (year + 1) + ((0 : Nat) : Int) by omega,
      monthStart_eq (year + 1) (by omega), dayFromYear_succ_eq]
    unfold monthStarts
    split
    · simp
      omega
    · simp

/-- A month has 28 days at least. -/
private theorem daysInMonth_ge (month : Int) : 28 ≤ daysInMonth month := by
  obtain ⟨m, hm, hmod⟩ : ∃ m : Nat, m < 12 ∧ month % 12 = m :=
    ⟨(month % 12).toNat, by omega, by omega⟩
  rw [daysInMonth, hmod, Int.toNat_natCast]
  split <;> (clear hmod; revert m; decide)

/-! ### Renewals -/

/-- The month of an instant in UTC, counted from January of the year 0. -/
def calendarMonth (t : Int) : Int := 12 * getUTCFullYear t + getUTCMonth t

/-- An instant's month is that of its day. -/
private theorem calendarMonth_eq (t : Int) : calendarMonth t = monthCalendar.index (t / msPerDay) :=
  rfl

/-- The day of the month counts from 1. -/
private theorem getUTCDate_eq (t : Int) :
    getUTCDate t = monthCalendar.offset (t / msPerDay) + 1 := by
  have hday := dayFromYear_yearFromDay_le (t / msPerDay)
  obtain ⟨month, hmonth, heq, -, -⟩ :=
    monthFromDayWithinYear_spec (yearFromDay (t / msPerDay)) (Int.sub_nonneg_of_le hday)
  show _ = t / msPerDay - monthStart (monthIndex (t / msPerDay)) + 1
  rw [getUTCDate, getUTCMonth, getUTCFullYear, monthIndex, heq, monthStart_eq _ hmonth,
    Int.toNat_natCast]
  omega

/-- A month later is as many days after the start of the next month. -/
theorem day_addUTCMonths_one (t : Int) :
    addUTCMonths t 1 / msPerDay = monthCalendar.next (t / msPerDay) := by
  have hdate := getUTCDate_eq t
  have hmoved : addUTCMonths t 1 =
      makeDay (getUTCFullYear t) (getUTCMonth t + 1) (getUTCDate t) * msPerDay + t % msPerDay := rfl
  have hnext : monthCalendar.next (t / msPerDay) =
      monthStart (calendarMonth t + 1) + monthCalendar.offset (t / msPerDay) := rfl
  rw [hmoved, Int.add_comm, Int.add_mul_ediv_right _ _ (Int.ne_of_gt msPerDay_pos),
    Int.ediv_eq_zero_of_lt (Int.emod_nonneg _ (Int.ne_of_gt msPerDay_pos))
      (Int.emod_lt_of_pos _ msPerDay_pos),
    makeDay_eq, hnext, calendarMonth, hdate, Int.add_assoc (12 * getUTCFullYear t)]
  omega

/-- The days of the renewals are the steps of the calendar. -/
private theorem day_renewal (n : Nat) (start : Int) :
    (fun t => addPlanPeriod t .month)^[n] start / msPerDay = monthCalendar.next^[n]
    (start / msPerDay) := by
  have hsemiconj : Function.Semiconj (· / msPerDay)
      (fun t => addPlanPeriod t .month) monthCalendar.next :=
    day_addUTCMonths_one
  exact hsemiconj.iterate_right n start

/-- The renewals keep pace with the months if and only if each month on the way has the day. -/
private theorem calendarMonth_renewal_iff (start : Int) (n : Nat) :
    calendarMonth ((fun t => addPlanPeriod t .month)^[n] start) = calendarMonth start + n ↔
      ∀ k : Nat, 1 ≤ k → k ≤ n → getUTCDate start ≤ daysInMonth (calendarMonth start + k) := by
  rw [calendarMonth_eq, day_renewal, calendarMonth_eq, Calendar.index_iterate_iff]
  simp only [length_monthCalendar, getUTCDate_eq, Int.add_one_le_iff]

/-- Each month has the first 28 days. -/
private theorem calendarMonth_renewal {start : Int} (h : getUTCDate start ≤ 28) (n : Nat) :
    calendarMonth ((fun t => addPlanPeriod t .month)^[n] start) = calendarMonth start + n :=
  (calendarMonth_renewal_iff start n).mpr fun _ _ _ => h.trans (daysInMonth_ge _)

-- A subscription of 28 July 2026 is renewed in every month.
example (n : Nat) : calendarMonth ((fun t => addPlanPeriod t .month)^[n] 1785196800000) =
    calendarMonth 1785196800000 + n :=
  calendarMonth_renewal (by decide +kernel) n

/-- The `n`-th renewal lies `n` months after the start, and the first period ends a month after
    it, if and only if each month on the way has the day of the start. -/
theorem renewals_followCalendar_iff (start : Int) (n : Nat) :
    (calendarMonth ((fun t => addPlanPeriod t .month)^[n] start) = calendarMonth start + n ↔
      ∀ k : Nat, 1 ≤ k → k ≤ n → getUTCDate start ≤ daysInMonth (calendarMonth start + k)) ∧
    (calendarMonth (getInvoicePeriod start).2 = calendarMonth start + 1 ↔
      getUTCDate start ≤ daysInMonth (calendarMonth start + 1)) := by
  refine ⟨calendarMonth_renewal_iff start n, ?_⟩
  -- the end of the first period is computed as the first renewal is
  have hfirst := calendarMonth_renewal_iff start 1
  show calendarMonth ((fun t => addPlanPeriod t .month)^[1] start) = _ ↔ _
  refine hfirst.trans ⟨fun h => h 1 (le_refl 1) (le_refl 1), fun h k h₁ h₂ => ?_⟩
  obtain rfl : k = 1 := le_antisymm h₂ h₁
  exact h

/-- A subscription of 31 January 2026 skips February, at its start and as a renewal. -/
theorem not_renewals_followCalendar :
    ¬∀ (start : Int) (n : Nat), 1 ≤ n →
      calendarMonth ((fun t => addPlanPeriod t .month)^[n] start) = calendarMonth start + n ∧
        calendarMonth (getInvoicePeriod start).2 = calendarMonth start + 1 := by
  intro h
  exact absurd (h 1769817600000 1 (le_refl 1)).2 (by decide +kernel)

end HivePoint
