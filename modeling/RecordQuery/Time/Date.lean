/-!
Dates of the Gregorian calendar, extended to all years, and their count in days from 1 January 1970.
The count treats years as starting on 1 March, so that the leap day is the last day of its year, and
groups them into eras of 400 years, all of which have 146097 days.
-/

namespace RecordQuery

namespace Date

/-- Whether a year has a 29 February. -/
def isLeap (year : Int) : Bool := year % 4 == 0 && (year % 100 != 0 || year % 400 == 0)

/-- The number of days of a month. -/
def daysIn (year : Int) (month : Nat) : Nat :=
  if month = 2 then if isLeap year then 29 else 28
  else if month = 4 ∨ month = 6 ∨ month = 9 ∨ month = 11 then 30
  else 31

/-- Whether year, month and day are a date that exists. -/
def Valid (year : Int) (month day : Nat) : Prop :=
  1 ≤ month ∧ month ≤ 12 ∧ 1 ≤ day ∧ day ≤ daysIn year month

instance (year : Int) (month day : Nat) : Decidable (Valid year month day) :=
  inferInstanceAs (Decidable (_ ∧ _))

end Date

/-- A date that exists. -/
structure Date where
  year : Int
  month : Nat
  day : Nat
  valid : Date.Valid year month day
  deriving DecidableEq

namespace Date

/-- The date of the given year, month and day, if it exists. -/
def ofFields? (year : Int) (month day : Nat) : Option Date :=
  if valid : Valid year month day then some { year, month, day, valid } else none

/-- Days from 1 March of the first year of an era to 1 March of year `y` of it. -/
def daysToYear (y : Nat) : Nat := 365 * y + y / 4 - y / 100

/-- Days from 1 March to the first day of the month that is `m` months after March. -/
def daysToMonth (m : Nat) : Nat := (153 * m + 2) / 5

/-- The year, counted from 1 March, of a calendar year and month. -/
def marchYear (year : Int) (month : Nat) : Int := if month ≤ 2 then year - 1 else year

/-- A calendar month, counted from March. -/
def marchMonth (month : Nat) : Nat := if month ≤ 2 then month + 9 else month - 3

/-- The days from 1 January 1970 to a date; negative before it. -/
def toEpochDays (d : Date) : Int :=
  marchYear d.year d.month / 400 * 146097 +
    ((daysToYear (marchYear d.year d.month % 400).toNat + daysToMonth (marchMonth d.month) +
      (d.day - 1) : Nat) : Int) - 719468

/-- The year of an era in which its day `n` falls. Only the last century and the last four years of
an era may have a day more than the others, so both quotients stop at 3. -/
def yearOfDay (n : Nat) : Nat :=
  let century := min (n / 36524) 3
  let inCentury := n - century * 36524
  let leapCycle := inCentury / 1461
  let inCycle := inCentury - leapCycle * 1461
  century * 100 + leapCycle * 4 + min (inCycle / 365) 3

/-- Century, leap cycle, year and day of an era's day `n`. The year has a 366th day only if it is
the last of its cycle, and the cycle is not a century's last one or the century is the era's last.
-/
theorem exists_yearOfDay {n : Nat} (h : n < 146097) :
    ∃ c q y r, yearOfDay n = 100 * c + 4 * q + y ∧ n = 36524 * c + 1461 * q + 365 * y + r ∧
      c ≤ 3 ∧ q ≤ 24 ∧ y ≤ 3 ∧ (r ≤ 364 ∨ r = 365 ∧ y = 3 ∧ (q = 24 → c = 3)) := by
  let c := min (n / 36524) 3
  let q := (n - c * 36524) / 1461
  let m := n - c * 36524 - q * 1461
  refine ⟨c, q, min (m / 365) 3, m - min (m / 365) 3 * 365, ?_, ?_, ?_, ?_, ?_, ?_⟩
  · show c * 100 + q * 4 + min (m / 365) 3 = _
    omega
  all_goals omega

theorem yearOfDay_lt {n : Nat} (h : n < 146097) : yearOfDay n < 400 := by
  obtain ⟨c, q, y, r, hy, -, hc, hq, hy', -⟩ := exists_yearOfDay h
  omega

theorem daysToYear_yearOfDay_le {n : Nat} (h : n < 146097) : daysToYear (yearOfDay n) ≤ n := by
  obtain ⟨c, q, y, r, hy, hn, hc, hq, hy', hr⟩ := exists_yearOfDay h
  have h4 : yearOfDay n / 4 = 25 * c + q := by omega
  have h100 : yearOfDay n / 100 = c := by omega
  unfold daysToYear
  omega

/-- The day in its year is at most the 366th, and that one only if the year ends in a leap day. -/
theorem dayOfYear_le {n : Nat} (h : n < 146097) :
    n - daysToYear (yearOfDay n) ≤ 364 ∨
      n - daysToYear (yearOfDay n) = 365 ∧ (yearOfDay n + 1) % 4 = 0 ∧
        ((yearOfDay n + 1) % 100 ≠ 0 ∨ (yearOfDay n + 1) % 400 = 0) := by
  obtain ⟨c, q, y, r, hy, hn, hc, hq, hy', hr⟩ := exists_yearOfDay h
  have h4 : yearOfDay n / 4 = 25 * c + q := by omega
  have h100 : yearOfDay n / 100 = c := by omega
  unfold daysToYear
  omega

/-- The month, counted from March, in which day `n` of a year falls. -/
def monthOfDay (n : Nat) : Nat := (5 * n + 2) / 153

/-- Calendar year and month of a year from 1 March and a month counted from March. -/
def calendarYear (year : Int) (month : Nat) : Int := if month < 10 then year else year + 1

def calendarMonth (month : Nat) : Nat := if month < 10 then month + 3 else month - 9

theorem valid_of_dayOfYear {year : Int} {n : Nat}
    (h : n ≤ 364 ∨ n = 365 ∧ isLeap (year + 1)) :
    Valid (calendarYear year (monthOfDay n)) (calendarMonth (monthOfDay n))
      (n - daysToMonth (monthOfDay n) + 1) := by
  have hm : monthOfDay n ≤ 11 := by unfold monthOfDay; omega
  have hlo : daysToMonth (monthOfDay n) ≤ n := by unfold daysToMonth monthOfDay; omega
  have hhi : n < daysToMonth (monthOfDay n + 1) := by unfold daysToMonth monthOfDay; omega
  generalize monthOfDay n = m at *
  unfold Valid daysIn calendarMonth calendarYear
  unfold daysToMonth at *
  have : m = 0 ∨ m = 1 ∨ m = 2 ∨ m = 3 ∨ m = 4 ∨ m = 5 ∨ m = 6 ∨ m = 7 ∨ m = 8 ∨ m = 9 ∨ m = 10 ∨
      m = 11 := by omega
  rcases this with rfl | rfl | rfl | rfl | rfl | rfl | rfl | rfl | rfl | rfl | rfl | rfl
  case inr.inr.inr.inr.inr.inr.inr.inr.inr.inr.inr =>
    rcases h with h | ⟨h, leap⟩
    · have : 28 ≤ if isLeap (year + 1) = true then 29 else 28 := by split <;> omega
      simp
      omega
    · simp [h, leap]
  all_goals simp; omega

theorem isLeap_of_yearOfDay {era : Int} {year : Nat}
    (h : (year + 1) % 4 = 0 ∧ ((year + 1) % 100 ≠ 0 ∨ (year + 1) % 400 = 0)) :
    isLeap (era * 400 + year + 1) = true := by
  have h4 : (era * 400 + year + 1) % 4 = 0 := by omega
  have h100 : (era * 400 + year + 1) % 100 ≠ 0 ∨ (era * 400 + year + 1) % 400 = 0 := by omega
  simpa [isLeap, h4] using h100

theorem isLeap_of_dayOfYear (era : Int) {n : Nat} (h : n < 146097) :
    n - daysToYear (yearOfDay n) ≤ 364 ∨
      n - daysToYear (yearOfDay n) = 365 ∧ isLeap (era * 400 + yearOfDay n + 1) :=
  (dayOfYear_le h).imp_right fun ⟨hn, hy⟩ => ⟨hn, isLeap_of_yearOfDay hy⟩

/-- The date of day `n` of the year that starts on 1 March of `year`. -/
def ofYearDay (year : Int) (n : Nat) (h : n ≤ 364 ∨ n = 365 ∧ isLeap (year + 1)) : Date where
  year := calendarYear year (monthOfDay n)
  month := calendarMonth (monthOfDay n)
  day := n - daysToMonth (monthOfDay n) + 1
  valid := valid_of_dayOfYear h

/-- The era in which the `n`-th day after 1 January 1970 falls. -/
def eraOfEpochDay (n : Int) : Int := (n + 719468) / 146097

/-- The place in its era of the `n`-th day after 1 January 1970. -/
def dayOfEra (n : Int) : Nat := ((n + 719468) % 146097).toNat

theorem dayOfEra_lt (n : Int) : dayOfEra n < 146097 := by
  unfold dayOfEra
  omega

/-- The date that is `n` days after 1 January 1970, or before it if `n` is negative. -/
def ofEpochDays (n : Int) : Date :=
  ofYearDay (eraOfEpochDay n * 400 + yearOfDay (dayOfEra n))
    (dayOfEra n - daysToYear (yearOfDay (dayOfEra n)))
    (isLeap_of_dayOfYear (eraOfEpochDay n) (dayOfEra_lt n))

theorem marchMonth_calendarMonth {m : Nat} (h : m ≤ 11) : marchMonth (calendarMonth m) = m := by
  unfold marchMonth calendarMonth
  split <;> split at * <;> omega

theorem marchYear_calendarYear (year : Int) {m : Nat} (h : m ≤ 11) :
    marchYear (calendarYear year m) (calendarMonth m) = year := by
  unfold marchYear calendarYear calendarMonth
  split <;> split at * <;> omega

theorem toEpochDays_ofYearDay {era : Int} {year n : Nat} (hyear : year < 400)
    (h : n ≤ 364 ∨ n = 365 ∧ isLeap (era * 400 + year + 1)) :
    (ofYearDay (era * 400 + year) n h).toEpochDays =
      era * 146097 + (daysToYear year + n : Nat) - 719468 := by
  have hm : monthOfDay n ≤ 11 := by unfold monthOfDay; omega
  have hlo : daysToMonth (monthOfDay n) ≤ n := by unfold daysToMonth monthOfDay; omega
  have hera : (era * 400 + (year : Int)) / 400 = era := by omega
  have hyear : ((era * 400 + (year : Int)) % 400).toNat = year := by omega
  simp only [toEpochDays, ofYearDay, marchMonth_calendarMonth hm, marchYear_calendarYear _ hm,
    hera, hyear]
  omega

/-- Counting the days to the date of a count gives the count. -/
theorem toEpochDays_ofEpochDays (n : Int) : (ofEpochDays n).toEpochDays = n := by
  have hle := daysToYear_yearOfDay_le (dayOfEra_lt n)
  unfold ofEpochDays
  rw [toEpochDays_ofYearDay (yearOfDay_lt (dayOfEra_lt n)), Nat.add_sub_cancel' hle]
  unfold eraOfEpochDay dayOfEra
  omega

end Date

end RecordQuery
