import RecordQuery.Time.Instant
import Mathlib.Tactic.Common

/-!
Years and their days. The days to a date tell its year: it comes before some year exactly if the date
comes before the first of January of that year (`Date.toEpochDays_lt_iff`). So the years of instants are
those of their range.

A clock in UTC shows the date and the time of day of an instant, and from these the instant is found again
(`Instant.ofLocal?_date_clock`), unless its nanoseconds make up a full second that is not at the end of a
minute: this one cannot be told from the next second (`Instant.asRead`).
-/

namespace RecordQuery

namespace Date

theorem valid_newYear (year : Int) : Valid year 1 1 := by
  unfold Valid daysIn
  simp

/-- The first of January. -/
def newYear (year : Int) : Date := ⟨year, 1, 1, valid_newYear year⟩

theorem daysToYear_add_le {y z : Nat} (h : y < z) : daysToYear y + 365 ≤ daysToYear z := by
  have leapDays {m n : Nat} : m ≤ n → m - m / 25 ≤ n - n / 25 := by omega
  have fewer : y / 4 - y / 100 ≤ z / 4 - z / 100 := by
    rw [show y / 100 = y / 4 / 25 by omega, show z / 100 = z / 4 / 25 by omega]
    exact leapDays (Nat.div_le_div_right (Nat.le_of_lt h))
  unfold daysToYear
  omega

/-- The days from 1 March of the first year of era 0 to 1 March of a year. -/
def daysToMarch (year : Int) : Int := year / 400 * 146097 + daysToYear (year % 400).toNat

theorem daysToMarch_add_le {year next : Int} (h : year < next) :
    daysToMarch year + 365 ≤ daysToMarch next := by
  unfold daysToMarch
  by_cases sameEra : year / 400 = next / 400
  · have later := daysToYear_add_le (show (year % 400).toNat < (next % 400).toNat by omega)
    omega
  · have inEra : daysToYear (year % 400).toNat + 365 ≤ 146097 := by
      unfold daysToYear
      omega
    omega

/-- The days from 1 March to a date, in the year that starts with that day. -/
def dayOfMarchYear (d : Date) : Nat := daysToMonth (marchMonth d.month) + (d.day - 1)

theorem toEpochDays_eq (d : Date) :
    d.toEpochDays = daysToMarch (marchYear d.year d.month) + d.dayOfMarchYear - 719468 := by
  unfold toEpochDays daysToMarch dayOfMarchYear
  omega

/-- In a year that starts in March, January and February come after 306 days, the other months before. -/
theorem dayOfMarchYear_bounds (d : Date) :
    d.month ≤ 2 ∧ 306 ≤ d.dayOfMarchYear ∧ d.dayOfMarchYear ≤ 365 ∨
      2 < d.month ∧ d.dayOfMarchYear < 306 := by
  obtain ⟨year, month, day, hmonth, hmonth', hday, hday'⟩ := d
  have short : month = 2 → day ≤ 29 := by
    rintro rfl
    unfold daysIn at hday'
    split_ifs at hday' <;> omega
  have long : day ≤ 31 := by
    unfold daysIn at hday'
    split_ifs at hday' <;> omega
  unfold dayOfMarchYear daysToMonth marchMonth
  dsimp only
  split_ifs <;> omega

theorem toEpochDays_newYear (year : Int) :
    (newYear year).toEpochDays = daysToMarch (year - 1) + 306 - 719468 := by
  have march : marchYear (newYear year).year (newYear year).month = year - 1 :=
    if_pos (show 1 ≤ 2 by decide)
  have day : (newYear year).dayOfMarchYear = 306 := by
    change daysToMonth (marchMonth 1) + (1 - 1) = 306
    decide
  rw [toEpochDays_eq, march, day]
  rfl

/-- A date is before the first day of a year exactly if its year is before that year. -/
theorem toEpochDays_lt_iff (d : Date) (year : Int) :
    d.toEpochDays < (newYear year).toEpochDays ↔ d.year < year := by
  rw [toEpochDays_newYear, toEpochDays_eq]
  have later {y z : Int} : y < z → daysToMarch y + 365 ≤ daysToMarch z := daysToMarch_add_le
  rcases dayOfMarchYear_bounds d with ⟨month, least, most⟩ | ⟨month, most⟩
  · have march : marchYear d.year d.month = d.year - 1 := if_pos month
    rw [march]
    rcases Int.lt_trichotomy (d.year - 1) (year - 1) with before | same | behind
    · have := later before
      omega
    · rw [same]
      omega
    · have := later behind
      omega
  · have march : marchYear d.year d.month = d.year := if_neg (Nat.not_le.2 month)
    rw [march]
    rcases Int.lt_trichotomy d.year (year - 1) with before | same | behind
    · have := later before
      omega
    · rw [same]
      omega
    · have := later behind
      omega

end Date

namespace Instant

/-- The years of instants, in UTC, are those of their range. -/
theorem year_date_bounds (t : Instant) : minYear ≤ t.date.year ∧ t.date.year ≤ maxYear := by
  obtain ⟨⟨least, most⟩, -⟩ := t.valid
  have days : t.date.toEpochDays = t.seconds / 86400 := Date.toEpochDays_ofEpochDays _
  have first : (Date.newYear minYear).toEpochDays * 86400 = minSeconds := by decide
  have behindLast : (Date.newYear (maxYear + 1)).toEpochDays * 86400 = maxSeconds + 1 := by decide
  have notBefore := mt (Date.toEpochDays_lt_iff t.date minYear).2
  have before := (Date.toEpochDays_lt_iff t.date (maxYear + 1)).1
  rw [days] at notBefore before
  exact ⟨Int.not_lt.1 (notBefore (by omega)), Int.lt_add_one_iff.1 (before (by omega))⟩

/-- The time of day of an instant is one that a clock shows. -/
theorem clock_bounds (t : Instant) :
    t.clock.hour ≤ 23 ∧ t.clock.minute ≤ 59 ∧ t.clock.second ≤ 60 ∧ t.clock.nanos < nanosPerSecond := by
  have valid := t.valid.2
  unfold nanosPerSecond at valid
  unfold clock nanosPerSecond
  dsimp only
  omega

/-- The last second of all is at the end of a minute. -/
theorem valid_carried {t : Instant} (offClock : ¬ t.OnClock) :
    Valid (t.seconds + 1) (t.nanos - nanosPerSecond) := by
  obtain ⟨⟨least, most⟩, nanos⟩ := t.valid
  obtain ⟨-, notAtEnd⟩ := not_or.1 offClock
  unfold Valid
  unfold minSeconds at least ⊢
  unfold maxSeconds at most ⊢
  omega

/-- What a clock shows of an instant is read as this one: a full second of nanoseconds that it does not show
as such counts as the next second. -/
def asRead (t : Instant) : Instant :=
  if onClock : t.OnClock then t
  else { seconds := t.seconds + 1, nanos := t.nanos - nanosPerSecond, valid := valid_carried onClock }

theorem asRead_of_onClock {t : Instant} (onClock : t.OnClock) : t.asRead = t := dif_pos onClock

theorem asRead_cases (t : Instant) :
    (t.nanos < nanosPerSecond ∨ t.seconds % 60 = 59) ∧
        t.asRead.seconds = t.seconds ∧ t.asRead.nanos = t.nanos ∨
      (nanosPerSecond ≤ t.nanos ∧ t.seconds % 60 ≠ 59) ∧
        t.asRead.seconds = t.seconds + 1 ∧ t.asRead.nanos = t.nanos - nanosPerSecond := by
  by_cases onClock : t.OnClock
  · rw [asRead_of_onClock onClock]
    exact .inl ⟨onClock, rfl, rfl⟩
  · rw [asRead, dif_neg onClock]
    rw [OnClock, not_or, Nat.not_lt] at onClock
    exact .inr ⟨onClock, rfl, rfl⟩

theorem onClock_asRead (t : Instant) : t.asRead.OnClock := by
  have valid := t.valid.2
  have parts := t.asRead_cases
  unfold OnClock
  unfold nanosPerSecond at valid parts ⊢
  omega

theorem asRead_eq_self_iff {t : Instant} : t.asRead = t ↔ t.OnClock := by
  constructor
  · intro same
    rw [← same]
    exact t.onClock_asRead
  · exact asRead_of_onClock

/-- The seconds that the clock shows, a leap second not counted. -/
theorem seconds_clock (t : Instant) :
    t.seconds / 86400 * 86400 +
        ((t.clock.hour * 3600 + t.clock.minute * 60 + min t.clock.second 59 : Nat) : Int) =
      t.asRead.seconds := by
  have valid := t.valid.2
  have parts := t.asRead_cases
  unfold nanosPerSecond at valid parts
  unfold clock nanosPerSecond
  dsimp only
  omega

/-- The clock shows the second 60 in leap seconds only. -/
theorem nanos_clock (t : Instant) :
    (if t.clock.second = 60 then nanosPerSecond else 0) + t.clock.nanos = t.asRead.nanos := by
  have valid := t.valid.2
  have parts := t.asRead_cases
  unfold nanosPerSecond at valid parts
  unfold clock nanosPerSecond
  dsimp only
  split <;> omega

/-- The instant that is found from the date of an instant and its time of day, in UTC. -/
theorem ofLocal?_date_clock (t : Instant) : ofLocal? t.date t.clock 0 = some t.asRead := by
  obtain ⟨leastYear, mostYear⟩ := t.year_date_bounds
  obtain ⟨hour, minute, second, -⟩ := t.clock_bounds
  have days : t.date.toEpochDays = t.seconds / 86400 := Date.toEpochDays_ofEpochDays _
  rw [ofLocal?, if_pos ⟨leastYear, mostYear, hour, minute, second⟩]
  dsimp only
  rw [days, t.seconds_clock, Int.sub_zero, t.nanos_clock, ofParts?, dif_pos t.asRead.valid]
  exact if_pos t.onClock_asRead

end Instant

end RecordQuery
