import RecordQuery.Time.Date

/-!
Points in time, to the nanosecond, from the year -262143 to the year 262142. The nanosecond part may
be a full second or more: an inserted leap second shares its count of seconds with the second before
it. Clocks show such a time with one more second, which is the second 60 at the end of a minute, but
reads as the next second after any other.
-/

namespace RecordQuery

namespace Instant

def minYear : Int := -262143

def maxYear : Int := 262142

/-- The first second of the first year. -/
def minSeconds : Int := -8334601228800

/-- The last second of the last year. -/
def maxSeconds : Int := 8210266876799

def nanosPerSecond : Nat := 1000000000

theorem minSeconds_eq :
    minSeconds = (⟨minYear, 1, 1, by decide⟩ : Date).toEpochDays * 86400 := by
  decide

theorem maxSeconds_eq :
    maxSeconds = (⟨maxYear, 12, 31, by decide⟩ : Date).toEpochDays * 86400 + 86399 := by
  decide

/-- Whether the parts are those of an instant. -/
def Valid (seconds : Int) (nanos : Nat) : Prop :=
  (minSeconds ≤ seconds ∧ seconds ≤ maxSeconds) ∧ nanos < 2 * nanosPerSecond

instance (seconds : Int) (nanos : Nat) : Decidable (Valid seconds nanos) :=
  inferInstanceAs (Decidable ((_ ∧ _) ∧ _))

end Instant

/-- A point in time: whole seconds since the start of 1970 in UTC, rounded down, and the nanoseconds
after them, less than two seconds. -/
structure Instant where
  seconds : Int
  nanos : Nat
  valid : Instant.Valid seconds nanos
  deriving DecidableEq

namespace Instant

/-- A clock shows a full second of nanoseconds as such: there is none, or it is at the end of a minute. -/
def OnClock (t : Instant) : Prop := t.nanos < nanosPerSecond ∨ t.seconds % 60 = 59

instance (t : Instant) : Decidable t.OnClock := inferInstanceAs (Decidable (_ ∨ _))

/-- The instant with the given parts, if there is one and clocks show it. -/
def ofParts? (seconds : Int) (nanos : Nat) : Option Instant :=
  if valid : Valid seconds nanos then
    let t : Instant := { seconds, nanos, valid }
    if t.OnClock then some t else none
  else none

/-- A time of day as a clock shows it; the second 60 is a leap second. -/
structure Clock where
  hour : Nat
  minute : Nat
  second : Nat
  nanos : Nat
  deriving DecidableEq

/-- The instant at which a clock that is `offset` seconds ahead of UTC shows a date and a time.
There is none for a time that no clock shows, and none outside the range of years, in UTC or on
the clock. -/
def ofLocal? (date : Date) (clock : Clock) (offset : Int) : Option Instant :=
  if minYear ≤ date.year ∧ date.year ≤ maxYear ∧
      clock.hour ≤ 23 ∧ clock.minute ≤ 59 ∧ clock.second ≤ 60 then
    let inDay := clock.hour * 3600 + clock.minute * 60 + min clock.second 59
    let leap := if clock.second = 60 then nanosPerSecond else 0
    ofParts? (date.toEpochDays * 86400 + inDay - offset) (leap + clock.nanos)
  else none

/-- The date in UTC. -/
def date (t : Instant) : Date := Date.ofEpochDays (t.seconds / 86400)

/-- The time of day in UTC. -/
def clock (t : Instant) : Clock :=
  let inDay := (t.seconds % 86400).toNat
  { hour := inDay / 3600
    minute := inDay / 60 % 60
    second := inDay % 60 + t.nanos / nanosPerSecond
    nanos := t.nanos % nanosPerSecond }

end Instant

end RecordQuery
