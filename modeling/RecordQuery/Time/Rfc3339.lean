import RecordQuery.Text.Decimal
import RecordQuery.Text.Reader
import RecordQuery.Time.Instant

/-!
Timestamps as RFC 3339 writes them: `2024-03-01T12:00:00.5+01:00`. `Rfc3339.read?` accepts exactly
the fixed form with four digits of year and two of everything else, without blanks;
`Instant.toText` writes an instant in UTC, with as few digits of its fraction as keep it exact.
-/

namespace RecordQuery

namespace Rfc3339

open Text Text.Reader

/-- Between the date and the time stands one of these characters. -/
def dateEnd : Reader Unit := do
  let _ ← satisfying fun c => c == 'T' || c == 't' || c == ' '

/-- The nanoseconds that the digits of a fraction stand for; those after the ninth are dropped. -/
def nanosOfDigits (ds : List Char) : Nat :=
  Nat.ofDigitChars 10 ((ds ++ List.replicate 9 '0').take 9) 0

/-- A fraction of a second, in nanoseconds; none is zero. -/
def fraction : Reader Nat := do
  if ← has '.' then
    return nanosOfDigits (← digits)
  else
    return 0

/-- How far a clock is ahead of UTC, in seconds: `Z`, or a sign, hours, the given separation and
minutes. -/
def offset (separation : Reader Unit) : Reader Int := do
  let mark ← satisfying fun c => c == 'Z' || c == 'z' || c == '+' || c == '-' || c == '\u2212'
  if mark == 'Z' || mark == 'z' then
    return 0
  else
    let hours ← number 2 2
    separation
    let minutes ← number 2 2
    if hours ≤ 23 ∧ minutes ≤ 59 then
      let seconds := hours * 3600 + minutes * 60
      return if mark == '+' then (seconds : Int) else -(seconds : Int)
    else
      failure

/-- The date of three numbers that were read. -/
def dateOfFields (year : Int) (month day : Nat) : Reader Date :=
  fun s => (Date.ofFields? year month day).map fun date => (date, s)

/-- The instant of a date, a time and an offset that were read. -/
def instantOfLocal (date : Date) (clock : Instant.Clock) (ahead : Int) : Reader Instant :=
  fun s => (Instant.ofLocal? date clock ahead).map fun t => (t, s)

/-- A date with four digits of year. -/
def fixedDate : Reader Date := do
  let year ← number 4 4
  char '-'
  let month ← number 2 2
  char '-'
  let day ← number 2 2
  dateOfFields year month day

/-- A time of day with two digits for each part. -/
def fixedClock : Reader Instant.Clock := do
  let hour ← number 2 2
  char ':'
  let minute ← number 2 2
  char ':'
  let second ← number 2 2
  let nanos ← fraction
  return { hour, minute, second, nanos }

/-- A timestamp in the fixed form. -/
def timestamp : Reader Instant := do
  let date ← fixedDate
  dateEnd
  let clock ← fixedClock
  let ahead ← offset (char ':')
  instantOfLocal date clock ahead

/-- Reads a whole text as a timestamp in the fixed form. -/
def read? (s : List Char) : Option Instant := readAll? timestamp s

/-- A year: four digits from 0 to 9999, and a sign and at least four digits outside. -/
def yearText (year : Int) : List Char :=
  if 0 ≤ year ∧ year ≤ 9999 then padded 4 year.toNat
  else (if year < 0 then '-' else '+') :: padded 4 year.natAbs

/-- A fraction of a second in 0, 3, 6 or 9 digits, the fewest that keep it exact. -/
def fractionText (nanos : Nat) : List Char :=
  if nanos = 0 then []
  else if nanos % 1000000 = 0 then '.' :: padded 3 (nanos / 1000000)
  else if nanos % 1000 = 0 then '.' :: padded 6 (nanos / 1000)
  else '.' :: padded 9 nanos

def dateText (d : Date) : List Char :=
  yearText d.year ++ '-' :: padded 2 d.month ++ '-' :: padded 2 d.day

def clockText (t : Instant.Clock) : List Char :=
  padded 2 t.hour ++ ':' :: padded 2 t.minute ++ ':' :: padded 2 t.second ++ fractionText t.nanos

end Rfc3339

/-- The two ways to mark a written instant as one in UTC. -/
inductive UtcMark
  /-- As an offset of no hours and no minutes. -/
  | offset
  /-- As the letter Z. -/
  | letter
  deriving DecidableEq

def UtcMark.text : UtcMark → List Char
  | .offset => ['+', '0', '0', ':', '0', '0']
  | .letter => ['Z']

/-- An instant as a timestamp in UTC. -/
def Instant.toText (mark : UtcMark) (t : Instant) : List Char :=
  Rfc3339.dateText t.date ++ 'T' :: Rfc3339.clockText t.clock ++ mark.text

end RecordQuery
