import RecordQuery.Time.Rfc3339

/-!
Timestamps as stored records write them. The form is that of RFC 3339 with more freedom: parts may
have fewer digits and blanks in front, a year with a sign may have any number of digits, and the
zone may be named UTC or leave out its colon.
-/

namespace RecordQuery.Lenient

open Text Text.Reader

/-- A part of one or two digits. -/
def part : Reader Nat := do
  blanks
  number 1 2

/-- A mark between two parts. -/
def mark (c : Char) : Reader Unit := do
  blanks
  char c

/-- A year: any number of digits after a sign, else at most four. -/
def year : Reader Int := do
  blanks
  if ← has '-' then
    return -(Nat.ofDigitChars 10 (← digits) 0 : Int)
  else if ← has '+' then
    return (Nat.ofDigitChars 10 (← digits) 0 : Int)
  else
    return (← number 1 4 : Int)

def date : Reader Date := do
  let y ← year
  mark '-'
  let month ← part
  mark '-'
  let day ← part
  Rfc3339.dateOfFields y month day

def clock : Reader Instant.Clock := do
  let hour ← part
  mark ':'
  let minute ← part
  mark ':'
  let second ← part
  let nanos ← Rfc3339.fraction
  return { hour, minute, second, nanos }

/-- Takes the name of UTC in any case if it comes next, and tells whether it did. -/
def utcName : Reader Bool := fun s =>
  if (s.take 3).map Char.toUpper = ['U', 'T', 'C'] then some (true, s.drop 3) else some (false, s)

/-- The zone: the name of UTC, or an offset with any colons and blanks between hours and minutes. -/
def zone : Reader Int := do
  if ← utcName then
    return 0
  else
    Rfc3339.offset (skipWhile fun c => c == ':' || isBlank c)

/-- A timestamp in the free form. -/
def timestamp : Reader Instant := do
  let d ← date
  Rfc3339.dateEnd
  let c ← clock
  blanks
  let ahead ← zone
  blanks
  Rfc3339.instantOfLocal d c ahead

/-- Reads a whole text as a timestamp in the free form. -/
def read? (s : List Char) : Option Instant := readAll? timestamp s

end RecordQuery.Lenient
