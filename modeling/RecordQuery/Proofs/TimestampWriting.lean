import RecordQuery.Proofs.Calendar
import RecordQuery.Proofs.Reading
import RecordQuery.Time.Lenient

/-!
Timestamps that are written and read again. An instant is written with its date, its time of day and a mark
for UTC, and readers take these parts in turn. What they read is the instant, if a clock can show it, and else
the next second (`Instant.asRead`).

The fixed form has four digits of year. It is read again for the years from 0 to 9999, and for no other
year, since those start with a sign (`Rfc3339.read?_toText`). The free form is read again for all instants
(`Lenient.read?_toText`).
-/

namespace RecordQuery

open Text Text.Reader

variable {rest : List Char} {c : Char}

namespace Rfc3339

/-! ## Parts -/

theorem takes_dateOfFields (d : Date) (rest : List Char) :
    Takes (dateOfFields d.year d.month d.day) rest d rest := by
  change (Date.ofFields? d.year d.month d.day).map (fun date => (date, rest)) = some (d, rest)
  rw [Date.ofFields?, dif_pos d.valid]
  rfl

theorem takes_instantOfLocal (t : Instant) (rest : List Char) :
    Takes (instantOfLocal t.date t.clock 0) rest t.asRead rest := by
  change (Instant.ofLocal? t.date t.clock 0).map (fun t => (t, rest)) = some (t.asRead, rest)
  rw [t.ofLocal?_date_clock]
  rfl

theorem takes_dateEnd (rest : List Char) : Takes dateEnd ('T' :: rest) () rest := by
  have mark : Takes (satisfying fun c => c == 'T' || c == 't' || c == ' ') ('T' :: rest) 'T' rest :=
    takes_satisfying rfl rest
  exact mark.bind (takes_pure () rest)

/-- Digits of a fraction stand for as many nanoseconds as they would with zeros up to the ninth. -/
theorem nanosOfDigits_padded {k n : Nat} (pos : 0 < k) (most : k ≤ 9) (fits : n < 10 ^ k) :
    nanosOfDigits (padded k n) = 10 ^ (9 - k) * n := by
  have length : (padded k n).length = k := length_padded pos fits
  rw [nanosOfDigits, List.take_append, length, List.take_of_length_le (length.trans_le most),
    List.take_replicate, Nat.min_eq_left (Nat.sub_le 9 k), Nat.ofDigitChars_append,
    ofDigitChars_padded, Nat.ofDigitChars_replicate_zero]

theorem takes_fraction_digits {k n : Nat} (pos : 0 < k) (most : k ≤ 9) (fits : n < 10 ^ k)
    (noDigit : c.isDigit = false) (rest : List Char) :
    Takes fraction ('.' :: padded k n ++ c :: rest) (10 ^ (9 - k) * n) (c :: rest) := by
  refine (takes_has '.' _).bind ((takes_digits noDigit k n rest).bind ?_)
  rw [nanosOfDigits_padded pos most fits]
  exact takes_pure _ _

/-- Three digits or six leave out nothing but zeros. -/
theorem takes_fraction {nanos : Nat} (fits : nanos < Instant.nanosPerSecond) (noDot : c ≠ '.')
    (noDigit : c.isDigit = false) (rest : List Char) :
    Takes fraction (fractionText nanos ++ c :: rest) nanos (c :: rest) := by
  change nanos < 1000000000 at fits
  unfold fractionText
  split_ifs with zero millis micros
  · subst zero
    exact (takes_has_other noDot rest).bind (takes_pure 0 _)
  · have takes := takes_fraction_digits (n := nanos / 1000000) (k := 3) (by decide) (by decide)
      (by omega) noDigit rest
    rwa [show 10 ^ (9 - 3) * (nanos / 1000000) = nanos by omega] at takes
  · have takes := takes_fraction_digits (n := nanos / 1000) (k := 6) (by decide) (by decide)
      (by omega) noDigit rest
    rwa [show 10 ^ (9 - 6) * (nanos / 1000) = nanos by omega] at takes
  · have takes := takes_fraction_digits (n := nanos) (k := 9) (by decide) (by decide)
      fits noDigit rest
    rwa [show 10 ^ (9 - 9) * nanos = nanos by omega] at takes

theorem takes_offset_letter (separation : Reader Unit) (rest : List Char) :
    Takes (offset separation) ('Z' :: rest) 0 rest := by
  have mark : Takes (satisfying fun c => c == 'Z' || c == 'z' || c == '+' || c == '-' || c == '\u2212')
      ('Z' :: rest) 'Z' rest := takes_satisfying rfl rest
  exact mark.bind (takes_pure 0 rest)

theorem takes_offset_zero {separation : Reader Unit}
    (separates : ∀ s, Takes separation (':' :: s) () s) (rest : List Char) :
    Takes (offset separation) ('+' :: '0' :: '0' :: ':' :: '0' :: '0' :: rest) 0 rest := by
  have mark (s : List Char) :
      Takes (satisfying fun c => c == 'Z' || c == 'z' || c == '+' || c == '-' || c == '\u2212')
      ('+' :: s) '+' s := takes_satisfying rfl s
  have zeros (s : List Char) : Takes (number 2 2) ('0' :: '0' :: s) 0 s := rfl
  exact (mark _).bind ((zeros _).bind ((separates _).bind ((zeros _).bind (takes_pure 0 rest))))

/-! ## The fixed form -/

theorem dateText_append (d : Date) (rest : List Char) :
    dateText d ++ rest =
      yearText d.year ++ '-' :: (padded 2 d.month ++ '-' :: (padded 2 d.day ++ rest)) := by
  simp only [dateText, List.append_assoc, List.cons_append]

theorem clockText_append (t : Instant.Clock) (rest : List Char) :
    clockText t ++ rest = padded 2 t.hour ++ ':' :: (padded 2 t.minute ++
      ':' :: (padded 2 t.second ++ (fractionText t.nanos ++ rest))) := by
  simp only [clockText, List.append_assoc, List.cons_append]

theorem toText_eq (mark : UtcMark) (t : Instant) :
    t.toText mark = dateText t.date ++ 'T' :: (clockText t.clock ++ mark.text) := by
  simp only [Instant.toText, List.append_assoc, List.cons_append]

/-- Months, days and the parts of a time of day have two digits. -/
theorem month_day_lt (d : Date) : d.month < 10 ^ 2 ∧ d.day < 10 ^ 2 := by
  obtain ⟨-, month, -, day⟩ := d.valid
  have most : Date.daysIn d.year d.month ≤ 31 := by
    unfold Date.daysIn
    split_ifs <;> decide
  omega

theorem takes_fixedDate {d : Date} (first : 0 ≤ d.year) (last : d.year ≤ 9999) (rest : List Char) :
    Takes fixedDate (dateText d ++ rest) d rest := by
  obtain ⟨month, day⟩ := month_day_lt d
  have yearIsNat : (d.year.toNat : Int) = d.year := Int.toNat_of_nonneg first
  have year (s : List Char) : Takes (number 4 4) (yearText d.year ++ s) d.year.toNat s := by
    rw [yearText, if_pos ⟨first, last⟩]
    exact takes_number (Nat.le_refl 4) (by decide) (by omega) s
  rw [dateText_append]
  refine (year _).bind ((takes_char '-' _).bind ?_)
  refine (takes_two month _).bind ((takes_char '-' _).bind ((takes_two day _).bind ?_))
  rw [yearIsNat]
  exact takes_dateOfFields d rest

theorem takes_fixedClock (t : Instant) (noDot : c ≠ '.') (noDigit : c.isDigit = false)
    (rest : List Char) : Takes fixedClock (clockText t.clock ++ c :: rest) t.clock (c :: rest) := by
  obtain ⟨hour, minute, second, nanos⟩ := t.clock_bounds
  rw [clockText_append]
  refine (takes_two (by omega) _).bind ((takes_char ':' _).bind ?_)
  refine (takes_two (by omega) _).bind ((takes_char ':' _).bind ?_)
  refine (takes_two (by omega) _).bind ((takes_fraction nanos noDot noDigit rest).bind ?_)
  exact takes_pure t.clock (c :: rest)

/-- The timestamp of an instant of a year from 0 to 9999 is read. -/
theorem read?_toText_of_year {t : Instant} (first : 0 ≤ t.date.year) (last : t.date.year ≤ 9999) :
    read? (t.toText .offset) = some t.asRead := by
  have separates (s : List Char) : Takes (char ':') (':' :: s) () s := takes_char ':' s
  apply Takes.readAll?
  rw [toText_eq]
  refine (takes_fixedDate first last _).bind ((takes_dateEnd _).bind ?_)
  refine (takes_fixedClock t (by decide) (by decide) _).bind ?_
  exact (takes_offset_zero separates []).bind (takes_instantOfLocal t [])

/-- Other years start with a sign, which is not a digit. -/
theorem read?_toText_of_signed {t : Instant} (signed : ¬ (0 ≤ t.date.year ∧ t.date.year ≤ 9999)) :
    read? (t.toText .offset) = none := by
  have noYear (s : List Char) : (number 4 4).run (yearText t.date.year ++ s) = none := by
    rw [yearText, if_neg signed]
    split <;> rfl
  have noDate (s : List Char) : fixedDate.run (dateText t.date ++ s) = none := by
    rw [dateText_append]
    exact run_bind_of_fails (noYear _)
  have noTimestamp : timestamp.run (t.toText .offset) = none := by
    rw [toText_eq]
    exact run_bind_of_fails (noDate _)
  rw [read?, readAll?, noTimestamp]

/-- The fixed form of an instant is read exactly if its year has four digits and no sign. -/
theorem read?_toText (t : Instant) :
    read? (t.toText .offset) =
      if 0 ≤ t.date.year ∧ t.date.year ≤ 9999 then some t.asRead else none := by
  split
  case isTrue plain => exact read?_toText_of_year plain.1 plain.2
  case isFalse signed => exact read?_toText_of_signed signed

end Rfc3339

/-! ## The free form -/

namespace Lenient

open Rfc3339

theorem takes_part {n : Nat} (fits : n < 10 ^ 2) (rest : List Char) :
    Takes part (padded 2 n ++ rest) n rest := by
  have number : Takes (number 1 2) (padded 2 n ++ rest) n rest :=
    takes_number (by decide) (by decide) fits rest
  exact (takes_blanks_padded 2 n rest).bind number

theorem takes_mark (solid : isBlank c = false) (rest : List Char) :
    Takes (mark c) (c :: rest) () rest :=
  (takes_skipWhile solid rest).bind (takes_char c rest)

/-- A year in plain digits is one of at most four, and one behind a sign goes on to the dash. -/
theorem takes_year (y : Int) (rest : List Char) :
    Takes year (yearText y ++ '-' :: rest) y ('-' :: rest) := by
  unfold yearText
  split_ifs with plain negative
  · obtain ⟨first, last⟩ := plain
    have isNat : (y.toNat : Int) = y := Int.toNat_of_nonneg first
    refine (takes_blanks_padded 4 y.toNat _).bind ?_
    refine (takes_has_padded rfl 4 y.toNat _).bind ((takes_has_padded rfl 4 y.toNat _).bind ?_)
    refine (takes_number (by decide) (by decide) (by omega) _).bind ?_
    rw [isNat]
    exact takes_pure y _
  · have isNegative : -(y.natAbs : Int) = y := by omega
    refine (takes_skipWhile rfl _).bind ((takes_has '-' _).bind ?_)
    refine (takes_digits rfl 4 y.natAbs rest).bind ?_
    rw [ofDigitChars_padded, isNegative]
    exact takes_pure y _
  · have isPositive : (y.natAbs : Int) = y := by omega
    refine (takes_skipWhile rfl _).bind ((takes_has_other (by decide) _).bind ?_)
    refine (takes_has '+' _).bind ((takes_digits rfl 4 y.natAbs rest).bind ?_)
    rw [ofDigitChars_padded, isPositive]
    exact takes_pure y _

theorem takes_date (d : Date) (rest : List Char) : Takes date (dateText d ++ rest) d rest := by
  obtain ⟨month, day⟩ := month_day_lt d
  rw [dateText_append]
  refine (takes_year d.year _).bind ((takes_mark rfl _).bind ?_)
  refine (takes_part month _).bind ((takes_mark rfl _).bind ((takes_part day _).bind ?_))
  exact takes_dateOfFields d rest

theorem takes_clock (t : Instant) (noDot : c ≠ '.') (noDigit : c.isDigit = false)
    (rest : List Char) : Takes clock (clockText t.clock ++ c :: rest) t.clock (c :: rest) := by
  obtain ⟨hour, minute, second, nanos⟩ := t.clock_bounds
  rw [clockText_append]
  refine (takes_part (by omega) _).bind ((takes_mark rfl _).bind ?_)
  refine (takes_part (by omega) _).bind ((takes_mark rfl _).bind ?_)
  refine (takes_part (by omega) _).bind ((takes_fraction nanos noDot noDigit rest).bind ?_)
  exact takes_pure t.clock (c :: rest)

theorem takes_zone : Takes zone ['Z'] 0 [] := by
  have noName : Takes utcName ['Z'] false ['Z'] := rfl
  exact noName.bind (takes_offset_letter _ [])

/-- The free form is read whatever the year. -/
theorem read?_toText (t : Instant) : read? (t.toText .letter) = some t.asRead := by
  have noBlank : Takes blanks ['Z'] () ['Z'] := takes_skipWhile rfl []
  have atEnd : Takes blanks [] () [] := rfl
  apply Takes.readAll?
  rw [toText_eq]
  refine (takes_date t.date _).bind ((takes_dateEnd _).bind ?_)
  refine (takes_clock t (by decide) (by decide) _).bind (noBlank.bind ?_)
  exact takes_zone.bind (atEnd.bind (takes_instantOfLocal t []))

end Lenient

end RecordQuery
