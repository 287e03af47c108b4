import RecordQuery.Proofs.TimestampWriting
import RecordQuery.Value

/-!
Values that are written and read again. A value is read as its kind from the text that shows it, whole
numbers up to the limits of 64 bits, and instants to the nanosecond and in leap seconds
(`Value.read?_kind_toText`). Instants outside the years from 0 to 9999 are lost: they are shown with a sign in
front of the year. And an instant with a full second of nanoseconds, if it is not at the end of a minute, is
shown like the next second and read as that one.
-/

namespace RecordQuery

open Text

/-- No blanks stand in a timestamp, so that nothing is trimmed off it. -/
theorem Instant.trim_toText (mark : UtcMark) (t : Instant) : trim (t.toText mark) = t.toText mark := by
  have padded (width n : Nat) : ∀ c ∈ padded width n, isBlank c = false :=
    fun c mem => isBlank_of_isDigit (isDigit_of_mem_padded mem)
  have year (y : Int) : ∀ c ∈ Rfc3339.yearText y, isBlank c = false := by
    unfold Rfc3339.yearText
    split_ifs
    · exact padded _ _
    · exact List.forall_mem_cons.2 ⟨rfl, padded _ _⟩
    · exact List.forall_mem_cons.2 ⟨rfl, padded _ _⟩
  have fraction (nanos : Nat) : ∀ c ∈ Rfc3339.fractionText nanos, isBlank c = false := by
    unfold Rfc3339.fractionText
    split_ifs
    · exact fun _ mem => absurd mem List.not_mem_nil
    all_goals exact List.forall_mem_cons.2 ⟨rfl, padded _ _⟩
  have utc : ∀ c ∈ mark.text, isBlank c = false := by
    have all : mark.text.all (!isBlank ·) = true := by cases mark <;> rfl
    intro c mem
    rw [← Bool.not_eq_true']
    exact List.all_eq_true.1 all c mem
  apply trim_of_solid
  rw [Rfc3339.toText_eq, Rfc3339.dateText_append, Rfc3339.clockText_append]
  simp only [List.forall_mem_append, List.forall_mem_cons]
  exact ⟨year _, rfl, padded _ _, rfl, padded _ _, rfl, padded _ _, rfl, padded _ _, rfl, padded _ _,
    fraction _, utc⟩

namespace Value

/-- A value is read from the text that shows it. Of instants this holds if the year has no sign there and a
clock can show the instant; other instants of these years are read as the next second. -/
theorem read?_kind_toText (v : Value) :
    v.kind.read? v.toText =
      match v with
      | .instant t =>
        if ¬ (0 ≤ t.date.year ∧ t.date.year ≤ 9999) then none
        else if t.OnClock then some v
        else some (.instant t.asRead)
      | _ => some v := by
  cases v with
  | int n =>
    obtain ⟨read, solid⟩ := readInt?_toString n.toInt
    change (readInt? (trim (toString n.toInt).toList)).bind ofInt? = some (.int n)
    rw [trim_of_solid solid, read, Option.bind_some]
    exact ofInt?_eq_some_iff.2 ⟨n, rfl, rfl⟩
  | text s => rfl
  | rfc3339 s => rfl
  | instant t =>
    change (Rfc3339.read? (trim (String.ofList (t.toText .offset)).toList)).map Value.instant = _
    rw [String.toList_ofList, t.trim_toText, Rfc3339.read?_toText]
    dsimp only
    rw [ite_not]
    by_cases plain : 0 ≤ t.date.year ∧ t.date.year ≤ 9999
    · rw [if_pos plain, if_pos plain, Option.map_some]
      split
      case isTrue onClock => rw [Instant.asRead_of_onClock onClock]
      case isFalse => rfl
    · rw [if_neg plain, if_neg plain, Option.map_none]

/-- A second and a half after the second 10 is shown, and read, as half a second after the second 11. -/
theorem exists_instant_read_as_next_second :
    let t : Instant := ⟨10, 1500000000, by decide⟩
    (0 ≤ t.date.year ∧ t.date.year ≤ 9999) ∧
      (Value.instant t).toText = "1970-01-01T00:00:11.500+00:00" ∧
      (Value.instant t).kind.read? (Value.instant t).toText =
        some (.instant ⟨11, 500000000, by decide⟩) ∧
      (Value.instant t).kind.read? (Value.instant t).toText ≠ some (.instant t) := by
  decide +kernel

/-- The last nanosecond of a leap second is read again, and the smallest number of 64 bits. -/
example :
    Kind.instant.read? "2016-12-31T23:59:60.999999999+00:00" =
      some (.instant ⟨1483228799, 1999999999, by decide⟩) ∧
    Kind.int.read? "-9223372036854775808" = some (.int Int64.minValue) := by
  decide +kernel

end Value

end RecordQuery
