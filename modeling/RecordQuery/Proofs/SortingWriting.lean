import RecordQuery.Proofs.Blanks
import RecordQuery.Proofs.Results
import RecordQuery.Query.SortingText

/-!
Sortings that are written and read again. A sorting is read from what it is written as exactly if each
of its fields can be named in an order parameter, that is, has characters and among them neither a
comma nor a blank; and only such fields are ever read (`Sorting.ofText_toText_iff`).

A key is written as two words. Commas end a segment and blanks end a word, so a field with neither is
the first word of its own segment, whatever stands around it (`SortKey.ofSegment_eq_ok_iff`).
-/

namespace RecordQuery

/-- An order parameter can name the field. -/
def Nameable (field : String) : Prop :=
  field ≠ "" ∧ ∀ c ∈ field.toList, c ≠ ',' ∧ Text.isBlank c = false

/-! ## Keys -/

namespace SortKey

variable {segment : List Char} {key : SortKey}

/-- A segment is read as a key if it has a word for the field, and none or one for the direction. -/
theorem ofSegment_eq_ok_iff :
    ofSegment segment = .ok key ↔
      Text.words segment = [key.field.toList] ∧ key.direction = .ascending ∨
      ∃ word, Text.words segment = [key.field.toList, word] ∧
        Direction.ofWord? (String.ofList (Text.lower word)) = some key.direction := by
  constructor
  · intro ok
    unfold ofSegment at ok
    split at ok
    case h_1 field words =>
      cases ok
      exact .inl ⟨by rw [words, String.toList_ofList], rfl⟩
    case h_2 field word words =>
      split at ok
      case h_1 direction found =>
        cases ok
        exact .inr ⟨word, by rw [words, String.toList_ofList], found⟩
      case h_2 => cases ok
    case h_3 => cases ok
  · obtain ⟨field, direction⟩ := key
    unfold ofSegment
    rintro (⟨words, rfl⟩ | ⟨word, words, found⟩)
    · simp only [words, String.ofList_toList]
    · simp only [words, found, String.ofList_toList]

theorem words_word (direction : Direction) :
    Text.words direction.word.toList = [direction.word.toList] := by
  cases direction <;> decide +kernel

theorem ofWord?_lower_word (direction : Direction) :
    Direction.ofWord? (String.ofList (Text.lower direction.word.toList)) = some direction := by
  cases direction <;> decide +kernel

theorem toList_toText (key : SortKey) :
    key.toText.toList = key.field.toList ++ ' ' :: key.direction.word.toList := by
  simp [toText]

theorem comma_not_mem_toText (nameable : Nameable key.field) : ',' ∉ key.toText.toList := by
  have inWord : ',' ∉ ' ' :: key.direction.word.toList := by
    cases key.direction <;> decide
  rw [toList_toText, List.mem_append]
  exact not_or_intro (fun inField => (nameable.2 ',' inField).1 rfl) inWord

/-- A key is read from its text, also with a blank in front. -/
theorem ofSegment_toText (nameable : Nameable key.field) :
    ofSegment key.toText.toList = .ok key ∧ ofSegment (' ' :: key.toText.toList) = .ok key := by
  have blank : Text.isBlank ' ' = true := by decide
  have fieldWord : Text.words key.field.toList = [key.field.toList] := by
    apply Text.words_eq_singleton (mt String.toList_eq_nil_iff.1 nameable.1)
    exact fun c mem => (nameable.2 c mem).2
  have twoWords : Text.words key.toText.toList =
      [key.field.toList, key.direction.word.toList] := by
    rw [toList_toText, Text.words_append_blank blank, fieldWord, words_word]
    rfl
  have direction := ofWord?_lower_word key.direction
  have sameWords := Text.words_blank_cons blank key.toText.toList
  constructor
  · exact ofSegment_eq_ok_iff.2 (.inr ⟨_, twoWords, direction⟩)
  · exact ofSegment_eq_ok_iff.2 (.inr ⟨_, sameWords.trans twoWords, direction⟩)

/-- What is read as a field is a word of the segment. -/
theorem nameable_of_ofSegment (ok : ofSegment segment = .ok key) (noComma : ',' ∉ segment) :
    Nameable key.field := by
  have mem : key.field.toList ∈ Text.words segment := by
    rcases ofSegment_eq_ok_iff.1 ok with ⟨words, -⟩ | ⟨word, words, -⟩
    · rw [words]
      exact List.mem_cons_self
    · rw [words]
      exact List.mem_cons_self
  obtain ⟨nonempty, solid⟩ := Text.mem_words mem
  refine ⟨mt String.toList_eq_nil_iff.2 nonempty, fun c memField => ?_⟩
  obtain ⟨memSegment, notBlank⟩ := solid c memField
  refine ⟨?_, notBlank⟩
  rintro rfl
  exact noComma memSegment

end SortKey

/-! ## Sortings -/

namespace Sorting

/-- Segments that are put together with a comma and a blank are split again at the commas, with the
blank in front of all but the first. -/
theorem splitOn_intercalate_comma {segment : List Char} {segments : List (List Char)}
    (noCommas : ∀ s ∈ segment :: segments, ',' ∉ s) :
    ([',', ' '].intercalate (segment :: segments)).splitOn ',' =
      segment :: segments.map (' ' :: ·) := by
  induction segments generalizing segment with
  | nil =>
    rw [List.intercalate_singleton]
    exact List.splitOn_eq_singleton (noCommas segment List.mem_cons_self)
  | cons next segments ih =>
    obtain ⟨noComma, noCommasRest⟩ := List.forall_mem_cons.1 noCommas
    rw [List.intercalate_cons_cons, List.append_assoc, List.cons_append, List.cons_append,
      List.nil_append, List.splitOn_append_cons_self_of_not_mem noComma,
      List.splitOn_cons_eq_if_modifyHead, ih noCommasRest]
    rfl

theorem toList_toText (sorting : Sorting) :
    sorting.toText.toList =
      [',', ' '].intercalate (sorting.keys.map fun key => key.toText.toList) := by
  rw [toText, String.toList_intercalate, List.map_map]
  rfl

theorem ofText_toText {sorting : Sorting} (nameable : ∀ key ∈ sorting.keys, Nameable key.field) :
    ofText sorting.toText = .ok sorting := by
  obtain ⟨keys⟩ := sorting
  cases keys with
  | nil => rfl
  | cons key keys =>
    obtain ⟨nameableFirst, nameableRest⟩ := List.forall_mem_cons.1 nameable
    have segments : (Sorting.mk (key :: keys)).toText.toList.splitOn ',' =
        key.toText.toList :: (keys.map fun key => key.toText.toList).map (' ' :: ·) := by
      rw [toList_toText, List.map_cons]
      apply splitOn_intercalate_comma
      refine List.forall_mem_cons.2 ⟨SortKey.comma_not_mem_toText nameableFirst, ?_⟩
      rw [List.forall_mem_map]
      exact fun key mem => SortKey.comma_not_mem_toText (nameableRest key mem)
    have read : (key.toText.toList :: (keys.map fun key => key.toText.toList).map (' ' :: ·)).mapM
        SortKey.ofSegment = .ok (key :: keys) := by
      rw [mapM_eq_ok_iff, List.map_map]
      refine .cons (SortKey.ofSegment_toText nameableFirst).1 ?_
      rw [List.forall₂_map_left_iff, List.forall₂_same]
      exact fun key mem => (SortKey.ofSegment_toText (nameableRest key mem)).2
    have notEmpty : (Sorting.mk (key :: keys)).toText.isEmpty ≠ true := by
      intro empty
      rw [String.isEmpty_iff.1 empty] at segments
      have nothing : key.toText.toList = [] := (List.cons.inj segments).1.symm
      rw [SortKey.toList_toText] at nothing
      exact List.append_ne_nil_of_right_ne_nil _ (List.cons_ne_nil _ _) nothing
    rw [ofText, if_neg notEmpty, segments, read]
    rfl

theorem nameable_of_ofText {s : String} {sorting : Sorting} (ok : ofText s = .ok sorting) :
    ∀ key ∈ sorting.keys, Nameable key.field := by
  intro key mem
  unfold ofText at ok
  split at ok
  case isTrue =>
    cases ok
    exact absurd mem List.not_mem_nil
  case isFalse =>
    cases read : (s.toList.splitOn ',').mapM SortKey.ofSegment with
    | error reason =>
      rw [read] at ok
      cases ok
    | ok keys =>
      rw [read] at ok
      cases ok
      obtain ⟨segment, memSegment, ofSegment⟩ := exists_of_mem_of_mapM_eq_ok read mem
      apply SortKey.nameable_of_ofSegment ofSegment
      intro comma
      rw [List.splitOn_eq_splitOnP] at memSegment
      have apart := (Text.mem_of_mem_splitOnP memSegment ',' comma).2
      cases apart

/-- A sorting is read from its text exactly if an order parameter can name each of its fields. This
holds of every sorting that is read from any text, so it is read again from what it is written as. -/
theorem ofText_toText_iff (sorting : Sorting) :
    (ofText sorting.toText = .ok sorting ↔ ∀ key ∈ sorting.keys, Nameable key.field) ∧
      ∀ s, ofText s = .ok sorting →
        (∀ key ∈ sorting.keys, Nameable key.field) ∧ ofText sorting.toText = .ok sorting := by
  refine ⟨⟨nameable_of_ofText, ofText_toText⟩, fun s ok => ?_⟩
  exact ⟨nameable_of_ofText ok, ofText_toText (nameable_of_ofText ok)⟩

/-- Blanks of any kind and letter case do not come back, but the keys do. A field without characters
does not: the word for its direction is read in its place. -/
theorem ofText_toText_of_names :
    let sorting : Sorting := ⟨[⟨"naïve", .descending⟩, ⟨"desc", .ascending⟩]⟩
    ofText "\u3000naïve\tDESC ,desc\n" = .ok sorting ∧
      (∀ key ∈ sorting.keys, Nameable key.field) ∧
      ofText "naïve desc, desc asc" = .ok sorting ∧
      ofText (Sorting.mk [⟨"", .descending⟩]).toText ≠ .ok ⟨[⟨"", .descending⟩]⟩ := by
  intro sorting
  have ok : ofText "\u3000naïve\tDESC ,desc\n" = .ok sorting := by decide +kernel
  obtain ⟨nameable, again⟩ := (ofText_toText_iff sorting).2 _ ok
  refine ⟨ok, nameable, again, fun read => ?_⟩
  have named := (ofText_toText_iff ⟨[⟨"", .descending⟩]⟩).1.1 read ⟨"", .descending⟩
    List.mem_cons_self
  exact named.1 rfl

end Sorting

end RecordQuery
