import RecordQuery.Proofs.FilterExpression

/-!
Filters that are written and read again. A field and a value are written with an equals sign between
them, and several such expressions with the separator between them (`Filter.written`). What is written
is read as it was meant, in quotes or without them (`Filter.ofText_written`), if trimming takes nothing
from fields and values, the first equals sign of each expression is the one behind the field, values
are on one line, and no separator is found but those between the expressions.

The last condition is about two expressions at a time: a separator that starts in an expression and
ends behind it has its first three characters in the expression, because it has no other overlap with
the separator that follows (`Filter.infix_or_suffix_of_infix_append`).

Quotes around any text that has none of its own change nothing, unless the text is empty
(`Filter.ofText_quoted_eq_iff`).
-/

namespace RecordQuery

namespace Filter

/-! ## Quotes -/

theorem unquoted_quoted (s : List Char) : unquoted ('"' :: (s ++ ['"'])) = s := by
  rw [unquoted, if_pos List.getLast?_concat, List.dropLast_concat]

/-- A text is in a pair of double quotes of its own. A lone quote is no pair. -/
def IsQuoted (s : List Char) : Prop :=
  2 ≤ s.length ∧ s.head? = some '"' ∧ s.getLast? = some '"'

instance (s : List Char) : Decidable (IsQuoted s) :=
  inferInstanceAs (Decidable (2 ≤ s.length ∧ _ ∧ _))

theorem unquoted_of_not_isQuoted {s : List Char} (bare : ¬ IsQuoted s) : unquoted s = s := by
  unfold unquoted
  split
  case h_1 s =>
    split
    case isTrue closed =>
      have inner : 0 < s.length := List.length_pos_of_mem (List.mem_of_getLast? closed)
      have last : ('"' :: s).getLast? = some '"' := by
        rw [List.getLast?_cons, closed]
        rfl
      exact absurd ⟨Nat.succ_le_succ inner, rfl, last⟩ bare
    case isFalse => rfl
  case h_2 => rfl

theorem unquoted_of_not_quoted {s : List Char}
    (bare : ¬ (s.head? = some '"' ∧ s.getLast? = some '"')) : unquoted s = s :=
  unquoted_of_not_isQuoted fun quoted => bare quoted.2

section Quotes

variable {s : String}

/-- In quotes, a text is cut into its expressions, of which there is always one. -/
theorem expressions_quoted (s : String) :
    expressions ("\"" ++ s ++ "\"") = Text.splitAround separator s.toList separator_ne_nil := by
  have characters : ("\"" ++ s ++ "\"").toList = '"' :: (s.toList ++ ['"']) := by
    rw [String.toList_append, String.toList_append]
    rfl
  have someText : ¬ ("\"" ++ s ++ "\"").isEmpty = true := by
    intro empty
    rw [String.isEmpty_iff.1 empty] at characters
    cases characters
  rw [expressions, if_neg someText]
  simp only [characters, unquoted_quoted]

theorem expressions_of_not_isQuoted (bare : ¬ IsQuoted s.toList) (someText : s ≠ "") :
    expressions s = Text.splitAround separator s.toList separator_ne_nil := by
  rw [expressions, if_neg (mt String.isEmpty_iff.1 someText)]
  simp only [unquoted_of_not_isQuoted bare]

theorem ofText_nothing_in_quotes :
    ofText ("\"" ++ "" ++ "\"") = .error (.filterExpression "") := by
  with_unfolding_all rfl

/-- A text that is not in quotes of its own is read in the same way with quotes around it, refused or not,
unless it is empty. Without quotes, the empty text is the filter that keeps all records; in quotes, it
is an expression without a field. -/
theorem ofText_quoted_eq_iff (bare : ¬ IsQuoted s.toList) :
    ofText ("\"" ++ s ++ "\"") = ofText s ↔ s ≠ "" := by
  constructor
  · rintro same rfl
    have accepted : ofText "" = .ok empty := rfl
    rw [ofText_nothing_in_quotes, accepted] at same
    cases same
  · intro someText
    rw [ofText_eq_mapM, ofText_eq_mapM, expressions_quoted, expressions_of_not_isQuoted bare someText]

/-- A quote at one end is part of the field, and a lone quote is no pair. -/
theorem ofText_quoted_eq_of_stray_quotes :
    (¬ IsQuoted "\"name=a".toList ∧
      ofText ("\"" ++ "\"name=a" ++ "\"") = ofText "\"name=a" ∧
      ofText "\"name=a" = .ok ⟨[⟨"\"name", .text "a"⟩]⟩) ∧
    (¬ IsQuoted "\"".toList ∧ ofText ("\"" ++ "\"" ++ "\"") = ofText "\"" ∧
      ofText "\"" = .error (.filterExpression "\"")) := by
  have stray : ¬ IsQuoted "\"name=a".toList := by decide
  have lone : ¬ IsQuoted "\"".toList := by decide
  refine ⟨⟨stray, (ofText_quoted_eq_iff stray).2 (by decide), ?_⟩,
    lone, (ofText_quoted_eq_iff lone).2 (by decide), ?_⟩
  · with_unfolding_all rfl
  · with_unfolding_all rfl

/-- The empty text is accepted, and the empty text in quotes is refused. -/
theorem ofText_quoted_empty_ne :
    ¬ IsQuoted "".toList ∧ ofText "" = .ok empty ∧
      ofText ("\"" ++ "" ++ "\"") = .error (.filterExpression "") :=
  ⟨by decide, rfl, ofText_nothing_in_quotes⟩

end Quotes

/-! ## Separators -/

/-- The separator without its last character. -/
def openSeparator : List Char := [' ', 'O', 'R']

/-- A separator that starts within an expression and ends at most one character before the end of the
separator behind it lies in the expression, or ends with the blank that this separator starts with. -/
theorem infix_or_suffix_of_infix_append {e : List Char}
    (found : separator <:+: e ++ separator.dropLast) : separator <:+: e ∨ openSeparator <:+ e := by
  rcases List.infix_append_iff_ne_nil.1 found with inside | behind |
      ⟨start, rest, startNonempty, restNonempty, split, atEnd, inNext⟩
  · exact .inl inside
  · exact absurd behind.length_le (by decide)
  -- Only the last character of a separator can be the first one of another.
  match start with
  | [] => exact absurd rfl startNonempty
  | [_] =>
    obtain ⟨-, rfl⟩ := List.cons.inj split
    exact absurd inNext (by decide)
  | [_, _] =>
    simp only [separator, List.cons_append, List.nil_append, List.cons.injEq] at split
    obtain ⟨-, -, rfl⟩ := split
    exact absurd inNext (by decide)
  | [_, _, _] =>
    simp only [separator, List.cons_append, List.nil_append, List.cons.injEq] at split
    obtain ⟨rfl, rfl, rfl, -⟩ := split
    exact .inr atEnd
  | _ :: _ :: _ :: _ :: start =>
    simp only [separator, List.cons_append, List.cons.injEq, List.nil_eq_append_iff] at split
    exact absurd split.2.2.2.2.2 restNonempty

/-! ## Writing -/

/-- A field and a value with an equals sign between them. -/
def expression (pair : String × String) : String := pair.1 ++ "=" ++ pair.2

/-- The expressions of fields and values, with the separator between them. -/
def written (pairs : List (String × String)) : String :=
  (String.ofList separator).intercalate (pairs.map expression)

/-- Trimming leaves a field and a value as they are, neither of them empty; the equals sign between
them is the first one; the value is on one line; and no separator is found in their expression. -/
structure IsPlain (pair : String × String) : Prop where
  field_ne_empty : pair.1 ≠ ""
  field_trimmed : Text.trim pair.1.toList = pair.1.toList
  field_no_equals : '=' ∉ pair.1.toList
  value_ne_empty : pair.2 ≠ ""
  value_trimmed : Text.trim pair.2.toList = pair.2.toList
  value_single : '\n' ∉ pair.2.toList
  unseparated : ¬ separator <:+: (expression pair).toList

section Writing

variable {pair : String × String} {pairs : List (String × String)}

theorem toList_expression (pair : String × String) :
    (expression pair).toList = pair.1.toList ++ '=' :: pair.2.toList := by
  simp [expression]

theorem toList_written (pairs : List (String × String)) :
    (written pairs).toList =
      separator.intercalate (pairs.map fun pair => (expression pair).toList) := by
  rw [written, String.toList_intercalate, String.toList_ofList, List.map_map]
  rfl

theorem ofExpression_expression (plain : IsPlain pair) :
    Predicate.ofExpression (expression pair).toList = .ok ⟨pair.1, .text pair.2⟩ := by
  have fieldNonempty : pair.1.toList ≠ [] := mt String.toList_eq_nil_iff.1 plain.field_ne_empty
  have line := Predicate.lineOf_of_single plain.value_single
  have someLine : Predicate.lineOf pair.2.toList ≠ [] := by
    rw [line]
    exact mt String.toList_eq_nil_iff.1 plain.value_ne_empty
  rw [toList_expression,
    Predicate.ofExpression_of_field plain.field_no_equals fieldNonempty someLine, line,
    Predicate.ofCut, plain.field_trimmed, plain.value_trimmed, String.ofList_toList,
    String.ofList_toList]

/-- The pieces of what is written are the expressions that were written. -/
theorem splitAround_written (nonempty : pairs ≠ []) (plain : ∀ pair ∈ pairs, IsPlain pair)
    (closed : ∀ pair ∈ pairs.dropLast, ¬ openSeparator <:+ (expression pair).toList) :
    Text.splitAround separator (written pairs).toList separator_ne_nil =
      pairs.map fun pair => (expression pair).toList := by
  rw [toList_written]
  apply Text.splitAround_intercalate
  · exact mt List.map_eq_nil_iff.1 nonempty
  · rw [List.forall_mem_map]
    exact fun pair mem => (plain pair mem).unseparated
  · rw [← List.map_dropLast, List.forall_mem_map]
    intro pair mem found
    rcases infix_or_suffix_of_infix_append found with inside | atEnd
    · exact (plain pair (List.mem_of_mem_dropLast mem)).unseparated inside
    · exact closed pair mem atEnd

theorem written_ne_empty (nonempty : pairs ≠ []) : written pairs ≠ "" := by
  intro nothing
  obtain ⟨pair, rest, rfl⟩ := List.exists_cons_of_ne_nil nonempty
  have text := toList_written (pair :: rest)
  rw [nothing, List.map_cons, toList_expression] at text
  cases rest with
  | nil =>
    rw [List.map_nil, List.intercalate_singleton] at text
    exact List.append_ne_nil_of_right_ne_nil _ (List.cons_ne_nil _ _) text.symm
  | cons next rest =>
    rw [List.map_cons, List.intercalate_cons_cons, List.append_assoc] at text
    exact List.append_ne_nil_of_left_ne_nil
      (List.append_ne_nil_of_right_ne_nil _ (List.cons_ne_nil _ _)) _ text.symm

/-- A text that is a written filter without its quotes is read as this filter. -/
theorem ofText_of_unquoted_eq_written {s : String} (nonempty : pairs ≠ [])
    (plain : ∀ pair ∈ pairs, IsPlain pair)
    (closed : ∀ pair ∈ pairs.dropLast, ¬ openSeparator <:+ (expression pair).toList)
    (body : unquoted s.toList = (written pairs).toList) :
    ofText s = .ok ⟨pairs.map fun pair => ⟨pair.1, .text pair.2⟩⟩ := by
  have notEmpty : s.isEmpty ≠ true := by
    intro empty
    rw [String.isEmpty_iff.1 empty] at body
    exact written_ne_empty nonempty (String.toList_eq_nil_iff.1 body.symm)
  have pieces : expressions s = pairs.map fun pair => (expression pair).toList := by
    rw [expressions, if_neg notEmpty]
    simp only [body]
    exact splitAround_written nonempty plain closed
  have read : (pairs.map fun pair => (expression pair).toList).mapM Predicate.ofExpression =
      .ok (pairs.map fun pair => ⟨pair.1, .text pair.2⟩) := by
    rw [mapM_eq_ok_iff, List.forall₂_map_left_iff, List.forall₂_map_right_iff, List.forall₂_same]
    exact fun pair mem => ofExpression_expression (plain pair mem)
  rw [ofText_eq_mapM, pieces, read]
  rfl

/-- Fields and values that are written as a filter, in quotes, are read as the predicates that ask the
fields for these texts, in turn. Without the quotes they are read in the same way, unless the text
starts and ends with quotes of its own. -/
theorem ofText_written (nonempty : pairs ≠ []) (plain : ∀ pair ∈ pairs, IsPlain pair)
    (closed : ∀ pair ∈ pairs.dropLast, ¬ openSeparator <:+ (expression pair).toList) :
    let r := written pairs
    let f : Filter := ⟨pairs.map fun pair => ⟨pair.1, .text pair.2⟩⟩
    ofText ("\"" ++ r ++ "\"") = .ok f ∧
      (¬ (r.toList.head? = some '"' ∧ r.toList.getLast? = some '"') → ofText r = .ok f) := by
  intro r f
  have quoted : ("\"" ++ r ++ "\"").toList = '"' :: (r.toList ++ ['"']) := by
    rw [String.toList_append, String.toList_append]
    rfl
  constructor
  · apply ofText_of_unquoted_eq_written nonempty plain closed
    rw [quoted, unquoted_quoted]
  · intro bare
    exact ofText_of_unquoted_eq_written nonempty plain closed (unquoted_of_not_quoted bare)

/-- The first field is in quotes of its own, the first value has more equals signs, and the last one
ends like the start of a separator. -/
theorem ofText_written_of_quoted_field :
    let pairs := [("\"key\"", "= OR=\"a b\""), ("ORé", "b OR")]
    let f : Filter := ⟨[⟨"\"key\"", .text "= OR=\"a b\""⟩, ⟨"ORé", .text "b OR"⟩]⟩
    written pairs = "\"key\"== OR=\"a b\" OR ORé=b OR" ∧ pairs ≠ [] ∧
      (∀ pair ∈ pairs, IsPlain pair) ∧
      (∀ pair ∈ pairs.dropLast, ¬ openSeparator <:+ (expression pair).toList) ∧
      ofText ("\"" ++ written pairs ++ "\"") = .ok f ∧ ofText (written pairs) = .ok f := by
  intro pairs f
  have nonempty : pairs ≠ [] := List.cons_ne_nil _ _
  have plain : ∀ pair ∈ pairs, IsPlain pair := by
    refine List.forall_mem_cons.2 ⟨?_, List.forall_mem_singleton.2 ?_⟩ <;>
      constructor <;> decide +kernel
  have closed : ∀ pair ∈ pairs.dropLast, ¬ openSeparator <:+ (expression pair).toList := by
    decide +kernel
  obtain ⟨quoted, bare⟩ := ofText_written nonempty plain closed
  exact ⟨by decide +kernel, nonempty, plain, closed, quoted, bare (by decide +kernel)⟩

end Writing

end Filter

end RecordQuery
