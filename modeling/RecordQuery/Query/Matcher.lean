import RecordQuery.Query.Filter

/-!
Filters made ready for many records. Text needles are prepared as patterns once each, in a table
that the predicates share. A text needle is matched as a pattern with text fields; with any other
field it is read as a value of the field's kind.
-/

namespace RecordQuery

/-- The patterns of distinct text needles, in the order in which the needles came up. -/
structure PatternTable where
  entries : List (String × Pattern)

namespace PatternTable

/-- No needles. -/
def empty : PatternTable := ⟨[]⟩

/-- The pattern of a needle, taken from the table or prepared and put at its end. -/
def prepare (table : PatternTable) (needle : String) : PatternTable × Pattern :=
  match table.entries.lookup needle with
  | some pattern => (table, pattern)
  | none =>
    let pattern := Pattern.compile needle
    (⟨table.entries ++ [(needle, pattern)]⟩, pattern)

/-- The needles, in lower case, that are too large to match anything. -/
def oversized (table : PatternTable) : List String :=
  (table.entries.filter (·.2 == .oversized)).map fun (needle, _) =>
    String.ofList (Text.lower needle.toList)

end PatternTable

/-- What a predicate asks a field to contain, made ready. -/
inductive Needle
  /-- A text, with its pattern. -/
  | text (raw : String) (pattern : Pattern)
  /-- A value of another kind. -/
  | typed (value : Value)

namespace Needle

/-- Makes a needle ready with the patterns of a table. -/
def prepare (table : PatternTable) : Value → PatternTable × Needle
  | .text raw =>
    let (table, pattern) := table.prepare raw
    (table, .text raw pattern)
  | value => (table, .typed value)

/-- Whether a field's value contains the needle. -/
def accepts : Needle → Value → Bool
  | .text _ pattern, .text haystack => pattern.accepts haystack
  | .text raw _, value => (value.kind.read? raw).any value.contains
  | .typed needle, value => value.contains needle

end Needle

/-- A filter made ready: a needle for each field to look at, and the patterns prepared for them. -/
structure Matcher where
  needles : List (String × Needle)
  patterns : PatternTable

namespace Matcher

/-- Makes predicates ready one after the other. -/
def prepareAll (table : PatternTable) : List Predicate → PatternTable × List (String × Needle)
  | [] => (table, [])
  | p :: ps =>
    let (table, needle) := Needle.prepare table p.value
    let (table, needles) := prepareAll table ps
    (table, (p.field, needle) :: needles)

/-- Whether a record, given by its fields, is kept. A predicate on a field that the record does not
have does not hold. -/
def accepts (m : Matcher) (field : String → Option Value) : Bool :=
  m.needles.isEmpty ||
    m.needles.any fun (name, needle) => (field name).any needle.accepts

end Matcher

/-- Makes a filter ready. -/
def Filter.matcher (f : Filter) : Matcher :=
  let (patterns, needles) := Matcher.prepareAll .empty f.predicates
  { needles, patterns }

end RecordQuery
