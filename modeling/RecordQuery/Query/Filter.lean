import RecordQuery.Value

/-!
Filters. A predicate asks that a field contain a value; a filter keeps the records for which at
least one of its predicates holds, and all records if it has none.
-/

namespace RecordQuery

/-- A field, and what it has to contain. -/
structure Predicate where
  field : String
  value : Value
  deriving DecidableEq

/-- Predicates of which one has to hold. -/
structure Filter where
  predicates : List Predicate
  deriving DecidableEq

namespace Filter

/-- No predicates: every record is kept. -/
def empty : Filter := ⟨[]⟩

def isEmpty (f : Filter) : Bool := f.predicates.isEmpty

def size (f : Filter) : Nat := f.predicates.length

/-- Adds a predicate behind the others. -/
def push (f : Filter) (p : Predicate) : Filter := ⟨f.predicates ++ [p]⟩

end Filter

end RecordQuery
