import RecordQuery.Query.Matcher
import RecordQuery.Query.Page
import RecordQuery.Query.Sorting

/-!
Queries: a filter, a sorting and a page, each of which may be left out.
-/

namespace RecordQuery

/-- The value of a record's field, if the record has the field. -/
abbrev Accessor (ρ : Type u) := ρ → String → Option Value

/-- Which records are wanted, in which order, and which part of them. -/
structure Query where
  filter : Filter := .empty
  sorting : Sorting := .empty
  page : Option Page := none
  deriving DecidableEq

namespace Query

/-- Every record in its place. -/
def all : Query := {}

/-- The first page of all records. -/
def firstPage : Query := { page := some .first }

/-- Adds a predicate. -/
def filterBy (q : Query) (field : String) (value : Value) : Query :=
  { q with filter := q.filter.push { field, value } }

/-- Adds a sort key. -/
def orderBy (q : Query) (field : String) (direction : Direction) : Query :=
  { q with sorting := q.sorting.push { field, direction } }

/-- Sets the page. -/
def onPage (q : Query) (page : Page) : Query := { q with page := some page }

/-- Whether the query asks for nothing in particular. -/
def isEmpty (q : Query) : Bool := q.filter.isEmpty && q.sorting.isEmpty && q.page.isNone

variable {ρ : Type u}

/-- Whether a record passes the filter. -/
def accepts (q : Query) (access : Accessor ρ) (record : ρ) : Bool :=
  q.filter.matcher.accepts (access record)

/-- How many records pass the filter. -/
def count (q : Query) (access : Accessor ρ) (records : List ρ) : Nat :=
  let matcher := q.filter.matcher
  records.countP fun record => matcher.accepts (access record)

end Query

end RecordQuery
