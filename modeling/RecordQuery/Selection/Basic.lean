import RecordQuery.Query.Basic
import RecordQuery.Selection.Event
import RecordQuery.Selection.StableSort

/-!
Selections: the records that are left while the stages of a query run over a list, and the events on
the way. Stages may run in any order; no stage fails. Sorting needs every key field on every record,
with one kind of value for each, and otherwise leaves the records as they are.
-/

namespace RecordQuery

/-- The values of a record under the fields to sort by, or the first field that it does not have. -/
def sortRow (keys : List SortKey) (field : String → Option Value) : Except String (List Value) :=
  keys.mapM fun key => (field key.field).elim (.error key.field) .ok

/-- The kind of the value at a place in a row. -/
def kindAt (row : List Value) (i : Nat) : Option Kind := row[i]?.map Value.kind

/-- The first key whose values do not all have the kind of the value in the first row. -/
def mixedKey? (keys : List SortKey) : List (List Value) → Option SortKey
  | [] => none
  | first :: rows =>
    let mixed (i : Nat) : Bool := rows.any fun row => kindAt row i != kindAt first i
    (keys.zipIdx.find? fun (_, i) => mixed i).map Prod.fst

/-- The stages of a selection. -/
inductive Stage
  | filter
  | sort
  | paginate
  /-- The other three in turn. -/
  | run
  deriving DecidableEq

/-- The records that are left of a list, and what happened so far. -/
structure Selection (ρ : Type u) where
  records : List ρ
  events : List Event := []

namespace Selection

variable {ρ : Type u}

/-- The selection of all records. -/
def ofRecords (records : List ρ) : Selection ρ := { records }

/-- The records of a selection with their sort values, unless something stands in the way. -/
def sortRows (keys : List SortKey) (access : Accessor ρ) (records : List ρ) :
    Except SortObstacle (List (List Value × ρ)) :=
  match records.mapM fun record => (sortRow keys (access record)).map (·, record) with
  | .error field => .error (.absent field)
  | .ok rows =>
    match mixedKey? keys (rows.map Prod.fst) with
    | some key => .error (.mixedKinds key.field)
    | none => .ok rows

/-- Keeps the records that pass the filter. -/
def filter (q : Query) (access : Accessor ρ) (s : Selection ρ) : Selection ρ :=
  if q.filter.isEmpty then s
  else
    let matcher := q.filter.matcher
    let records := s.records.filter fun record => matcher.accepts (access record)
    { records
      events := s.events ++ (matcher.patterns.oversized.map Event.oversizedNeedle ++
        [.filtered s.records.length records.length]) }

/-- Sorts the records by the keys, if there are any and there is something to sort. -/
def sort (q : Query) (access : Accessor ρ) (s : Selection ρ) : Selection ρ :=
  if q.sorting.isEmpty || s.records.length < 2 then s
  else
    match sortRows q.sorting.keys access s.records with
    | .error obstacle => { s with events := s.events ++ [.leftUnsorted obstacle] }
    | .ok rows =>
      let sorted := stableSort (fun a b => compareRows? q.sorting.keys a.1 b.1 == some .lt) rows
      { records := sorted.map Prod.snd
        events := s.events ++ [.sorted rows.length q.sorting] }

/-- Keeps the records on the page. -/
def paginate (q : Query) (s : Selection ρ) : Selection ρ :=
  match q.page with
  | none => s
  | some page =>
    let records := page.window s.records
    { records, events := s.events ++ [.paginated page records.length] }

/-- Filters, sorts and takes the page. -/
def run (q : Query) (access : Accessor ρ) (s : Selection ρ) : Selection ρ :=
  ((s.filter q access).sort q access).paginate q

/-- Runs a stage. -/
def apply (q : Query) (access : Accessor ρ) (s : Selection ρ) : Stage → Selection ρ
  | .filter => s.filter q access
  | .sort => s.sort q access
  | .paginate => s.paginate q
  | .run => s.run q access

/-- Runs stages one after the other. -/
def applyAll (q : Query) (access : Accessor ρ) (s : Selection ρ) (stages : List Stage) :
    Selection ρ :=
  stages.foldl (fun s stage => s.apply q access stage) s

end Selection

/-- The records that a query selects. -/
def Query.select {ρ : Type u} (q : Query) (access : Accessor ρ) (records : List ρ) : List ρ :=
  ((Selection.ofRecords records).run q access).records

end RecordQuery
