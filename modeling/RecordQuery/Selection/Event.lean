import RecordQuery.Query.Page
import RecordQuery.Query.Sorting

/-!
What a selection reports about its run. Events are values, gathered in order; `Event.toEntry`
gives an event the form of a log entry.
-/

namespace RecordQuery

/-- Why records were left in their order. -/
inductive SortObstacle
  /-- A record does not have the field. -/
  | absent (field : String)
  /-- The field has values of two kinds. -/
  | mixedKinds (field : String)
  deriving DecidableEq

/-- What happened in a stage of a selection. -/
inductive Event
  /-- A needle, in lower case, was too large to be prepared. -/
  | oversizedNeedle (needle : String)
  | filtered (before after : Nat)
  | sorted (records : Nat) (sorting : Sorting)
  | leftUnsorted (obstacle : SortObstacle)
  | paginated (page : Page) (returned : Nat)
  deriving DecidableEq

inductive LogLevel
  | trace
  | debug
  deriving DecidableEq

def LogLevel.name : LogLevel → String
  | .trace => "TRACE"
  | .debug => "DEBUG"

/-- An entry of a log, with named details. -/
structure LogEntry where
  level : LogLevel
  message : String
  details : List (String × String)
  deriving DecidableEq

/-- The log entry of an event. -/
def Event.toEntry : Event → LogEntry
  | .oversizedNeedle needle =>
    { level := .debug
      message := "wildcard pattern failed to compile; it matches nothing"
      details := [("pattern", needle),
        ("error", "Compiled regex exceeds size limit of " ++ toString Pattern.sizeLimit ++
          " bytes.")] }
  | .filtered before after =>
    { level := .trace
      message := "filtered records"
      details := [("before", toString before), ("after", toString after)] }
  | .sorted records sorting =>
    { level := .trace
      message := "sorted records"
      details := [("records", toString records), ("sort", sorting.toText)] }
  | .leftUnsorted (.absent field) =>
    { level := .debug
      message := "sort skipped: field absent on a record"
      details := [("field", field)] }
  | .leftUnsorted (.mixedKinds field) =>
    { level := .debug
      message := "sort skipped: field has mixed kinds"
      details := [("field", field)] }
  | .paginated page returned =>
    { level := .trace
      message := "paginated records"
      details := [("page_size", toString page.size), ("offset", toString page.offset),
        ("returned", toString returned)] }

end RecordQuery
