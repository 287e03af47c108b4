import RecordQuery.Listing.Request
import RecordQuery.Record.Layout
import RecordQuery.Selection.Basic

/-!
Answers to list requests: one page of the records that match, and how many match in all. The events
on the way are returned beside the answer.
-/

namespace RecordQuery

/-- One page of a list. -/
structure ListPage (ρ : Type u) where
  items : List ρ
  /-- The number of records that pass the filter, on any page. -/
  totalElements : Nat
  deriving DecidableEq

def ListPage.toWire {ρ : Type u} (itemToWire : ρ → Wire) (p : ListPage ρ) : Wire :=
  .object [("items", .array (p.items.map itemToWire)), ("totalElements", .integer p.totalElements)]

/-- What happened while a request was answered. -/
inductive ListEvent
  | rejected (reason : Rejection) (request : ListRequest)
  | stage (event : Event)
  | selected (records total returned : Nat)
  deriving DecidableEq

/-- The log entry of an event. -/
def ListEvent.toEntry : ListEvent → LogEntry
  | .rejected reason request =>
    { level := .debug
      message := "rejected list request"
      details := [("error", reason.message), ("request", request.toLogText)] }
  | .stage event => event.toEntry
  | .selected records total returned =>
    { level := .debug
      message := "selected list page"
      details := [("records", toString records), ("total_elements", toString total),
        ("returned", toString returned)] }

namespace ListRequest

variable {ρ : Type u} [Queryable ρ]

/-- The answer to a request, and the events on the way. -/
def answer (r : ListRequest) (options : ListOptions) (records : List ρ) :
    Except Rejection (ListPage ρ) × List ListEvent :=
  match r.toQuery options with
  | .error reason => (.error reason, [.rejected reason r])
  | .ok query =>
    let filtered := (Selection.ofRecords records).filter query Queryable.access
    let shown := (filtered.sort query Queryable.access).paginate query
    let page : ListPage ρ := { items := shown.records, totalElements := filtered.records.length }
    (.ok page, shown.events.map .stage ++
      [.selected records.length page.totalElements page.items.length])

/-- The page that a request selects. -/
def select (r : ListRequest) (options : ListOptions) (records : List ρ) :
    Except Rejection (ListPage ρ) :=
  (r.answer options records).1

/-- The events of answering a request. -/
def events (r : ListRequest) (options : ListOptions) (records : List ρ) : List ListEvent :=
  (r.answer options records).2

end ListRequest

end RecordQuery
