import RecordQuery.Query.FilterText
import RecordQuery.Query.SortingText
import RecordQuery.Query.Basic
import RecordQuery.Wire.Basic

/-!
Requests for a list of records, in the form in which clients send them, and the queries that they
stand for.
-/

namespace RecordQuery

/-- What a service sets for its lists. -/
structure ListOptions where
  /-- The page size for requests that do not give one. -/
  defaultPageSize : Int32 := 20
  deriving DecidableEq

namespace ListOptions

def toWire (o : ListOptions) : Wire := .object [("defaultPageSize", .ofInt32 o.defaultPageSize)]

def ofWire? (w : Wire) : Option ListOptions := do
  let member ← w.members? ["defaultPageSize"]
  return { defaultPageSize := ← Wire.memberOr? 20 Wire.int32? (member "defaultPageSize") }

end ListOptions

/-- A request for a list. -/
structure ListRequest where
  /-- The number of records on a page; zero stands for the service's default. -/
  pageSize : Int32 := 0
  offset : Int32 := 0
  orderBy : String := ""
  filter : String := ""
  deriving DecidableEq

namespace ListRequest

def toWire (r : ListRequest) : Wire :=
  .object [("pageSize", .ofInt32 r.pageSize), ("offset", .ofInt32 r.offset),
    ("orderBy", .text r.orderBy), ("filter", .text r.filter)]

def ofWire? (w : Wire) : Option ListRequest := do
  let member ← w.members? ["pageSize", "offset", "orderBy", "filter"]
  return {
    pageSize := ← Wire.memberOr? 0 Wire.int32? (member "pageSize")
    offset := ← Wire.memberOr? 0 Wire.int32? (member "offset")
    orderBy := ← Wire.memberOr? "" Wire.string? (member "orderBy")
    filter := ← Wire.memberOr? "" Wire.string? (member "filter") }

/-- The page that a request asks for. -/
def page (r : ListRequest) (options : ListOptions) : Page where
  size := (if r.pageSize = 0 then options.defaultPageSize else r.pageSize).toInt
  offset := r.offset.toInt

/-- The query of a request. The page is checked first, then the order is read, then the filter. -/
def toQuery (r : ListRequest) (options : ListOptions) : Except Rejection Query := do
  (r.page options).check
  let sorting ← Sorting.ofText r.orderBy
  let filter ← Filter.ofText r.filter
  return { filter, sorting, page := some (r.page options) }

/-- The request as log entries show it. -/
def toLogText (r : ListRequest) : String :=
  "ListRequest \x7b page_size: " ++ toString r.pageSize.toInt ++
    ", offset: " ++ toString r.offset.toInt ++
    ", order_by: " ++ Text.quote r.orderBy ++
    ", filter: " ++ Text.quote r.filter ++ " \x7d"

end ListRequest

end RecordQuery
