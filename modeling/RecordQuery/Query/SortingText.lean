import RecordQuery.Query.Rejection
import RecordQuery.Query.Sorting
import RecordQuery.Text.Blank

/-!
The text of an order parameter: segments between commas, each a field with or without the word for a
direction, in any letter case. `Sorting.ofText` reads what `Sorting.toText` writes.
-/

namespace RecordQuery

namespace SortKey

/-- Reads a segment. -/
def ofSegment (segment : List Char) : Except Rejection SortKey :=
  match Text.words segment with
  | [field] => .ok { field := String.ofList field }
  | [field, word] =>
    match Direction.ofWord? (String.ofList (Text.lower word)) with
    | some direction => .ok { field := String.ofList field, direction }
    | none => .error (.direction (String.ofList word))
  | _ => .error (.orderSegment (String.ofList segment))

end SortKey

namespace Sorting

/-- Reads an order parameter; the first segment that is amiss is reported. -/
def ofText (s : String) : Except Rejection Sorting :=
  if s.isEmpty then .ok empty
  else ((s.toList.splitOn ',').mapM SortKey.ofSegment).map Sorting.mk

end Sorting

end RecordQuery
