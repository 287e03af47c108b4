import RecordQuery.Value

/-!
How records are sorted: by keys, of which the first that differs decides. `Sorting.toText` writes
the keys as the text of an order parameter.
-/

namespace RecordQuery

/-- The direction of a sort key. -/
inductive Direction
  /-- The smallest value first. -/
  | ascending
  /-- The largest value first. -/
  | descending
  deriving DecidableEq

namespace Direction

instance : Inhabited Direction := ⟨.ascending⟩

/-- The word for a direction. -/
def word : Direction → String
  | .ascending => "asc"
  | .descending => "desc"

/-- The direction that a word is for, in lower case only. -/
def ofWord? (s : String) : Option Direction :=
  if s = "asc" then some .ascending
  else if s = "desc" then some .descending
  else none

/-- The order of two values in a direction, given their order from the smallest. -/
def apply : Direction → Ordering → Ordering
  | .ascending, o => o
  | .descending, o => o.swap

end Direction

/-- A field to sort by, and the direction. -/
structure SortKey where
  field : String
  direction : Direction := .ascending
  deriving DecidableEq

namespace SortKey

/-- The order of two values under a key. -/
def compare? (key : SortKey) (a b : Value) : Option Ordering :=
  (a.compare? b).map key.direction.apply

/-- The field and the word for the direction. -/
def toText (key : SortKey) : String := key.field ++ " " ++ key.direction.word

end SortKey

/-- The keys to sort by, the most important one first. Without keys, records stay in their order. -/
structure Sorting where
  keys : List SortKey
  deriving DecidableEq

namespace Sorting

/-- No keys. -/
def empty : Sorting := ⟨[]⟩

def isEmpty (s : Sorting) : Bool := s.keys.isEmpty

def size (s : Sorting) : Nat := s.keys.length

/-- Adds a key behind the others. -/
def push (s : Sorting) (key : SortKey) : Sorting := ⟨s.keys ++ [key]⟩

/-- The keys with commas between them. -/
def toText (s : Sorting) : String := ", ".intercalate (s.keys.map SortKey.toText)

/-- The keys of a list in which the word for a direction and a field take turns. -/
def keysOfTokens? : List String → Option (List SortKey)
  | [] => some []
  | [_] => none
  | word :: field :: tokens => do
    let direction ← Direction.ofWord? word
    let keys ← keysOfTokens? tokens
    return { field, direction } :: keys

/-- The keys of a list of directions and fields in turn, or no key at all if any part of the list is
amiss. -/
def ofTokens (tokens : List String) : Sorting := ⟨(keysOfTokens? tokens).getD []⟩

end Sorting

/-- The order of two rows of values under a list of keys: that of the first pair of values which are
not equal in order. There is none if a pair before that has two kinds. -/
def compareRows? : List SortKey → List Value → List Value → Option Ordering
  | key :: keys, a :: as, b :: bs =>
    match key.compare? a b with
    | some .eq => compareRows? keys as bs
    | decided => decided
  | _, _, _ => some .eq

end RecordQuery
