/-!
Stable sorting by insertion. Each element moves in from the right of those already placed, past the
ones it has to precede, so elements that need not precede one another keep their order.

Where `precedes` comes from a total preorder there is only one such order, and every stable sort finds it.
Where it does not, nothing is laid down: a sort may then return the elements in any order, or fail. This one
settles on the order of insertion and always returns. Results about sorting by any comparison rest on no more
than that it rearranges a list and looks at elements through their comparison only; those about the order itself
ask for a total preorder.
-/

namespace RecordQuery

variable {α : Type u}

/-- Puts `x` into a list of placed elements, the last one first: past those that it precedes. -/
def settle (precedes : α → α → Bool) (x : α) : List α → List α
  | [] => [x]
  | y :: placed => if precedes x y then y :: settle precedes x placed else x :: y :: placed

/-- Sorts a list, with equal elements in their order. -/
def stableSort (precedes : α → α → Bool) (xs : List α) : List α :=
  (xs.foldl (fun placed x => settle precedes x placed) []).reverse

end RecordQuery
