/-!
Sets of code points. A Unicode property is a list of ranges, so it is kept as the ascending list of
the code points at which membership changes: the ranges' first points and the points after their
ends. `CodePointSet.contains` walks that list once.
-/

namespace RecordQuery

/-- A set of code points, given by the ascending points at which membership changes. -/
structure CodePointSet where
  boundaries : List Nat

namespace CodePointSet

/-- Membership of `n`, when it is `inside` before the first of the points. -/
def containsFrom (n : Nat) (inside : Bool) : List Nat → Bool
  | [] => inside
  | b :: points => if n < b then inside else containsFrom n (!inside) points

/-- Whether the set holds a character. -/
def contains (set : CodePointSet) (c : Char) : Bool :=
  containsFrom c.toNat false set.boundaries

end CodePointSet

end RecordQuery
