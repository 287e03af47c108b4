import RecordQuery.Query.Rejection

/-!
Pages: a number of records to return and a number of records to pass over before them. A page can be
checked against the limits of a service, but it selects also when it breaks them: a negative number
selects nothing.
-/

namespace RecordQuery

/-- A window of a list of records. -/
structure Page where
  size : Int
  offset : Int
  deriving DecidableEq

namespace Page

def minSize : Int := 0

def maxSize : Int := 500

def minOffset : Int := 0

/-- The page without records. -/
def empty : Page := ⟨0, 0⟩

/-- The first ten records. -/
def first : Page := ⟨10, 0⟩

/-- Checks the limits, those of the size before those of the offset. -/
def check (p : Page) : Except Rejection Unit :=
  if p.size < minSize then .error (.page .size (.atLeast minSize))
  else if maxSize < p.size then .error (.page .size (.atMost maxSize))
  else if p.offset < minOffset then .error (.page .offset (.atLeast minOffset))
  else .ok ()

/-- The places, from the first and up to but not including the second, that a page takes of `length`
records. -/
def bounds (p : Page) (length : Nat) : Nat × Nat :=
  if p.offset < 0 ∨ p.size ≤ 0 ∨ (length : Int) ≤ p.offset then (0, 0)
  else (p.offset.toNat, min (p.offset.toNat + p.size.toNat) length)

/-- The records that a page takes. -/
def window {ρ : Type u} (p : Page) (records : List ρ) : List ρ :=
  (records.take (p.bounds records.length).2).drop (p.bounds records.length).1

end Page

end RecordQuery
