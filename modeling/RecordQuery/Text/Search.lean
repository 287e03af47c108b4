/-!
The first occurrence of one text in another. `cut?` finds it and gives the text on both sides;
containment and splitting at a separator are read off it.
-/

namespace RecordQuery.Text

/-- The text before the first occurrence of `p` in `s` and the text after it. `before` holds, last
character first, what precedes `s`. -/
def cutFrom? (p before : List Char) : List Char → Option (List Char × List Char)
  | [] => if p.isEmpty then some (before.reverse, []) else none
  | c :: s =>
    if p.isPrefixOf (c :: s) then some (before.reverse, (c :: s).drop p.length)
    else cutFrom? p (c :: before) s

/-- The text before the first occurrence of `p` in `s` and the text after it, if there is one. -/
def cut? (p s : List Char) : Option (List Char × List Char) := cutFrom? p [] s

/-- Whether `p` occurs in `s` without gaps. -/
def occursIn (p s : List Char) : Bool := (cut? p s).isSome

theorem length_lt_of_cutFrom? {p before s a b : List Char} (hp : p ≠ [])
    (h : cutFrom? p before s = some (a, b)) : b.length < s.length := by
  induction s generalizing before with
  | nil => simp_all [cutFrom?]
  | cons c s ih =>
    unfold cutFrom? at h
    split at h
    · have : 0 < p.length := List.length_pos_iff.2 hp
      simp only [Option.some.injEq, Prod.mk.injEq] at h
      rw [← h.2, List.length_drop, List.length_cons]
      omega
    · have := ih h
      simp only [List.length_cons]
      omega

/-- What follows an occurrence of a text that is not empty is shorter than the whole. -/
theorem length_lt_of_cut? {p s a b : List Char} (hp : p ≠ []) (h : cut? p s = some (a, b)) :
    b.length < s.length :=
  length_lt_of_cutFrom? hp h

/-- The pieces of `s` between the occurrences of `sep`, which are taken from the left and do not
overlap. -/
def splitAround (sep s : List Char) (sep_ne_nil : sep ≠ []) : List (List Char) :=
  match h : cut? sep s with
  | none => [s]
  | some (before, after) =>
    have := length_lt_of_cut? sep_ne_nil h
    before :: splitAround sep after sep_ne_nil
termination_by s.length

end RecordQuery.Text
