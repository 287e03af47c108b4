import RecordQuery.Text.Search
import Mathlib.Data.List.Infix

/-!
What a search finds. `Text.cut?` finds the first place at which a piece occurs in a text, or none if
it does not occur (`cut?_eq_some_iff`, `cut?_eq_none_iff`).

To look for several pieces one after the other it is enough to take the first place of each: what is
left then ends with whatever is left at any other choice (`suffix_of_cut?`). So a run of such
searches succeeds exactly if the text is made of the pieces with gaps before them
(`foldlM_cut?_iff`). Splitting a text at a separator loses nothing but the separators
(`intercalate_splitAround`), and undoes joining (`splitAround_intercalate`).
-/

namespace RecordQuery.Text

/-! ## First occurrences -/

section FirstOccurrence

variable {p s a b : List Char}

theorem cutFrom?_eq_map (p before s : List Char) :
    cutFrom? p before s = (cut? p s).map fun (a, b) => (before.reverse ++ a, b) := by
  unfold cut?
  -- The text that was passed over is a parameter of the walk on both sides.
  suffices ∀ start, cutFrom? p (start ++ before) s =
      (cutFrom? p start s).map fun (a, b) => (before.reverse ++ a, b) from this []
  induction s with
  | nil =>
    intro start
    unfold cutFrom?
    split <;> simp
  | cons c s ih =>
    intro start
    unfold cutFrom?
    split
    · simp
    · exact ih (c :: start)

theorem cut?_nil (p : List Char) : cut? p [] = if p.isEmpty then some ([], []) else none := rfl

theorem cut?_cons (p : List Char) (c : Char) (s : List Char) :
    cut? p (c :: s) =
      if p.isPrefixOf (c :: s) then some ([], (c :: s).drop p.length)
      else (cut? p s).map fun (a, b) => (c :: a, b) := by
  rw [cut?, cutFrom?]
  split
  · rfl
  · exact cutFrom?_eq_map p [c] s

/-- A piece is not found exactly if it does not occur. -/
theorem cut?_eq_none_iff : cut? p s = none ↔ ¬ p <:+: s := by
  induction s with
  | nil =>
    rw [cut?_nil, List.infix_nil]
    cases p <;> simp
  | cons c s ih =>
    rw [cut?_cons, List.infix_cons_iff, ← List.isPrefixOf_iff_prefix]
    split
    case isTrue first => simp [first]
    case isFalse later => simp [later, ih]

theorem occursIn_iff : occursIn p s = true ↔ p <:+: s := by
  rw [occursIn, Option.isSome_iff_ne_none, ne_eq, cut?_eq_none_iff, not_not]

/-- What is found is an occurrence of the piece, and no occurrence is further to the left. -/
theorem cut?_eq_some (found : cut? p s = some (a, b)) :
    s = a ++ p ++ b ∧ ∀ x y, s = x ++ p ++ y → a.length ≤ x.length := by
  induction s generalizing a with
  | nil =>
    rw [cut?_nil] at found
    split at found
    case isFalse => cases found
    case isTrue empty =>
      cases found
      rw [List.isEmpty_iff.1 empty]
      exact ⟨rfl, fun _ _ _ => Nat.zero_le _⟩
  | cons c s ih =>
    rw [cut?_cons] at found
    split at found
    case isTrue first =>
      cases found
      have whole := List.prefix_append_drop (List.isPrefixOf_iff_prefix.1 first)
      exact ⟨whole, fun _ _ _ => Nat.zero_le _⟩
    case isFalse later =>
      obtain ⟨⟨a', b'⟩, found', same⟩ := Option.map_eq_some_iff.1 found
      cases same
      obtain ⟨whole, leftmost⟩ := ih found'
      refine ⟨by rw [whole]; rfl, fun x y other => ?_⟩
      cases x with
      | nil => exact absurd (List.isPrefixOf_iff_prefix.2 ⟨y, other.symm⟩) later
      | cons d x =>
        obtain ⟨-, other⟩ := List.cons.inj other
        exact Nat.succ_le_succ (leftmost x y other)

theorem cut?_eq_some_iff :
    cut? p s = some (a, b) ↔
      s = a ++ p ++ b ∧ ∀ x y, s = x ++ p ++ y → a.length ≤ x.length := by
  refine ⟨cut?_eq_some, fun ⟨whole, leftmost⟩ => ?_⟩
  cases found : cut? p s with
  | none => exact absurd ⟨a, b, whole.symm⟩ (cut?_eq_none_iff.1 found)
  | some parts =>
    obtain ⟨a', b'⟩ := parts
    obtain ⟨whole', leftmost'⟩ := cut?_eq_some found
    have sameLength : a'.length = a.length :=
      Nat.le_antisymm (leftmost' a b whole) (leftmost a' b' whole')
    rw [whole, List.append_assoc, List.append_assoc] at whole'
    obtain ⟨rfl, rest⟩ := List.append_inj whole' sameLength.symm
    rw [List.append_cancel_left rest]

/-- What follows any occurrence of a piece is at the end of what follows the first one. -/
theorem suffix_of_cut? {x y : List Char} (found : cut? p s = some (a, b))
    (other : s = x ++ p ++ y) : y <:+ b := by
  obtain ⟨whole, leftmost⟩ := cut?_eq_some found
  have longer := leftmost x y other
  refine List.suffix_of_suffix_length_le ⟨x ++ p, other.symm⟩ ⟨a ++ p, whole.symm⟩ ?_
  have lengths := congrArg List.length (whole.symm.trans other)
  simp only [List.length_append] at lengths
  omega

end FirstOccurrence

/-! ## Splitting -/

section Splitting

variable {sep s a b : List Char} {sep_ne_nil : sep ≠ []}

theorem splitAround_of_cut?_eq_none (missing : cut? sep s = none) :
    splitAround sep s sep_ne_nil = [s] := by
  rw [splitAround]
  split
  case h_1 => rfl
  case h_2 before after found =>
    rw [missing] at found
    cases found

theorem splitAround_of_cut?_eq_some (found : cut? sep s = some (a, b)) :
    splitAround sep s sep_ne_nil = a :: splitAround sep b sep_ne_nil := by
  rw [splitAround]
  split
  case h_1 missing =>
    rw [found] at missing
    cases missing
  case h_2 before after found' =>
    rw [found] at found'
    cases found'
    rfl

theorem splitAround_ne_nil : splitAround sep s sep_ne_nil ≠ [] := by
  cases found : cut? sep s with
  | none =>
    rw [splitAround_of_cut?_eq_none found]
    exact List.cons_ne_nil _ _
  | some parts =>
    rw [splitAround_of_cut?_eq_some found]
    exact List.cons_ne_nil _ _

/-- The pieces, with the separator between them, are the text. -/
theorem intercalate_splitAround (sep_ne_nil : sep ≠ []) (s : List Char) :
    sep.intercalate (splitAround sep s sep_ne_nil) = s := by
  induction length : s.length using Nat.strongRecOn generalizing s with
  | ind n ih =>
    cases found : cut? sep s with
    | none => rw [splitAround_of_cut?_eq_none found, List.intercalate_singleton]
    | some parts =>
      obtain ⟨a, b⟩ := parts
      have shorter := length_lt_of_cut? sep_ne_nil found
      rw [splitAround_of_cut?_eq_some found, List.intercalate_cons_of_ne_nil splitAround_ne_nil,
        ih b.length (length ▸ shorter) b rfl]
      exact (cut?_eq_some found).1.symm

/-- A piece in front of a separator is found as a whole if the separator starts nowhere within it. -/
theorem cut?_append (apart : ¬ sep <:+: a ++ sep.dropLast) (b : List Char) :
    cut? sep (a ++ sep ++ b) = some (a, b) := by
  refine cut?_eq_some_iff.2 ⟨rfl, fun x y other => ?_⟩
  by_contra earlier
  apply apart
  have found : x ++ sep <+: a ++ sep ++ b := ⟨y, other.symm⟩
  have start : a ++ sep.dropLast <+: a ++ sep ++ b := by
    rw [List.append_assoc, List.prefix_append_right_inj]
    exact (List.dropLast_prefix sep).trans (List.prefix_append sep b)
  have within : x ++ sep <+: a ++ sep.dropLast := by
    refine List.prefix_of_prefix_length_le found start ?_
    rw [List.length_append, List.length_append, List.length_dropLast]
    omega
  exact (List.suffix_append x sep).isInfix.trans within.isInfix

/-- Pieces that are put together are split again if no separator is in a piece or starts in one and
ends behind it. -/
theorem splitAround_intercalate (sep_ne_nil : sep ≠ []) {pieces : List (List Char)}
    (nonempty : pieces ≠ []) (unseparated : ∀ piece ∈ pieces, ¬ sep <:+: piece)
    (apart : ∀ piece ∈ pieces.dropLast, ¬ sep <:+: piece ++ sep.dropLast) :
    splitAround sep (sep.intercalate pieces) sep_ne_nil = pieces := by
  induction pieces with
  | nil => exact absurd rfl nonempty
  | cons piece pieces ih =>
    obtain ⟨unseparatedFirst, unseparatedRest⟩ := List.forall_mem_cons.1 unseparated
    cases pieces with
    | nil =>
      rw [List.intercalate_singleton]
      exact splitAround_of_cut?_eq_none (cut?_eq_none_iff.2 unseparatedFirst)
    | cons next pieces =>
      rw [List.dropLast_cons_cons] at apart
      obtain ⟨apartFirst, apartRest⟩ := List.forall_mem_cons.1 apart
      rw [List.intercalate_cons_cons, splitAround_of_cut?_eq_some (cut?_append apartFirst _),
        ih (List.cons_ne_nil next pieces) unseparatedRest apartRest]

end Splitting

/-! ## Pieces with gaps between them -/

/-- Pieces one after the other, each behind a gap. -/
def spaced (gaps pieces : List (List Char)) : List Char :=
  (List.zipWith (· ++ ·) gaps pieces).flatten

@[simp]
theorem spaced_nil (gaps : List (List Char)) : spaced gaps [] = [] := by
  rw [spaced, List.zipWith_nil_right, List.flatten_nil]

@[simp]
theorem spaced_cons (gap piece : List Char) (gaps pieces : List (List Char)) :
    spaced (gap :: gaps) (piece :: pieces) = gap ++ piece ++ spaced gaps pieces :=
  rfl

/-- A text is made of the pieces, each behind a gap. -/
def IsSpaced (pieces : List (List Char)) (s : List Char) : Prop :=
  ∃ gaps, gaps.length = pieces.length ∧ s = spaced gaps pieces

section IsSpaced

variable {pieces : List (List Char)} {piece s : List Char}

theorem isSpaced_nil : IsSpaced [] s ↔ s = [] := by
  constructor
  · rintro ⟨gaps, -, rfl⟩
    exact spaced_nil gaps
  · rintro rfl
    exact ⟨[], rfl, rfl⟩

theorem isSpaced_cons :
    IsSpaced (piece :: pieces) s ↔
      ∃ gap rest, s = gap ++ piece ++ rest ∧ IsSpaced pieces rest := by
  constructor
  · rintro ⟨gaps, length, rfl⟩
    cases gaps with
    | nil => cases length
    | cons gap gaps =>
      exact ⟨gap, spaced gaps pieces, rfl, gaps, Nat.succ.inj length, rfl⟩
  · rintro ⟨gap, rest, rfl, gaps, length, rfl⟩
    exact ⟨gap :: gaps, congrArg Nat.succ length, rfl⟩

theorem isSpaced_singleton : IsSpaced [piece] s ↔ piece <:+ s := by
  rw [isSpaced_cons]
  constructor
  · rintro ⟨gap, rest, rfl, nothing⟩
    rw [isSpaced_nil.1 nothing, List.append_nil]
    exact List.suffix_append gap piece
  · rintro ⟨gap, rfl⟩
    exact ⟨gap, [], (List.append_nil _).symm, isSpaced_nil.2 rfl⟩

/-- The first gap may be any longer. -/
theorem IsSpaced.of_suffix {t : List Char} (isSpaced : IsSpaced (piece :: pieces) s)
    (suffix : s <:+ t) : IsSpaced (piece :: pieces) t := by
  obtain ⟨more, rfl⟩ := suffix
  obtain ⟨gap, rest, rfl, isSpacedRest⟩ := isSpaced_cons.1 isSpaced
  refine isSpaced_cons.2 ⟨more ++ gap, rest, ?_, isSpacedRest⟩
  simp only [List.append_assoc]

/-- Taking each piece at its first place finds the pieces and the closing at the end, whenever they
are there with any gaps. -/
theorem foldlM_cut?_iff {closing : List Char} :
    (pieces.foldlM (fun rest piece => (cut? piece rest).map Prod.snd) s).any closing.isSuffixOf =
        true ↔
      IsSpaced (pieces ++ [closing]) s := by
  induction pieces generalizing s with
  | nil => exact List.isSuffixOf_iff_suffix.trans isSpaced_singleton.symm
  | cons piece pieces ih =>
    rw [List.foldlM_cons, List.cons_append, isSpaced_cons]
    cases found : cut? piece s with
    | none =>
      have missing := cut?_eq_none_iff.1 found
      constructor
      · intro impossible
        cases impossible
      · rintro ⟨gap, rest, rfl, -⟩
        exact absurd ⟨gap, rest, rfl⟩ missing
    | some parts =>
      obtain ⟨a, b⟩ := parts
      refine ih.trans ⟨fun isSpaced => ⟨a, b, (cut?_eq_some found).1, isSpaced⟩, ?_⟩
      rintro ⟨gap, rest, whole, isSpaced⟩
      have suffix := suffix_of_cut? found whole
      cases pieces with
      | nil => exact isSpaced.of_suffix suffix
      | cons next pieces => exact isSpaced.of_suffix suffix

end IsSpaced

end RecordQuery.Text
