import RecordQuery.Proofs.TextSearch
import RecordQuery.Text.Pattern

/-!
What a pattern matches. In lower case, a needle without a star matches the texts in which it occurs;
a needle with stars matches the texts that are its pieces between the stars with anything between
them, unless it is too large (`Pattern.accepts_compile_iff`).
-/

namespace RecordQuery.Pattern

section Pieces

variable {needle : List Char}

theorem exists_splitOn_of_star (star : '*' ∈ needle) :
    ∃ opening piece pieces, needle.splitOn '*' = opening :: piece :: pieces := by
  obtain ⟨before, after, rfl⟩ := List.append_of_mem star
  rw [List.splitOn_append_cons_self]
  obtain ⟨opening, inner, eqBefore⟩ := List.exists_cons_of_ne_nil (List.splitOn_ne_nil '*' before)
  obtain ⟨piece, pieces, eqAfter⟩ := List.exists_cons_of_ne_nil (List.splitOn_ne_nil '*' after)
  rw [eqBefore, eqAfter]
  cases inner with
  | nil => exact ⟨opening, piece, pieces, rfl⟩
  | cons next inner => exact ⟨opening, next, inner ++ piece :: pieces, rfl⟩

theorem ofLower_of_plain (plain : '*' ∉ needle) : ofLower needle = .substring needle := by
  unfold ofLower
  rw [List.splitOn_eq_singleton plain]

/-- A needle with stars that is not too large is prepared as its pieces. -/
theorem ofLower_of_fits (star : '*' ∈ needle) (fits : preparedSize needle ≤ sizeLimit) :
    ∃ opening inner closing,
      needle.splitOn '*' = opening :: (inner ++ [closing]) ∧
        ofLower needle = .wildcard opening inner closing := by
  obtain ⟨opening, piece, pieces, split⟩ := exists_splitOn_of_star star
  have others := List.dropLast_append_getLast (List.cons_ne_nil piece pieces)
  refine ⟨opening, _, _, by rw [others, split], ?_⟩
  unfold ofLower
  rw [split]
  exact if_pos fits

theorem ofLower_eq_oversized_iff :
    ofLower needle = .oversized ↔ '*' ∈ needle ∧ sizeLimit < preparedSize needle := by
  constructor
  · intro oversized
    have star : '*' ∈ needle := by
      by_contra plain
      rw [ofLower_of_plain plain] at oversized
      cases oversized
    refine ⟨star, Nat.lt_of_not_le fun fits => ?_⟩
    obtain ⟨opening, inner, closing, -, prepared⟩ := ofLower_of_fits star fits
    rw [prepared] at oversized
    cases oversized
  · rintro ⟨star, large⟩
    obtain ⟨opening, piece, pieces, split⟩ := exists_splitOn_of_star star
    unfold ofLower
    rw [split]
    exact if_neg (Nat.not_le.2 large)

end Pieces

/-- The opening stands at the beginning, and the rest has the other pieces behind gaps. -/
theorem acceptsLower_wildcard_iff {opening closing s : List Char} {inner : List (List Char)} :
    (wildcard opening inner closing).acceptsLower s = true ↔
      ∃ gaps, gaps.length = (inner ++ [closing]).length ∧
        s = Text.spaced ([] :: gaps) (opening :: (inner ++ [closing])) := by
  rw [acceptsLower, Bool.and_eq_true, List.isPrefixOf_iff_prefix, skipPieces?, Text.foldlM_cut?_iff]
  constructor
  · rintro ⟨⟨rest, rfl⟩, isSpaced⟩
    rw [List.drop_left] at isSpaced
    obtain ⟨gaps, length, rfl⟩ := isSpaced
    exact ⟨gaps, length, rfl⟩
  · rintro ⟨gaps, length, rfl⟩
    rw [Text.spaced_cons, List.nil_append, List.drop_left]
    exact ⟨List.prefix_append _ _, gaps, length, rfl⟩

/-- What a needle in lower case matches. -/
theorem acceptsLower_ofLower_iff {needle s : List Char} :
    (ofLower needle).acceptsLower s = true ↔
      '*' ∉ needle ∧ needle <:+: s ∨
      '*' ∈ needle ∧ preparedSize needle ≤ sizeLimit ∧
        ∃ gaps, gaps.length + 1 = (needle.splitOn '*').length ∧
          s = Text.spaced ([] :: gaps) (needle.splitOn '*') := by
  by_cases star : '*' ∈ needle
  case neg =>
    rw [ofLower_of_plain star, acceptsLower, Text.occursIn_iff]
    simp only [star, not_false_eq_true, true_and, false_and, or_false]
  rcases Nat.lt_or_ge sizeLimit (preparedSize needle) with large | fits
  · rw [ofLower_eq_oversized_iff.2 ⟨star, large⟩]
    simp only [acceptsLower, star, Nat.not_le.2 large, not_true_eq_false, false_and, and_false,
      or_self, Bool.false_eq_true]
  · obtain ⟨opening, inner, closing, split, prepared⟩ := ofLower_of_fits star fits
    rw [prepared, split, acceptsLower_wildcard_iff, List.length_cons]
    simp only [star, fits, not_true_eq_false, false_and, false_or, true_and,
      Nat.add_right_cancel_iff]

/-- Needle and text are put into lower case. If the needle then has no star, it has to occur in the
text. If it has stars, its pieces between them have to make up the text, with anything, also
nothing, in place of each star; and a needle with stars over the size limit matches nothing. -/
theorem accepts_compile_iff (needle haystack : String) :
    ((compile needle).accepts haystack = true ↔
        let n := Text.lower needle.toList
        let h := Text.lower haystack.toList
        '*' ∉ n ∧ n <:+: h ∨
        '*' ∈ n ∧ preparedSize n ≤ sizeLimit ∧
          ∃ gaps, gaps.length + 1 = (n.splitOn '*').length ∧
            h = Text.spaced ([] :: gaps) (n.splitOn '*')) ∧
      (compile needle = .oversized ↔
        '*' ∈ Text.lower needle.toList ∧ sizeLimit < preparedSize (Text.lower needle.toList)) :=
  ⟨acceptsLower_ofLower_iff, ofLower_eq_oversized_iff⟩

end RecordQuery.Pattern
