import RecordQuery.Proofs.LowerCase
import RecordQuery.Proofs.TextSearch
import Mathlib.Algebra.GroupWithZero.Nat
import Mathlib.Data.List.Forall2

/-!
Texts whose capital sigmas keep their forms. A text keeps its sigmas at a place if it is lowered there
as it is alone (`lowerBetween_eq_lower_iff`). A text that is made of pieces with gaps between them is,
in lower case, made of the pieces in lower case, if every piece keeps its sigmas (`lower_spaced`).

If it is made of them whatever the gaps, then the pieces keep their sigmas whatever the gaps
(`piecesKeepSigmas_of_never_missed`). With blanks in all gaps and a letter next to one piece, only
that piece can change; if it did, the text would have fewer final sigmas than the pieces, or fewer
plain ones.
-/

namespace RecordQuery.Text

/-! ## Parts that keep their sigmas -/

/-- Each capital sigma of a text takes the form, between what is before the text and what is after
it, that it takes in the text alone. -/
def KeepsSigmas (before s after : List Char) : Prop :=
  ∀ p q, s = p ++ 'Σ' :: q → sigmaIsFinal (before ++ p) (q ++ after) = sigmaIsFinal p q

theorem lowerBetween_eq_lower_iff {before s after : List Char} :
    lowerBetween before after s = lower s ↔ KeepsSigmas before s after := by
  rw [lower_eq_lowerBetween, lowerBetween_eq_iff]
  simp only [List.nil_append, List.append_nil]
  rfl

/-- Where a text stands at the start or keeps its sigmas behind a letter, and stands at the end or
keeps them before a letter, it keeps them. -/
theorem keepsSigmas_of_letters {before s after : List Char}
    (left : before = [] ∨ KeepsSigmas ['a'] s []) (right : after = [] ∨ KeepsSigmas [] s ['a']) :
    KeepsSigmas before s after := by
  have startsLetter : startsCased ['a'] = true := by decide +kernel
  have endsLetter : endsCased ['a'] = true := startsLetter
  rintro p q split
  -- Behind ignored characters only, a sigma looks at what is before the text, and likewise at what is
  -- after it.
  have leftRule (ignored : p.all isCaseIgnorable = true) :
      endsCased before = false ∨ startsCased q = true := by
    rcases left with rfl | keeps
    · exact .inl rfl
    · have same := keeps p q split
      rw [sigmaIsFinal, sigmaIsFinal, endsCased_append, if_pos ignored, endsLetter,
        not_endsCased_of_all ignored, List.append_nil, Bool.true_and, Bool.false_and,
        Bool.not_eq_false'] at same
      exact .inr same
  have rightRule (ignored : q.all isCaseIgnorable = true) :
      startsCased after = false ∨ endsCased p = false := by
    rcases right with rfl | keeps
    · exact .inl rfl
    · have same := keeps p q split
      rw [sigmaIsFinal, sigmaIsFinal, startsCased_append, if_pos ignored, startsLetter,
        not_startsCased_of_all ignored, List.nil_append, Bool.not_true, Bool.and_false,
        Bool.not_false, Bool.and_true, eq_comm] at same
      exact .inr same
  rw [sigmaIsFinal, sigmaIsFinal, endsCased_append]
  by_cases ignoredLeft : p.all isCaseIgnorable = true
  · rw [if_pos ignoredLeft, not_endsCased_of_all ignoredLeft, Bool.false_and]
    rcases leftRule ignoredLeft with notCased | cased
    · rw [notCased, Bool.false_and]
    · rw [startsCased_append_of_startsCased cased, Bool.not_true, Bool.and_false]
  · rw [if_neg ignoredLeft, startsCased_append]
    by_cases ignoredRight : q.all isCaseIgnorable = true
    · rw [if_pos ignoredRight, not_startsCased_of_all ignoredRight]
      rcases rightRule ignoredRight with notCased | notCased
      · rw [notCased]
      · rw [notCased, Bool.false_and, Bool.false_and]
    · rw [if_neg ignoredRight]

/-! ## Texts made of pieces -/

/-- In the text that gaps and pieces make up behind `before`, every piece keeps its capital
sigmas. -/
def PiecesKeepSigmas (before : List Char) : List (List Char) → List (List Char) → Prop
  | gap :: gaps, piece :: pieces =>
    KeepsSigmas (before ++ gap) piece (spaced gaps pieces) ∧
      PiecesKeepSigmas (before ++ (gap ++ piece)) gaps pieces
  | _, _ => True

/-- If every piece keeps its sigmas, the lower case of the text is made of the lower case of the
pieces. -/
theorem isSpaced_lowerBetween {before : List Char} {gaps pieces : List (List Char)}
    (length : gaps.length = pieces.length) (keep : PiecesKeepSigmas before gaps pieces) :
    IsSpaced (pieces.map lower) (lowerBetween before [] (spaced gaps pieces)) := by
  induction pieces generalizing before gaps with
  | nil =>
    rw [spaced_nil]
    exact isSpaced_nil.2 rfl
  | cons piece pieces ih =>
    cases gaps with
    | nil => cases length
    | cons gap gaps =>
      obtain ⟨first, rest⟩ := keep
      rw [spaced_cons, lowerBetween_append, lowerBetween_append, List.append_nil,
        lowerBetween_eq_lower_iff.2 first]
      exact isSpaced_cons.2 ⟨_, _, rfl, ih (Nat.succ.inj length) rest⟩

/-- The text behind the opening is made of the other pieces, and so is its lower case, if every piece
keeps its sigmas. -/
theorem lower_spaced {opening : List Char} {gaps pieces : List (List Char)}
    (length : gaps.length = pieces.length)
    (keep : PiecesKeepSigmas [] ([] :: gaps) (opening :: pieces)) :
    ∃ rest, lower (spaced ([] :: gaps) (opening :: pieces)) = lower opening ++ rest ∧
      IsSpaced (pieces.map lower) rest := by
  obtain ⟨first, others⟩ := keep
  refine ⟨lowerBetween opening [] (spaced gaps pieces), ?_, isSpaced_lowerBetween length others⟩
  have same : lowerBetween [] (spaced gaps pieces) opening = lower opening :=
    lowerBetween_eq_lower_iff.2 first
  rw [spaced_cons, List.nil_append, lower_eq_lowerBetween, lowerBetween_append, List.append_nil,
    List.nil_append, same]

/-! ## Counting sigmas -/

/-- A character of the one text is that of the other, or a plain sigma where that has a final
one. -/
def PlainOrSame (x y : Char) : Prop := x = y ∨ x = 'σ' ∧ y = 'ς'

/-- Where every capital sigma that is final at one place is final at another one, the lower case
differs by final sigmas alone. -/
theorem forall₂_lowerBetween {u v u' v' s : List Char}
    (le : ∀ p q, s = p ++ 'Σ' :: q → sigmaIsFinal (u ++ p) (q ++ v) = true →
      sigmaIsFinal (u' ++ p) (q ++ v') = true) :
    List.Forall₂ PlainOrSame (lowerBetween u v s) (lowerBetween u' v' s) := by
  induction s generalizing u u' with
  | nil => exact .nil
  | cons c s ih =>
    obtain ⟨first, rest⟩ := forall_sigma_cons.1 le
    rw [List.append_nil, List.append_nil] at first
    rw [lowerBetween, lowerBetween]
    refine List.rel_append ?_ (ih ?_)
    · have refl (l : List Char) : List.Forall₂ PlainOrSame l l :=
        List.forall₂_same.2 fun x _ => .inl rfl
      rw [lowerIn_eq, lowerIn_eq]
      by_cases sigma : c = 'Σ'
      · subst sigma
        have implied := first rfl
        rw [lowerChar_sigma]
        cases final : sigmaIsFinal u (s ++ v) with
        | true =>
          rw [implied final]
          exact refl _
        | false =>
          cases sigmaIsFinal u' (s ++ v') with
          | true => exact .cons (.inr ⟨rfl, rfl⟩) .nil
          | false => exact refl _
      · rw [if_neg (mt And.left sigma), if_neg (mt And.left sigma)]
        exact refl _
    · intro p q split
      rw [List.append_assoc, List.append_assoc]
      exact rest p q split

theorem count_le_of_forall₂ {s t : List Char} (related : List.Forall₂ PlainOrSame s t) :
    s.count 'ς' ≤ t.count 'ς' ∧ t.count 'σ' ≤ s.count 'σ' := by
  induction related with
  | nil => exact ⟨Nat.le_refl _, Nat.le_refl _⟩
  | cons head _ ih =>
    obtain ⟨finals, plains⟩ := ih
    rcases head with rfl | ⟨rfl, rfl⟩
    · simp only [List.count_cons]
      omega
    · rw [List.count_cons, List.count_cons, List.count_cons, List.count_cons]
      exact ⟨Nat.add_le_add finals (by decide), Nat.add_le_add plains (by decide)⟩

/-- Texts that differ by final sigmas alone are the same if the one does not have fewer of them, or
not more plain ones. -/
theorem eq_of_forall₂ {s t : List Char} (related : List.Forall₂ PlainOrSame s t)
    (counts : t.count 'ς' ≤ s.count 'ς' ∨ s.count 'σ' ≤ t.count 'σ') : s = t := by
  induction related with
  | nil => rfl
  | @cons x y s t head tail ih =>
    obtain ⟨finals, plains⟩ := count_le_of_forall₂ tail
    rcases head with rfl | ⟨rfl, rfl⟩
    · simp only [List.count_cons] at counts
      rw [ih (by omega)]
    · have final : ('ς' == 'σ') = false := by decide
      have plain : ('σ' == 'ς') = false := by decide
      simp only [List.count_cons, final, plain, beq_self_eq_true, if_true, Bool.false_eq_true,
        if_false] at counts
      omega

theorem lowerBetween_letter (before after : List Char) :
    lowerBetween before after ['a'] = ['a'] := by
  have lowered : lowerChar 'a' = ['a'] := by decide +kernel
  have notSigma : 'a' ≠ 'Σ' := by decide
  rw [lowerBetween, lowerBetween, lowerIn_eq, if_neg (mt And.left notSigma), lowered]
  rfl

theorem lower_append_letter (s : List Char) :
    lower (s ++ ['a']) = lowerBetween [] ['a'] s ++ ['a'] := by
  rw [lower_eq_lowerBetween, lowerBetween_append, lowerBetween_letter]
  rfl

theorem lower_letter_append (s : List Char) : lower ('a' :: s) = 'a' :: lowerBetween ['a'] [] s := by
  rw [← List.singleton_append, lower_eq_lowerBetween, lowerBetween_append, lowerBetween_letter]
  rfl

/-- A text that has, before a letter, no fewer final sigmas than alone keeps its sigmas there. -/
theorem keepsSigmas_before_letter {s : List Char}
    (counts : (lower s).count 'ς' ≤ (lower (s ++ ['a'])).count 'ς') : KeepsSigmas [] s ['a'] := by
  have related : List.Forall₂ PlainOrSame (lowerBetween [] ['a'] s) (lowerBetween [] [] s) := by
    apply forall₂_lowerBetween
    intro p q _ final
    rw [sigmaIsFinal, Bool.and_eq_true, Bool.not_eq_true', List.nil_append] at final
    rw [sigmaIsFinal, Bool.and_eq_true, Bool.not_eq_true', List.nil_append, List.append_nil]
    refine ⟨final.1, Bool.eq_false_iff.2 fun cased => ?_⟩
    rw [startsCased_append_of_startsCased cased] at final
    cases final.2
  have letter : ['a'].count 'ς' = 0 := by decide
  rw [lower_append_letter, List.count_append, letter, lower_eq_lowerBetween] at counts
  have same := eq_of_forall₂ related (.inl counts)
  rw [← lower_eq_lowerBetween] at same
  exact lowerBetween_eq_lower_iff.1 same

/-- A text that has, behind a letter, no fewer plain sigmas than alone keeps its sigmas there. -/
theorem keepsSigmas_behind_letter {s : List Char}
    (counts : (lower s).count 'σ' ≤ (lower ('a' :: s)).count 'σ') : KeepsSigmas ['a'] s [] := by
  have related : List.Forall₂ PlainOrSame (lowerBetween [] [] s) (lowerBetween ['a'] [] s) := by
    apply forall₂_lowerBetween
    intro p q _ final
    rw [sigmaIsFinal, Bool.and_eq_true, List.nil_append] at final
    rw [sigmaIsFinal, Bool.and_eq_true]
    exact ⟨endsCased_append_of_endsCased ['a'] final.1, final.2⟩
  have letter : ('a' == 'σ') = false := by decide
  rw [lower_letter_append, List.count_cons, letter, lower_eq_lowerBetween] at counts
  have same := eq_of_forall₂ related (.inr counts)
  rw [← lower_eq_lowerBetween] at same
  exact lowerBetween_eq_lower_iff.1 same.symm

/-! ## Texts in which a sigma changes its form -/

theorem count_le_of_isSpaced {x : Char} {pieces : List (List Char)} {s : List Char}
    (isSpaced : IsSpaced pieces s) : (pieces.map (List.count x)).sum ≤ s.count x := by
  induction pieces generalizing s with
  | nil => exact Nat.zero_le _
  | cons piece pieces ih =>
    obtain ⟨gap, rest, rfl, isSpacedRest⟩ := isSpaced_cons.1 isSpaced
    have := ih isSpacedRest
    rw [List.map_cons, List.sum_cons, List.count_append, List.count_append]
    omega

/-- Pieces with blanks between them. -/
def blanked (opening : List Char) (pieces : List (List Char)) : List Char :=
  opening ++ pieces.flatMap (' ' :: ·)

theorem lower_blanked (opening : List Char) (pieces : List (List Char)) :
    lower (blanked opening pieces) = blanked (lower opening) (pieces.map lower) := by
  have blank : IsSeparator ' ' := by decide +kernel
  have lowered : lowerChar ' ' = [' '] := by decide +kernel
  induction pieces generalizing opening with
  | nil => rw [blanked, List.flatMap_nil, List.append_nil, blanked, List.map_nil, List.flatMap_nil,
      List.append_nil]
  | cons piece pieces ih =>
    have inner (p : List Char) (ps : List (List Char)) (o : List Char) :
        blanked o (p :: ps) = o ++ ' ' :: blanked p ps := rfl
    rw [inner, lower_append_separator blank, lowered, ih, List.map_cons, inner, List.append_assoc]
    rfl

theorem count_blanked {x : Char} (notBlank : x ≠ ' ') (opening : List Char)
    (pieces : List (List Char)) :
    (blanked opening pieces).count x = opening.count x + (pieces.map (List.count x)).sum := by
  have single : List.count x ∘ (' ' :: ·) = List.count x := by
    funext piece
    rw [Function.comp_apply, List.count_cons_of_ne notBlank.symm]
  rw [blanked, List.count_append, List.count_flatMap, single]

theorem isSpaced_blanks (pieces : List (List Char)) :
    IsSpaced pieces (pieces.flatMap (' ' :: ·)) := by
  induction pieces with
  | nil => exact isSpaced_nil.2 rfl
  | cons piece pieces ih => exact isSpaced_cons.2 ⟨[' '], _, rfl, ih⟩

/-- The gap after a piece may start with a letter. -/
theorem isSpaced_letter_after (ps : List (List Char)) (piece next : List Char)
    (qs : List (List Char)) :
    IsSpaced (ps ++ piece :: next :: qs)
      ((ps ++ (piece ++ ['a']) :: next :: qs).flatMap (' ' :: ·)) := by
  induction ps with
  | nil =>
    have rest := (isSpaced_blanks (next :: qs)).of_suffix (List.suffix_cons 'a' _)
    refine isSpaced_cons.2 ⟨[' '], _, ?_, rest⟩
    simp only [List.nil_append, List.flatMap_cons, List.append_assoc, List.cons_append]
  | cons p ps ih => exact isSpaced_cons.2 ⟨[' '], _, rfl, ih⟩

/-- The gap before a piece may end with a letter. -/
theorem isSpaced_letter_before (ps : List (List Char)) (piece : List Char)
    (qs : List (List Char)) :
    IsSpaced (ps ++ piece :: qs) ((ps ++ ('a' :: piece) :: qs).flatMap (' ' :: ·)) := by
  induction ps with
  | nil => exact isSpaced_cons.2 ⟨[' ', 'a'], _, rfl, isSpaced_blanks qs⟩
  | cons p ps ih => exact isSpaced_cons.2 ⟨[' '], _, rfl, ih⟩

section NeverMissed

variable {opening : List Char} {pieces : List (List Char)}
  (found : ∀ rest, IsSpaced pieces rest →
    IsSpaced ((opening :: pieces).map lower) (lower (opening ++ rest)))

include found

/-- A text that is made of the pieces has no fewer of a character, in lower case, than the pieces. -/
theorem sum_count_le_of_never_missed {x : Char} (notBlank : x ≠ ' ') {rest : List Char}
    (made : IsSpaced pieces rest) (opening' : List Char) (pieces' : List (List Char))
    (blanks : opening ++ rest = blanked opening' pieces') :
    (lower opening).count x + (pieces.map fun p => (lower p).count x).sum ≤
      (lower opening').count x + (pieces'.map fun p => (lower p).count x).sum := by
  have counts := count_le_of_isSpaced (x := x) (found rest made)
  rw [blanks, lower_blanked, count_blanked notBlank, List.map_map, List.map_map, List.map_cons,
    List.sum_cons] at counts
  exact counts

/-- If the pieces in lower case are in every text that is made of the pieces, the opening keeps its
sigmas before a letter, unless it is all there is. -/
theorem opening_keepsSigmas_of_never_missed : pieces = [] ∨ KeepsSigmas [] opening ['a'] := by
  cases pieces with
  | nil => exact .inl rfl
  | cons next qs =>
    have made := (isSpaced_blanks (next :: qs)).of_suffix (List.suffix_cons 'a' _)
    have counts := sum_count_le_of_never_missed found (show 'ς' ≠ ' ' by decide) made
      (opening ++ ['a']) (next :: qs) (by rw [blanked, List.append_assoc]; rfl)
    exact .inr (keepsSigmas_before_letter (Nat.le_of_add_le_add_right counts))

/-- Each other piece keeps its sigmas behind a letter, and, unless it is the last one, before a
letter. -/
theorem piece_keepsSigmas_of_never_missed {ps qs : List (List Char)} {piece : List Char}
    (split : pieces = ps ++ piece :: qs) :
    KeepsSigmas ['a'] piece [] ∧ (qs = [] ∨ KeepsSigmas [] piece ['a']) := by
  subst split
  constructor
  · have counts := sum_count_le_of_never_missed found (show 'σ' ≠ ' ' by decide)
      (isSpaced_letter_before ps piece qs) opening _ rfl
    simp only [List.map_append, List.map_cons, List.sum_append, List.sum_cons] at counts
    exact keepsSigmas_behind_letter (by omega)
  · cases qs with
    | nil => exact .inl rfl
    | cons next qs =>
      have counts := sum_count_le_of_never_missed found (show 'ς' ≠ ' ' by decide)
        (isSpaced_letter_after ps piece next qs) opening _ rfl
      simp only [List.map_append, List.map_cons, List.sum_append, List.sum_cons] at counts
      exact .inr (keepsSigmas_before_letter (by omega))

omit found in
theorem piecesKeepSigmas_of_letters {before : List Char} (gaps : List (List Char))
    (letters : ∀ ps piece qs, pieces = ps ++ piece :: qs →
      KeepsSigmas ['a'] piece [] ∧ (qs = [] ∨ KeepsSigmas [] piece ['a'])) :
    PiecesKeepSigmas before gaps pieces := by
  induction pieces generalizing before gaps with
  | nil => cases gaps <;> trivial
  | cons piece pieces ih =>
    cases gaps with
    | nil => trivial
    | cons gap gaps =>
      obtain ⟨behind, ahead⟩ := letters [] piece pieces rfl
      refine ⟨keepsSigmas_of_letters (.inr behind) ?_, ih gaps fun ps p qs split => ?_⟩
      · rcases ahead with rfl | ahead
        · exact .inl (spaced_nil gaps)
        · exact .inr ahead
      · exact letters (piece :: ps) p qs (by rw [split]; rfl)

/-- If the pieces in lower case are in every text that is made of the pieces, all pieces keep their
sigmas in all these texts. -/
theorem piecesKeepSigmas_of_never_missed (gaps : List (List Char)) :
    PiecesKeepSigmas [] ([] :: gaps) (opening :: pieces) := by
  refine ⟨keepsSigmas_of_letters (.inl rfl) ?_, piecesKeepSigmas_of_letters gaps fun ps piece qs =>
    piece_keepsSigmas_of_never_missed found⟩
  rcases opening_keepsSigmas_of_never_missed found with rfl | ahead
  · exact .inl (spaced_nil gaps)
  · exact .inr ahead

end NeverMissed

end RecordQuery.Text
