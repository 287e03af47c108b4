import RecordQuery.Text.Case
import Mathlib.Data.Set.Basic

/-!
What putting a text into lower case does to the parts of the text. Only a capital sigma looks at what
stands around it, so a part is lowered in the same way at two places exactly if its capital sigmas
have the same forms there (`lowerBetween_eq_iff`). A character that is neither cased nor ignored for
case, such as a blank or a star, separates a text: what is before it and what is after it are
lowered as they are alone (`lower_append_separator`).

Compared with the lower case of the characters one by one, the lower case of the whole text has final
sigmas in the places of `finalSigmas`, and is the same in all others
(`getElem?_lower_of_mem_finalSigmas`, `getElem?_lower_of_not_mem_finalSigmas`).
-/

namespace RecordQuery.Text

/-! ## Single characters -/

/-- A code point either stays or moves with the run that it is in. -/
theorem shift_eq_or (n : Nat) (runs : List CaseRun) :
    CaseRun.shift n runs = n ∨
      ∃ r ∈ runs, r.first ≤ n ∧ CaseRun.shift n runs = (n + r.offset).toNat := by
  induction runs with
  | nil => exact .inl rfl
  | cons r runs ih =>
    unfold CaseRun.shift
    split
    · exact .inl rfl
    rename_i reached
    split
    · rcases ih with stays | ⟨r', mem, inRun, moves⟩
      · exact .inl stays
      · exact .inr ⟨r', List.mem_cons_of_mem _ mem, inRun, moves⟩
    split
    · exact .inr ⟨r, List.mem_cons_self, Nat.le_of_not_lt reached, rfl⟩
    · exact .inl rfl

/-- A number that is no code point stands for the character 0. -/
theorem toNat_ofNat (n : Nat) : (Char.ofNat n).toNat = n ∨ (Char.ofNat n).toNat = 0 := by
  by_cases valid : n.isValidChar
  · left
    rw [Char.ofNat, dif_pos valid]
    rfl
  · right
    rw [Char.ofNat, dif_neg valid]
    rfl

theorem lowerChar_sigma : lowerChar 'Σ' = ['σ'] := by decide +kernel

theorem lowerChar_star : lowerChar '*' = ['*'] := by decide +kernel

/-- Outside ASCII, no code point moves down to that of the star. -/
theorem star_lt_shift {n : Nat} (notAscii : 0x80 ≤ n) :
    '*'.toNat < CaseRun.shift n CaseTable.lowerRuns := by
  have runs : ∀ r ∈ CaseTable.lowerRuns, ('*'.toNat : Int) < r.first + r.offset := by
    decide +kernel
  have star : '*'.toNat = 0x2A := rfl
  rcases shift_eq_or n CaseTable.lowerRuns with stays | ⟨r, mem, inRun, moves⟩
  · omega
  · have := runs r mem
    omega

/-- No other character becomes a star. -/
theorem star_mem_lowerChar {c : Char} : '*' ∈ lowerChar c ↔ c = '*' := by
  constructor
  · intro mem
    unfold lowerChar at mem
    split at mem
    case isTrue ascii =>
      have onAscii : ∀ n < 0x80, '*' = (Char.ofNat n).toLower → Char.ofNat n = '*' := by
        decide +kernel
      have same := onAscii c.toNat ascii
      rw [Char.ofNat_toNat] at same
      exact same (List.mem_singleton.1 mem)
    case isFalse notAscii =>
      split at mem
      · exact absurd mem (by decide)
      · have above := star_lt_shift (Nat.le_of_not_lt notAscii)
        rcases toNat_ofNat (CaseRun.shift c.toNat CaseTable.lowerRuns) with valid | invalid
        · rw [← List.mem_singleton.1 mem] at valid
          omega
        · rw [← List.mem_singleton.1 mem] at invalid
          cases invalid
  · rintro rfl
    rw [lowerChar_star]
    exact List.mem_singleton_self _

/-! ## What stands around a capital sigma -/

/-- Whether the last character that is not ignored for case is a cased one. -/
def endsCased (s : List Char) : Bool := startsCased s.reverse

/-- Whether a capital sigma between two texts takes its final form. -/
def sigmaIsFinal (before after : List Char) : Bool := endsCased before && !startsCased after

theorem startsCased_append (s t : List Char) :
    startsCased (s ++ t) = if s.all isCaseIgnorable then startsCased t else startsCased s := by
  induction s with
  | nil => rfl
  | cons c s ih =>
    cases ignored : isCaseIgnorable c with
    | true =>
      have skip : ∀ rest, startsCased (c :: rest) = startsCased rest := by
        intro rest
        unfold startsCased
        rw [List.dropWhile_cons_of_pos ignored]
      rw [List.cons_append, skip, skip, ih, List.all_cons, ignored, Bool.true_and]
    | false =>
      have decides : ∀ rest, startsCased (c :: rest) = isCased c := by
        intro rest
        unfold startsCased
        rw [List.dropWhile_cons_of_neg (by rw [ignored]; exact Bool.false_ne_true)]
      rw [List.cons_append, decides, decides, List.all_cons, ignored, Bool.false_and]
      rfl

theorem endsCased_append (s t : List Char) :
    endsCased (s ++ t) = if t.all isCaseIgnorable then endsCased s else endsCased t := by
  rw [endsCased, List.reverse_append, startsCased_append, List.all_reverse]
  rfl

theorem endsCased_append_singleton (s : List Char) (c : Char) :
    endsCased (s ++ [c]) = if isCaseIgnorable c then endsCased s else isCased c := by
  rw [endsCased_append, List.all_cons, List.all_nil, Bool.and_true]
  cases ignored : isCaseIgnorable c with
  | true => rfl
  | false =>
    have decides : endsCased [c] = isCased c := by
      unfold endsCased startsCased
      rw [List.reverse_singleton, List.dropWhile_cons_of_neg (by rw [ignored]; exact Bool.false_ne_true)]
    rw [decides]

theorem not_startsCased_of_all {s : List Char} (ignored : s.all isCaseIgnorable = true) :
    startsCased s = false := by
  have nothing := startsCased_append s []
  rw [List.append_nil, ignored, if_pos rfl] at nothing
  exact nothing

theorem not_endsCased_of_all {s : List Char} (ignored : s.all isCaseIgnorable = true) :
    endsCased s = false :=
  not_startsCased_of_all (by rw [List.all_reverse, ignored])

theorem startsCased_append_of_startsCased {s : List Char} (cased : startsCased s = true)
    (t : List Char) : startsCased (s ++ t) = true := by
  rw [startsCased_append, if_neg, cased]
  intro ignored
  rw [not_startsCased_of_all ignored] at cased
  cases cased

theorem endsCased_append_of_endsCased (s : List Char) {t : List Char}
    (cased : endsCased t = true) : endsCased (s ++ t) = true := by
  rw [endsCased, List.reverse_append]
  exact startsCased_append_of_startsCased cased s.reverse

/-- A character that is neither cased nor ignored for case. -/
def IsSeparator (c : Char) : Prop := isCased c = false ∧ isCaseIgnorable c = false

instance : DecidablePred IsSeparator := fun c =>
  inferInstanceAs (Decidable (isCased c = false ∧ isCaseIgnorable c = false))

theorem startsCased_append_separator {c : Char} (separator : IsSeparator c) (s t : List Char) :
    startsCased (s ++ c :: t) = startsCased s := by
  have notCased : startsCased (c :: t) = false := by
    unfold startsCased
    rw [List.dropWhile_cons_of_neg (by rw [separator.2]; exact Bool.false_ne_true)]
    exact separator.1
  rw [startsCased_append, notCased]
  split
  case isTrue ignored => exact (not_startsCased_of_all ignored).symm
  case isFalse => rfl

theorem endsCased_append_separator {c : Char} (separator : IsSeparator c) (s t : List Char) :
    endsCased (s ++ c :: t) = endsCased t := by
  unfold endsCased
  rw [List.reverse_append, List.reverse_cons, List.append_assoc, List.singleton_append,
    startsCased_append_separator separator]

/-! ## Parts of a text -/

/-- The lower case of a part of a text, between what is before it and what is after it. -/
def lowerBetween (before after : List Char) : List Char → List Char
  | [] => []
  | c :: rest =>
    lowerIn (endsCased before) c (rest ++ after) ++ lowerBetween (before ++ [c]) after rest

theorem lowerIn_eq (before : List Char) (c : Char) (after : List Char) :
    lowerIn (endsCased before) c after =
      if c = 'Σ' ∧ sigmaIsFinal before after = true then ['ς'] else lowerChar c := by
  unfold lowerIn
  by_cases sigma : c = 'Σ'
  · subst sigma
    rw [if_pos rfl, lowerChar_sigma]
    simp only [true_and]
    rfl
  · rw [if_neg sigma, if_neg (mt And.left sigma)]

theorem lowerOnto_eq (done before s : List Char) :
    lowerOnto done (endsCased before) s = done.reverse ++ lowerBetween before [] s := by
  induction s generalizing done before with
  | nil => rw [lowerOnto, lowerBetween, List.append_nil]
  | cons c s ih =>
    rw [lowerOnto, lowerBetween, ← endsCased_append_singleton, ih, List.reverse_append,
      List.reverse_reverse, List.append_assoc, List.append_nil]

theorem lower_eq_lowerBetween (s : List Char) : lower s = lowerBetween [] [] s :=
  lowerOnto_eq [] [] s

theorem lowerBetween_append (before after s t : List Char) :
    lowerBetween before after (s ++ t) =
      lowerBetween before (t ++ after) s ++ lowerBetween (before ++ s) after t := by
  induction s generalizing before with
  | nil => rw [List.nil_append, List.append_nil, lowerBetween, List.nil_append]
  | cons c s ih =>
    rw [List.cons_append, lowerBetween, lowerBetween, ih, List.append_assoc, List.append_assoc,
      List.append_assoc, List.singleton_append]

/-- Every place of a capital sigma in a text is the first one or a place in the rest. -/
theorem forall_sigma_cons {c : Char} {s : List Char} {P : List Char → List Char → Prop} :
    (∀ p q, c :: s = p ++ 'Σ' :: q → P p q) ↔
      (c = 'Σ' → P [] s) ∧ ∀ p q, s = p ++ 'Σ' :: q → P (c :: p) q := by
  constructor
  · intro all
    refine ⟨fun sigma => all [] s (by rw [sigma]; rfl), fun p q split => ?_⟩
    exact all (c :: p) q (by rw [split]; rfl)
  · rintro ⟨first, rest⟩ p q split
    cases p with
    | nil =>
      obtain ⟨sigma, rfl⟩ := List.cons.inj split
      exact first sigma
    | cons d p =>
      obtain ⟨rfl, split'⟩ := List.cons.inj split
      exact rest p q split'

theorem length_lowerIn (before : List Char) (c : Char) (after : List Char) :
    (lowerIn (endsCased before) c after).length = (lowerChar c).length := by
  rw [lowerIn_eq]
  split
  case isTrue final =>
    rw [final.1, lowerChar_sigma]
    rfl
  case isFalse => rfl

/-- A part is lowered in the same way at two places exactly if its capital sigmas have the same
forms there. -/
theorem lowerBetween_eq_iff {u v u' v' s : List Char} :
    lowerBetween u v s = lowerBetween u' v' s ↔
      ∀ p q, s = p ++ 'Σ' :: q →
        sigmaIsFinal (u ++ p) (q ++ v) = sigmaIsFinal (u' ++ p) (q ++ v') := by
  induction s generalizing u u' with
  | nil => simp [lowerBetween]
  | cons c s ih =>
    have sameLength := (length_lowerIn u c (s ++ v)).trans (length_lowerIn u' c (s ++ v')).symm
    have first : lowerIn (endsCased u) c (s ++ v) = lowerIn (endsCased u') c (s ++ v') ↔
        (c = 'Σ' → sigmaIsFinal u (s ++ v) = sigmaIsFinal u' (s ++ v')) := by
      rw [lowerIn_eq, lowerIn_eq]
      by_cases sigma : c = 'Σ'
      · subst sigma
        rw [lowerChar_sigma]
        cases sigmaIsFinal u (s ++ v) <;> cases sigmaIsFinal u' (s ++ v') <;> decide
      · simp only [sigma, false_and, if_false, false_imp_iff]
    have parts : lowerBetween u v (c :: s) = lowerBetween u' v' (c :: s) ↔
        lowerIn (endsCased u) c (s ++ v) = lowerIn (endsCased u') c (s ++ v') ∧
          lowerBetween (u ++ [c]) v s = lowerBetween (u' ++ [c]) v' s :=
      ⟨fun same => List.append_inj same sameLength, fun ⟨left, right⟩ => congrArg₂ _ left right⟩
    rw [forall_sigma_cons, parts, first, ih]
    simp only [List.append_nil, List.append_assoc, List.singleton_append]

theorem star_mem_lower {s : List Char} : '*' ∈ lower s ↔ '*' ∈ s := by
  rw [lower_eq_lowerBetween]
  suffices ∀ before, '*' ∈ lowerBetween before [] s ↔ '*' ∈ s from this []
  induction s with
  | nil => exact fun _ => Iff.rfl
  | cons c s ih =>
    intro before
    have first : '*' ∈ lowerIn (endsCased before) c (s ++ []) ↔ '*' = c := by
      rw [lowerIn_eq]
      split
      case isTrue final =>
        rw [final.1]
        decide
      case isFalse => rw [star_mem_lowerChar, eq_comm]
    rw [lowerBetween, List.mem_append, first, ih, List.mem_cons]

/-- What is before a separator and what is after it are lowered as they are alone. -/
theorem lower_append_separator {c : Char} (separator : IsSeparator c) (s t : List Char) :
    lower (s ++ c :: t) = lower s ++ lowerChar c ++ lower t := by
  have notSigma : c ≠ 'Σ' := by
    rintro rfl
    exact absurd separator (by decide +kernel)
  have left : lowerBetween [] (c :: t) s = lowerBetween [] [] s := by
    refine lowerBetween_eq_iff.2 fun p q _ => ?_
    unfold sigmaIsFinal
    rw [startsCased_append_separator separator, List.append_nil]
  have right : lowerBetween (s ++ [c]) [] t = lowerBetween [] [] t := by
    refine lowerBetween_eq_iff.2 fun p q _ => ?_
    unfold sigmaIsFinal
    rw [List.append_assoc, List.singleton_append, endsCased_append_separator separator,
      List.nil_append]
  have middle : lowerIn (endsCased s) c (t ++ []) = lowerChar c := by
    rw [lowerIn_eq, if_neg (mt And.left notSigma)]
  rw [lower_eq_lowerBetween, lower_eq_lowerBetween, lower_eq_lowerBetween, lowerBetween_append,
    List.append_nil, List.nil_append, left, lowerBetween, middle, right, List.append_assoc]

theorem isSeparator_star : IsSeparator '*' := by decide +kernel

/-- The pieces between the stars are lowered as they are alone. -/
theorem splitOn_lower (s : List Char) : (lower s).splitOn '*' = (s.splitOn '*').map lower := by
  induction length : s.length using Nat.strongRecOn generalizing s with
  | ind n ih =>
    by_cases star : '*' ∈ s
    · obtain ⟨before, after, rfl⟩ := List.append_of_mem star
      rw [List.length_append, List.length_cons] at length
      have left := ih before.length (by omega) before rfl
      have right := ih after.length (by omega) after rfl
      rw [lower_append_separator isSeparator_star, lowerChar_star, List.append_assoc,
        List.singleton_append, List.splitOn_append_cons_self, List.splitOn_append_cons_self, left,
        right, List.map_append]
    · rw [List.splitOn_eq_singleton star, List.splitOn_eq_singleton (mt star_mem_lower.1 star)]
      rfl

/-! ## The lower case of single characters -/

/-- The places in the lower case of a text at which a capital sigma has its final form. -/
def finalSigmas (s : List Char) : Set Nat :=
  {i | ∃ p q, s = p ++ 'Σ' :: q ∧ sigmaIsFinal p q = true ∧ i = (fold p).length}

theorem fold_append_sigma (p q : List Char) : fold (p ++ 'Σ' :: q) = fold p ++ 'σ' :: fold q := by
  rw [fold, List.flatMap_append, List.flatMap_cons, lowerChar_sigma]
  rfl

theorem length_lowerBetween (before after s : List Char) :
    (lowerBetween before after s).length = (fold s).length := by
  induction s generalizing before with
  | nil => rfl
  | cons c s ih =>
    rw [lowerBetween, fold, List.flatMap_cons, List.length_append, List.length_append,
      length_lowerIn, ih]
    rfl

theorem length_lower (s : List Char) : (lower s).length = (fold s).length := by
  rw [lower_eq_lowerBetween, length_lowerBetween]

theorem getElem?_fold_of_mem_finalSigmas {s : List Char} {i : Nat} (mem : i ∈ finalSigmas s) :
    (fold s)[i]? = some 'σ' := by
  obtain ⟨p, q, rfl, -, rfl⟩ := mem
  rw [fold_append_sigma, List.getElem?_append_right (Nat.le_refl _), Nat.sub_self]
  rfl

theorem getElem?_lower_of_mem_finalSigmas {s : List Char} {i : Nat} (mem : i ∈ finalSigmas s) :
    (lower s)[i]? = some 'ς' := by
  obtain ⟨p, q, rfl, final, rfl⟩ := mem
  have sigma : lowerIn (endsCased ([] ++ p)) 'Σ' (q ++ []) = ['ς'] := by
    rw [lowerIn_eq, List.nil_append, List.append_nil, if_pos ⟨rfl, final⟩]
  have length := length_lowerBetween [] ('Σ' :: q ++ []) p
  rw [lower_eq_lowerBetween, lowerBetween_append, lowerBetween, sigma,
    List.getElem?_append_right (Nat.le_of_eq length), length, Nat.sub_self]
  rfl

theorem getElem?_lowerBetween_of_not_final {before s : List Char} {i : Nat}
    (notFinal : ∀ p q, s = p ++ 'Σ' :: q → i = (fold p).length →
      sigmaIsFinal (before ++ p) q = false) :
    (lowerBetween before [] s)[i]? = (fold s)[i]? := by
  induction s generalizing before i with
  | nil => rfl
  | cons c s ih =>
    obtain ⟨first, rest⟩ := forall_sigma_cons.1 notFinal
    have length := length_lowerIn before c (s ++ [])
    have parts : fold (c :: s) = lowerChar c ++ fold s := rfl
    rw [lowerBetween, parts]
    rcases Nat.lt_or_ge i (lowerChar c).length with here | behind
    · rw [List.getElem?_append_left (by omega), List.getElem?_append_left here, lowerIn_eq, if_neg]
      rintro ⟨rfl, final⟩
      rw [lowerChar_sigma, List.length_singleton] at here
      rw [List.append_nil] at first final
      rw [first rfl (Nat.lt_one_iff.1 here)] at final
      cases final
    · rw [List.getElem?_append_right (by omega), List.getElem?_append_right behind, length]
      apply ih
      intro p q split place
      rw [List.append_assoc]
      apply rest p q split
      have parts : fold (c :: p) = lowerChar c ++ fold p := rfl
      rw [parts, List.length_append]
      omega

/-- Where no capital sigma is final, both lower cases have the same character. -/
theorem getElem?_lower_of_not_mem_finalSigmas {s : List Char} {i : Nat}
    (notMem : i ∉ finalSigmas s) : (lower s)[i]? = (fold s)[i]? := by
  rw [lower_eq_lowerBetween]
  apply getElem?_lowerBetween_of_not_final
  intro p q split place
  rw [List.nil_append, Bool.eq_false_iff]
  exact fun final => notMem ⟨p, q, split, final, place⟩

/-- Texts that are the same in the lower case of their characters are the same in lower case exactly
if their capital sigmas are final in the same places. -/
theorem lower_eq_lower_iff {s t : List Char} (sameFold : fold s = fold t) :
    lower s = lower t ↔ finalSigmas s = finalSigmas t := by
  constructor
  · -- At the place of a final sigma of one text only, the other one has a plain sigma.
    suffices ∀ {s t}, fold s = fold t → lower s = lower t → finalSigmas s ⊆ finalSigmas t from
      fun same => Set.Subset.antisymm (this sameFold same) (this sameFold.symm same.symm)
    intro s t sameFold same i mem
    by_contra notMem
    have final := getElem?_lower_of_mem_finalSigmas mem
    rw [same, getElem?_lower_of_not_mem_finalSigmas notMem, ← sameFold,
      getElem?_fold_of_mem_finalSigmas mem] at final
    exact absurd final (by decide)
  · intro samePlaces
    apply List.ext_getElem?
    intro i
    by_cases mem : i ∈ finalSigmas s
    · rw [getElem?_lower_of_mem_finalSigmas mem, getElem?_lower_of_mem_finalSigmas (samePlaces ▸ mem)]
    · rw [getElem?_lower_of_not_mem_finalSigmas mem,
        getElem?_lower_of_not_mem_finalSigmas (samePlaces ▸ mem), sameFold]

end RecordQuery.Text
