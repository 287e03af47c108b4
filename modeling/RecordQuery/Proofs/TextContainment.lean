import RecordQuery.Proofs.PatternMeaning
import RecordQuery.Proofs.SigmaForms
import RecordQuery.Value

/-!
Which texts contain which. A text value contains another one that occurs in it, if the capital sigmas
have the same forms in both texts (`Value.contains_verbatim_of_keepsSigmas`). The forms are decided in
each text on its own, so an occurrence whose last sigma is final in the needle only is missed.

The order of texts knows no final sigmas. Texts that are equal in order contain each other exactly
if they have their final sigmas in the same places (`Value.contains_iff_of_compare?_eq`).
-/

namespace RecordQuery.Value

variable {haystack needle : String}

theorem contains_text_iff_of_plain (plain : '*' ∉ needle.toList) :
    (Value.text haystack).contains (.text needle) = true ↔
      Text.lower needle.toList <:+: Text.lower haystack.toList := by
  have lowered : '*' ∉ Text.lower needle.toList := mt Text.star_mem_lower.1 plain
  refine Pattern.acceptsLower_ofLower_iff.trans ?_
  simp only [lowered, not_false_eq_true, true_and, false_and, or_false]

theorem contains_text_iff_of_star {opening : List Char} {pieces : List (List Char)}
    (star : '*' ∈ needle.toList)
    (fits : Pattern.preparedSize (Text.lower needle.toList) ≤ Pattern.sizeLimit)
    (split : needle.toList.splitOn '*' = opening :: pieces) :
    (Value.text haystack).contains (.text needle) = true ↔
      ∃ rest, Text.lower haystack.toList = Text.lower opening ++ rest ∧
        Text.IsSpaced (pieces.map Text.lower) rest := by
  have lowered : '*' ∈ Text.lower needle.toList := Text.star_mem_lower.2 star
  refine Pattern.acceptsLower_ofLower_iff.trans ?_
  simp only [lowered, not_true_eq_false, false_and, fits, true_and, false_or, Text.splitOn_lower,
    split, List.map_cons, List.length_cons, Nat.add_right_cancel_iff, Text.spaced_cons,
    List.nil_append]
  constructor
  · rintro ⟨gaps, length, whole⟩
    exact ⟨_, whole, gaps, length, rfl⟩
  · rintro ⟨_, whole, gaps, length, rfl⟩
    exact ⟨gaps, length, whole⟩

/-! ## Verbatim occurrences -/

/-- A text without stars is found where it keeps its sigmas. -/
theorem contains_of_keepsSigmas {before after : List Char} (plain : '*' ∉ needle.toList)
    (occurs : haystack.toList = before ++ needle.toList ++ after)
    (keeps : Text.KeepsSigmas before needle.toList after) :
    (Value.text haystack).contains (.text needle) = true := by
  rw [contains_text_iff_of_plain plain, occurs, Text.lower_eq_lowerBetween (_ ++ _),
    Text.lowerBetween_append, Text.lowerBetween_append, List.append_nil, List.nil_append,
    Text.lowerBetween_eq_lower_iff.2 keeps]
  exact ⟨_, _, rfl⟩

/-- A text without stars that is found wherever it occurs keeps its sigmas everywhere. -/
theorem keepsSigmas_of_contains (plain : '*' ∉ needle.toList)
    (found : ∀ haystack : String, needle.toList <:+: haystack.toList →
      (Value.text haystack).contains (.text needle) = true)
    (before after : List Char) : Text.KeepsSigmas before needle.toList after := by
  have everywhere (rest : List Char) (made : Text.IsSpaced [needle.toList, []] rest) :
      Text.IsSpaced ([[], needle.toList, []].map Text.lower) (Text.lower ([] ++ rest)) := by
    obtain ⟨front, back, rfl, -⟩ := Text.isSpaced_cons.1 made
    have contained := found (String.ofList (front ++ needle.toList ++ back))
      (by rw [String.toList_ofList]; exact ⟨front, back, rfl⟩)
    rw [contains_text_iff_of_plain plain, String.toList_ofList] at contained
    obtain ⟨left, right, whole⟩ := contained
    rw [List.nil_append, ← whole]
    have closing : Text.IsSpaced [Text.lower []] right :=
      Text.isSpaced_singleton.2 List.nil_suffix
    exact Text.isSpaced_cons.2 ⟨[], _, rfl, Text.isSpaced_cons.2 ⟨left, right, rfl, closing⟩⟩
  obtain ⟨-, keeps, -⟩ := Text.piecesKeepSigmas_of_never_missed everywhere [before, after]
  simpa using keeps

section Star

variable {gaps : List (List Char)} (star : '*' ∈ needle.toList)
  (fits : Pattern.preparedSize (Text.lower needle.toList) ≤ Pattern.sizeLimit)

include star fits

/-- A text with stars is found where its pieces keep their sigmas. -/
theorem contains_of_piecesKeepSigmas
    (length : gaps.length + 1 = (needle.toList.splitOn '*').length)
    (filled : haystack.toList = Text.spaced ([] :: gaps) (needle.toList.splitOn '*'))
    (keep : Text.PiecesKeepSigmas [] ([] :: gaps) (needle.toList.splitOn '*')) :
    (Value.text haystack).contains (.text needle) = true := by
  obtain ⟨opening, others, split⟩ :=
    List.exists_cons_of_ne_nil (List.splitOn_ne_nil '*' needle.toList)
  rw [split] at length filled keep
  rw [contains_text_iff_of_star star fits split, filled]
  exact Text.lower_spaced (Nat.succ.inj length) keep

/-- If a text with stars is found whatever stands for the stars, its pieces always keep their
sigmas. -/
theorem piecesKeepSigmas_of_contains
    (found : ∀ (haystack : String) (gaps : List (List Char)),
      gaps.length + 1 = (needle.toList.splitOn '*').length →
      haystack.toList = Text.spaced ([] :: gaps) (needle.toList.splitOn '*') →
      (Value.text haystack).contains (.text needle) = true) :
    Text.PiecesKeepSigmas [] ([] :: gaps) (needle.toList.splitOn '*') := by
  obtain ⟨opening, others, split⟩ :=
    List.exists_cons_of_ne_nil (List.splitOn_ne_nil '*' needle.toList)
  rw [split] at found ⊢
  refine Text.piecesKeepSigmas_of_never_missed (fun rest made => ?_) gaps
  obtain ⟨gaps', length, rfl⟩ := made
  have contained := found (String.ofList (opening ++ Text.spaced gaps' others)) gaps'
    (congrArg Nat.succ length) String.toList_ofList
  rw [contains_text_iff_of_star star fits split, String.toList_ofList] at contained
  obtain ⟨rest, whole, isSpaced⟩ := contained
  rw [whole]
  exact Text.isSpaced_cons.2 ⟨[], rest, rfl, isSpaced⟩

end Star

/-- A text is found where it occurs verbatim, with anything in place of its stars, if its capital
sigmas have the forms there that they have in the text itself. Texts whose sigmas may change their
forms are missed in some of the texts in which they occur. -/
theorem contains_verbatim_of_keepsSigmas (needle : String) :
    ('*' ∉ needle.toList →
      (∀ (haystack : String) (before after : List Char),
        haystack.toList = before ++ needle.toList ++ after →
        Text.KeepsSigmas before needle.toList after →
        (Value.text haystack).contains (.text needle) = true) ∧
      ((∀ haystack : String, needle.toList <:+: haystack.toList →
          (Value.text haystack).contains (.text needle) = true) ↔
        ∀ before after, Text.KeepsSigmas before needle.toList after)) ∧
    ('*' ∈ needle.toList →
      Pattern.preparedSize (Text.lower needle.toList) ≤ Pattern.sizeLimit →
      (∀ (haystack : String) (gaps : List (List Char)),
        gaps.length + 1 = (needle.toList.splitOn '*').length →
        haystack.toList = Text.spaced ([] :: gaps) (needle.toList.splitOn '*') →
        Text.PiecesKeepSigmas [] ([] :: gaps) (needle.toList.splitOn '*') →
        (Value.text haystack).contains (.text needle) = true) ∧
      ((∀ (haystack : String) (gaps : List (List Char)),
          gaps.length + 1 = (needle.toList.splitOn '*').length →
          haystack.toList = Text.spaced ([] :: gaps) (needle.toList.splitOn '*') →
          (Value.text haystack).contains (.text needle) = true) ↔
        ∀ gaps, Text.PiecesKeepSigmas [] ([] :: gaps) (needle.toList.splitOn '*'))) := by
  refine ⟨fun plain => ⟨fun haystack before after => contains_of_keepsSigmas plain, ?_⟩,
    fun star fits => ⟨fun haystack gaps => contains_of_piecesKeepSigmas star fits, ?_⟩⟩
  · refine ⟨keepsSigmas_of_contains plain, ?_⟩
    rintro keeps haystack ⟨before, after, whole⟩
    exact contains_of_keepsSigmas plain whole.symm (keeps before after)
  · refine ⟨fun found gaps => piecesKeepSigmas_of_contains star fits found, ?_⟩
    intro keep haystack gaps length filled
    exact contains_of_piecesKeepSigmas star fits length filled (keep gaps)

/-- A street is found by its name, which ends in a final sigma both in the text and alone, also with a
house number behind a star. -/
theorem contains_verbatim_of_street :
    '*' ∉ "ΟΔΟΣ".toList ∧ "Η ΟΔΟΣ, 15".toList = "Η ".toList ++ "ΟΔΟΣ".toList ++ ", 15".toList ∧
      Text.KeepsSigmas "Η ".toList "ΟΔΟΣ".toList ", 15".toList ∧
      (Value.text "Η ΟΔΟΣ, 15").contains (.text "ΟΔΟΣ") = true ∧
      '*' ∈ "ΟΔΟΣ*5".toList ∧
      Pattern.preparedSize (Text.lower "ΟΔΟΣ*5".toList) ≤ Pattern.sizeLimit ∧
      "ΟΔΟΣ, 15".toList = Text.spaced [[], ", 1".toList] ("ΟΔΟΣ*5".toList.splitOn '*') ∧
      Text.PiecesKeepSigmas [] [[], ", 1".toList] ("ΟΔΟΣ*5".toList.splitOn '*') ∧
      (Value.text "ΟΔΟΣ, 15").contains (.text "ΟΔΟΣ*5") = true := by
  have plain : '*' ∉ "ΟΔΟΣ".toList := by decide
  have occurs : "Η ΟΔΟΣ, 15".toList = "Η ".toList ++ "ΟΔΟΣ".toList ++ ", 15".toList := by decide
  have keeps : Text.KeepsSigmas "Η ".toList "ΟΔΟΣ".toList ", 15".toList :=
    Text.lowerBetween_eq_lower_iff.1 (by decide +kernel)
  have found := ((contains_verbatim_of_keepsSigmas "ΟΔΟΣ").1 plain).1 _ _ _ occurs keeps
  have star : '*' ∈ "ΟΔΟΣ*5".toList := by decide
  have fits : Pattern.preparedSize (Text.lower "ΟΔΟΣ*5".toList) ≤ Pattern.sizeLimit := by
    decide +kernel
  have split : "ΟΔΟΣ*5".toList.splitOn '*' = ["ΟΔΟΣ".toList, "5".toList] := by decide +kernel
  have filled : "ΟΔΟΣ, 15".toList =
      Text.spaced [[], ", 1".toList] ("ΟΔΟΣ*5".toList.splitOn '*') := by
    decide +kernel
  have length : [", 1".toList].length + 1 = ("ΟΔΟΣ*5".toList.splitOn '*').length := by
    rw [split]
    rfl
  have keep : Text.PiecesKeepSigmas [] [[], ", 1".toList] ("ΟΔΟΣ*5".toList.splitOn '*') := by
    rw [split]
    exact ⟨Text.lowerBetween_eq_lower_iff.1 (by decide +kernel),
      Text.lowerBetween_eq_lower_iff.1 (by decide +kernel), trivial⟩
  have found' :=
    ((contains_verbatim_of_keepsSigmas "ΟΔΟΣ*5").2 star fits).1 _ _ length filled keep
  exact ⟨plain, occurs, keeps, found, star, fits, filled, keep, found'⟩

/-- The sigma that ends a text alone is no final one where the word goes on. -/
theorem not_contains_verbatim :
    ¬ ∀ haystack needle : String, '*' ∉ needle.toList → needle.toList <:+: haystack.toList →
      (Value.text haystack).contains (.text needle) = true := by
  intro found
  have occurs : "ΑΣ".toList <:+: "ΑΣΑ".toList := ⟨[], ['Α'], by decide⟩
  have contained := found "ΑΣΑ" "ΑΣ" (by decide) occurs
  revert contained
  decide +kernel

/-! ## Texts that are equal in order -/

theorem compare?_text_eq_iff {a b : String} :
    (Value.text a).compare? (.text b) = some .eq ↔ Text.fold a.toList = Text.fold b.toList := by
  rw [compare?, Option.some.injEq, compareText, Std.LawfulEqCmp.compare_eq_iff_eq]

/-- Texts that are equal in order contain each other exactly if their capital sigmas are final in the
same places. -/
theorem contains_iff_of_compare?_eq {a b : String} (plainA : '*' ∉ a.toList)
    (plainB : '*' ∉ b.toList) (equal : (Value.text a).compare? (.text b) = some .eq) :
    ((Value.text a).contains (.text b) = true ↔
        Text.finalSigmas a.toList = Text.finalSigmas b.toList) ∧
      ((Value.text b).contains (.text a) = true ↔
        Text.finalSigmas a.toList = Text.finalSigmas b.toList) := by
  have sameFold := compare?_text_eq_iff.1 equal
  have sameLength : (Text.lower a.toList).length = (Text.lower b.toList).length := by
    rw [Text.length_lower, Text.length_lower, sameFold]
  rw [contains_text_iff_of_plain plainA, contains_text_iff_of_plain plainB,
    ← Text.lower_eq_lower_iff sameFold]
  constructor
  · constructor
    · intro infixed
      exact (infixed.eq_of_length sameLength.symm).symm
    · intro same
      rw [same]
  · constructor
    · intro infixed
      exact infixed.eq_of_length sameLength
    · intro same
      rw [same]

/-- Texts with the same final sigmas, which differ in the case of their other letters, contain each
other. -/
theorem contains_iff_of_compare?_eq_of_streets :
    '*' ∉ "Οδός ΣΟΛΩΝΟΣ".toList ∧ '*' ∉ "ΟΔΌς σολωνοΣ".toList ∧
      (Value.text "Οδός ΣΟΛΩΝΟΣ").compare? (.text "ΟΔΌς σολωνοΣ") = some .eq ∧
      Text.finalSigmas "Οδός ΣΟΛΩΝΟΣ".toList = Text.finalSigmas "ΟΔΌς σολωνοΣ".toList ∧
      (Value.text "Οδός ΣΟΛΩΝΟΣ").contains (.text "ΟΔΌς σολωνοΣ") = true ∧
      (Value.text "ΟΔΌς σολωνοΣ").contains (.text "Οδός ΣΟΛΩΝΟΣ") = true := by
  have plainA : '*' ∉ "Οδός ΣΟΛΩΝΟΣ".toList := by decide
  have plainB : '*' ∉ "ΟΔΌς σολωνοΣ".toList := by decide
  have equal : (Value.text "Οδός ΣΟΛΩΝΟΣ").compare? (.text "ΟΔΌς σολωνοΣ") = some .eq :=
    compare?_text_eq_iff.2 (by decide +kernel)
  have samePlaces :
      Text.finalSigmas "Οδός ΣΟΛΩΝΟΣ".toList = Text.finalSigmas "ΟΔΌς σολωνοΣ".toList :=
    (Text.lower_eq_lower_iff (compare?_text_eq_iff.1 equal)).1 (by decide +kernel)
  obtain ⟨forward, backward⟩ := contains_iff_of_compare?_eq plainA plainB equal
  exact ⟨plainA, plainB, equal, samePlaces, forward.2 samePlaces, backward.2 samePlaces⟩

/-- A word in capitals is equal in order to the same word in small letters with a plain sigma at the
end, but in lower case it has a final one. -/
theorem not_contains_of_compare?_eq :
    ¬ ∀ a b : String, '*' ∉ a.toList → '*' ∉ b.toList →
      (Value.text a).compare? (.text b) = some .eq →
      (Value.text a).contains (.text b) = true ∧ (Value.text b).contains (.text a) = true := by
  intro contained
  have equal : (Value.text "ΑΣ").compare? (.text "ασ") = some .eq :=
    compare?_text_eq_iff.2 (by decide +kernel)
  obtain ⟨forward, -⟩ := contained "ΑΣ" "ασ" (by decide) (by decide) equal
  revert forward
  decide +kernel

end RecordQuery.Value
