import RecordQuery.Proofs.TextContainment
import RecordQuery.Proofs.ValueOrder

/-!
Stars that stand for what is there. In a text that is matched with itself each star can stand for a star,
so a value contains itself, unless it is a text with stars that is over the size limit
(`Value.contains_self_eq_false_iff`). Between two stars, a needle is looked for in the same way as alone:
the stars do not change the lower case of the needle, and stand for what is before and behind it
(`Pattern.accepts_between_stars`).
-/

namespace RecordQuery

namespace Text

/-- Pieces that are put together stand in the whole with gaps between them. -/
theorem exists_isSpaced_intercalate (sep opening : List Char) (pieces : List (List Char)) :
    ∃ rest, sep.intercalate (opening :: pieces) = opening ++ rest ∧ IsSpaced pieces rest := by
  induction pieces generalizing opening with
  | nil =>
    refine ⟨[], ?_, isSpaced_nil.2 rfl⟩
    rw [List.intercalate_singleton, List.append_nil]
  | cons piece pieces ih =>
    -- the gap before each piece is the separator
    obtain ⟨rest, whole, isSpaced⟩ := ih piece
    refine ⟨sep ++ piece ++ rest, ?_, isSpaced_cons.2 ⟨sep, rest, rfl, isSpaced⟩⟩
    rw [List.intercalate_cons_cons, whole, List.append_assoc, List.append_assoc]

theorem isSpaced_between_gaps {piece s : List Char} : IsSpaced [piece, []] s ↔ piece <:+: s := by
  rw [isSpaced_cons]
  constructor
  · intro isSpaced
    obtain ⟨gap, rest, rfl, -⟩ := isSpaced
    exact ⟨gap, rest, rfl⟩
  · intro inside
    obtain ⟨gap, rest, rfl⟩ := inside
    exact ⟨gap, rest, rfl, isSpaced_singleton.2 List.nil_suffix⟩

theorem splitOn_between_stars {s : List Char} (plain : '*' ∉ s) :
    ('*' :: (s ++ ['*'])).splitOn '*' = [[], s, []] := by
  have behind : (s ++ ['*']).splitOn '*' = [s, []] := by
    rw [List.splitOn_append_cons_self, List.splitOn_eq_singleton plain]
    rfl
  rw [← List.nil_append ('*' :: _), List.splitOn_append_cons_self, behind]
  rfl

end Text

/-! ## Values that contain themselves -/

namespace Value

theorem compare?_self (v : Value) : v.compare? v = some .eq := by
  obtain ⟨o, forward, backward⟩ := exists_compare? (rfl : v.kind = v.kind)
  have same : o = o.swap := Option.some.inj (forward.symm.trans backward)
  have equal : o = .eq := by
    cases o with
    | lt => cases same
    | eq => rfl
    | gt => cases same
  rw [forward, equal]

theorem contains_self_of_not_text {v : Value} (notText : ¬ ∃ s, v = .text s) :
    v.contains v = true := by
  have equal : (v.compare? v == some .eq) = true := by
    rw [compare?_self]
    rfl
  cases v with
  | int n => exact equal
  | text s => exact absurd ⟨s, rfl⟩ notText
  | rfc3339 s => exact equal
  | instant t => exact equal

/-- Every star of a text can stand for itself. -/
theorem contains_text_self_of_star {s : String} (star : '*' ∈ s.toList)
    (fits : Pattern.preparedSize (Text.lower s.toList) ≤ Pattern.sizeLimit) :
    (Value.text s).contains (.text s) = true := by
  obtain ⟨opening, pieces, split⟩ :=
    List.exists_cons_of_ne_nil (List.splitOn_ne_nil '*' s.toList)
  have joined : ['*'].intercalate ((Text.lower s.toList).splitOn '*') = Text.lower s.toList :=
    List.intercalate_splitOn '*'
  rw [Text.splitOn_lower, split] at joined
  rw [contains_text_iff_of_star star fits split, ← joined]
  exact Text.exists_isSpaced_intercalate ['*'] (Text.lower opening) (pieces.map Text.lower)

theorem contains_text_self_iff {s : String} :
    (Value.text s).contains (.text s) = true ↔
      ¬ ('*' ∈ s.toList ∧ Pattern.sizeLimit < Pattern.preparedSize (Text.lower s.toList)) := by
  constructor
  · intro found isOversized
    obtain ⟨star, large⟩ := isOversized
    have oversized : Pattern.compile s = .oversized :=
      Pattern.ofLower_eq_oversized_iff.2 ⟨Text.star_mem_lower.2 star, large⟩
    change (Pattern.compile s).accepts s = true at found
    rw [oversized] at found
    cases found
  · intro usable
    by_cases star : '*' ∈ s.toList
    · exact contains_text_self_of_star star (Nat.le_of_not_lt fun large => usable ⟨star, large⟩)
    · exact (contains_text_iff_of_plain star).2 List.infix_rfl

/-- Every value contains itself, but for texts with stars that are over the size limit. -/
theorem contains_self_eq_false_iff (v : Value) :
    v.contains v = false ↔
      ∃ s, v = .text s ∧ '*' ∈ s.toList ∧
        Pattern.sizeLimit < Pattern.preparedSize (Text.lower s.toList) := by
  by_cases isText : ∃ s, v = .text s
  case pos =>
    obtain ⟨s, rfl⟩ := isText
    rw [Bool.eq_false_iff, ne_eq, contains_text_self_iff, not_not]
    constructor
    · intro oversized
      exact ⟨s, rfl, oversized⟩
    · intro isOversized
      obtain ⟨_, ⟨⟩, oversized⟩ := isOversized
      exact oversized
  case neg =>
    refine iff_of_false ?_ fun ⟨s, same, _⟩ => isText ⟨s, same⟩
    rw [contains_self_of_not_text isText]
    exact Bool.false_ne_true.symm

/-- A text with line feeds, brackets and stars, and a timestamp that cannot be read. -/
example :
    (Value.text "*\n(Σ**.+)\\ΑΣ*").contains (.text "*\n(Σ**.+)\\ΑΣ*") = true ∧
      (Value.rfc3339 "2024-01-01T09:30").contains (.rfc3339 "2024-01-01T09:30") = true := by
  decide +kernel

end Value

/-! ## Needles between stars -/

namespace Pattern

/-- A needle without stars matches the same texts with a star on each side of it, if it is then not
over the size limit. -/
theorem accepts_between_stars {needle : String} (plain : '*' ∉ needle.toList)
    (fits : preparedSize (Text.lower ("*" ++ needle ++ "*").toList) ≤ sizeLimit)
    (haystack : String) :
    (compile ("*" ++ needle ++ "*")).accepts haystack = (compile needle).accepts haystack := by
  have characters : ("*" ++ needle ++ "*").toList = '*' :: (needle.toList ++ ['*']) := by
    rw [String.toList_append, String.toList_append]
    rfl
  have split : ("*" ++ needle ++ "*").toList.splitOn '*' = [[], needle.toList, []] := by
    rw [characters, Text.splitOn_between_stars plain]
  have star : '*' ∈ ("*" ++ needle ++ "*").toList := by
    rw [characters]
    exact List.mem_cons_self
  have between : (compile ("*" ++ needle ++ "*")).accepts haystack = true ↔ _ :=
    Value.contains_text_iff_of_star star fits split
  have alone : (compile needle).accepts haystack = true ↔ _ := Value.contains_text_iff_of_plain plain
  rw [Bool.eq_iff_iff, between, alone, ← Text.isSpaced_between_gaps]
  constructor
  · intro found
    obtain ⟨rest, whole, isSpaced⟩ := found
    rw [whole]
    exact isSpaced
  · intro isSpaced
    exact ⟨_, rfl, isSpaced⟩

/-- The final sigma of a needle stays final before a star: the needle is found at the end of a word and
not within one. -/
theorem accepts_between_stars_of_sigma :
    '*' ∉ "ΑΣ".toList ∧ preparedSize (Text.lower ("*" ++ "ΑΣ" ++ "*").toList) ≤ sizeLimit ∧
      (compile ("*" ++ "ΑΣ" ++ "*")).accepts "ΠΑΣ\n*" = true ∧
      (compile "ΑΣ").accepts "ΠΑΣ\n*" = true ∧
      (compile ("*" ++ "ΑΣ" ++ "*")).accepts "ΑΣΑ" = false ∧
      (compile "ΑΣ").accepts "ΑΣΑ" = false := by
  have plain : '*' ∉ "ΑΣ".toList := by decide
  have fits : preparedSize (Text.lower ("*" ++ "ΑΣ" ++ "*").toList) ≤ sizeLimit := by
    decide +kernel
  have found : (compile "ΑΣ").accepts "ΠΑΣ\n*" = true := by decide +kernel
  have missed : (compile "ΑΣ").accepts "ΑΣΑ" = false := by decide +kernel
  exact ⟨plain, fits, (accepts_between_stars plain fits _).trans found, found,
    (accepts_between_stars plain fits _).trans missed, missed⟩

end Pattern

end RecordQuery
