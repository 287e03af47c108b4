import RecordQuery.Proofs.ConstantNames

/-!
Identifiers in snake case under the rules that make names. A rule that joins words leaves out the underscores
and raises the letter behind each, and a constant has an underscore before each capital letter behind a lower
character. So a constant has the underscores again that a rule left out, but for those behind a segment that
has become a single capital letter (`capitalsFrom_flatMap_capitalized_iff`).

The constant of an identifier in snake case is therefore the identifier in capitals, under each of the rules,
exactly if all its segments but the last have two characters (`constantName_apply_iff`).
-/

namespace RecordQuery

/-! ## Segments -/

def isLowerOrDigit (c : Char) : Bool := c.isLower || c.isDigit

/-- A lower letter, then lower letters and digits. -/
def isSegment : List Char → Bool
  | [] => false
  | c :: s => c.isLower && s.all isLowerOrDigit

/-- What stands between the underscores of an identifier. -/
def segments (ident : String) : List (List Char) := ident.toList.splitOn '_'

/-- Whether an identifier is made of segments with single underscores between them. -/
def IsSnakeCase (ident : String) : Prop := ∀ w ∈ segments ident, isSegment w = true

instance (ident : String) : Decidable (IsSnakeCase ident) :=
  inferInstanceAs (Decidable (∀ w ∈ segments ident, isSegment w = true))

/-- A segment with a capital letter. -/
def capitalized : List Char → List Char
  | [] => []
  | c :: s => c.toUpper :: s

section Characters

variable {c : Char} {w : List Char} {ws : List (List Char)}

theorem exists_ascii_of_isLowerOrDigit (small : isLowerOrDigit c = true) : ∃ n < 0x80, c = Char.ofNat n := by
  refine ⟨c.toNat, ?_, (Char.ofNat_toNat c).symm⟩
  obtain lower | digit := Bool.or_eq_true_iff.1 small
  · have atMostZ : c.val ≤ 'z'.val := of_decide_eq_true (Bool.and_eq_true_iff.1 lower).2
    exact Nat.lt_of_le_of_lt (UInt32.le_iff_toNat_le.1 atMostZ) (by decide)
  · have atMost9 : c.val ≤ '9'.val := of_decide_eq_true (Bool.and_eq_true_iff.1 digit).2
    exact Nat.lt_of_le_of_lt (UInt32.le_iff_toNat_le.1 atMost9) (by decide)

theorem not_isUppercase_of_isLowerOrDigit (small : isLowerOrDigit c = true) :
    Text.isUppercase c = false := by
  obtain ⟨n, ascii, rfl⟩ := exists_ascii_of_isLowerOrDigit small
  have all : ∀ n < 0x80, isLowerOrDigit (Char.ofNat n) → Text.isUppercase (Char.ofNat n) = false := by
    decide +kernel
  exact all n ascii small

theorem not_isWordMark_of_isLowerOrDigit (small : isLowerOrDigit c = true) : isWordMark c = false := by
  rw [Bool.eq_false_iff, ne_eq, isWordMark_iff]
  intro isMark
  obtain rfl | rfl | rfl := isMark <;> cases small

theorem ne_underscore_of_isLowerOrDigit (small : isLowerOrDigit c = true) : c ≠ '_' := by
  rintro rfl
  cases small

theorem isLowerOrDigit_of_isLower (lower : c.isLower = true) : isLowerOrDigit c = true := by
  rw [isLowerOrDigit, lower, Bool.true_or]

theorem upperChar_of_isLower (lower : c.isLower = true) : Text.upperChar c = [c.toUpper] := by
  obtain ⟨n, ascii, rfl⟩ := exists_ascii_of_isLowerOrDigit (isLowerOrDigit_of_isLower lower)
  have all : ∀ n < 0x80, Text.upperChar (Char.ofNat n) = [(Char.ofNat n).toUpper] := by decide +kernel
  exact all n ascii

theorem isUppercase_toUpper_of_isLower (lower : c.isLower = true) :
    Text.isUppercase c.toUpper = true := by
  obtain ⟨n, ascii, rfl⟩ := exists_ascii_of_isLowerOrDigit (isLowerOrDigit_of_isLower lower)
  have all : ∀ n < 0x80, (Char.ofNat n).isLower → Text.isUppercase (Char.ofNat n).toUpper := by
    decide +kernel
  exact all n ascii lower

theorem isSegment_iff :
    isSegment w = true ↔
      ∃ c s, w = c :: s ∧ c.isLower = true ∧ ∀ d ∈ s, isLowerOrDigit d = true := by
  cases w with
  | nil => exact iff_of_false Bool.false_ne_true fun ⟨_, _, empty, _⟩ => nomatch empty
  | cons c s =>
    rw [isSegment, Bool.and_eq_true, List.all_eq_true]
    constructor
    · intro letters
      exact ⟨c, s, rfl, letters⟩
    · rintro ⟨_, _, ⟨⟩, letters⟩
      exact letters

theorem isLowerOrDigit_of_mem_segment (segment : isSegment w = true) (mem : c ∈ w) :
    isLowerOrDigit c = true := by
  obtain ⟨d, s, rfl, lower, others⟩ := isSegment_iff.1 segment
  obtain rfl | mem := List.mem_cons.1 mem
  · exact isLowerOrDigit_of_isLower lower
  · exact others c mem

theorem mem_segments_cases (first : isSegment w = true) (others : ∀ v ∈ ws, isSegment v = true)
    (mem : c ∈ w ++ ws.flatMap ('_' :: ·)) : c = '_' ∨ isLowerOrDigit c = true := by
  rw [List.mem_append, List.mem_flatMap] at mem
  obtain inFirst | ⟨v, memOthers, inOther⟩ := mem
  · exact .inr (isLowerOrDigit_of_mem_segment first inFirst)
  · obtain isMark | inOther := List.mem_cons.1 inOther
    · exact .inl isMark
    · exact .inr (isLowerOrDigit_of_mem_segment (others v memOthers) inOther)

theorem intercalate_underscore (w : List Char) (ws : List (List Char)) :
    ['_'].intercalate (w :: ws) = w ++ ws.flatMap ('_' :: ·) := by
  induction ws generalizing w with
  | nil => rw [List.intercalate_singleton, List.flatMap_nil, List.append_nil]
  | cons v ws ih =>
    rw [List.intercalate_cons_cons, ih, List.flatMap_cons, List.append_assoc]
    rfl

end Characters

/-- An identifier in snake case is a first segment, and an underscore before each other one. -/
theorem IsSnakeCase.exists_segments {ident : String} (snake : IsSnakeCase ident) :
    ∃ w ws, segments ident = w :: ws ∧ ident.toList = w ++ ws.flatMap ('_' :: ·) ∧
      isSegment w = true ∧ ∀ v ∈ ws, isSegment v = true := by
  have joined : ['_'].intercalate (segments ident) = ident.toList := List.intercalate_splitOn '_'
  have filled : segments ident ≠ [] := List.splitOn_ne_nil '_' ident.toList
  obtain ⟨w, ws, split⟩ := List.exists_cons_of_ne_nil filled
  rw [split, intercalate_underscore] at joined
  rw [IsSnakeCase, split, List.forall_mem_cons] at snake
  exact ⟨w, ws, split, joined.symm, snake⟩

/-! ## Names made by rules -/

namespace RenameRule

variable {capital started raise : Bool} {c : Char} {s w : List Char} {ws : List (List Char)}

theorem withoutRawMarks_of_not_mem (noMark : '#' ∉ s) : withoutRawMarks s = s := by
  unfold withoutRawMarks
  split
  · exact absurd (by simp) noMark
  · rfl

theorem joinFrom_cons (other : c ≠ '_') :
    joinFrom capital started raise (c :: s) =
      (if raise then Text.upperChar c else [c]) ++ joinFrom capital true false s :=
  if_neg other

theorem joinFrom_underscore (s : List Char) :
    joinFrom capital true raise ('_' :: s) = joinFrom capital true true s :=
  if_pos rfl

theorem joinFrom_append (small : ∀ c ∈ s, isLowerOrDigit c = true) (t : List Char) :
    joinFrom capital true false (s ++ t) = s ++ joinFrom capital true false t := by
  induction s with
  | nil => rfl
  | cons c s ih =>
    rw [List.forall_mem_cons] at small
    rw [List.cons_append, joinFrom_cons (ne_underscore_of_isLowerOrDigit small.1), ih small.2]
    rfl

/-- A segment stays as it is, but for its first letter where this is raised. -/
theorem joinFrom_segment (segment : isSegment w = true) (t : List Char) :
    joinFrom capital started raise (w ++ t) =
      (if raise then capitalized w else w) ++ joinFrom capital true false t := by
  obtain ⟨c, s, rfl, lower, others⟩ := isSegment_iff.1 segment
  have small := isLowerOrDigit_of_isLower lower
  rw [List.cons_append, joinFrom_cons (ne_underscore_of_isLowerOrDigit small), joinFrom_append others,
    upperChar_of_isLower lower]
  cases raise <;> rfl

theorem joinFrom_segments (others : ∀ w ∈ ws, isSegment w = true) :
    joinFrom capital true false (ws.flatMap ('_' :: ·)) = ws.flatMap capitalized := by
  induction ws with
  | nil => rfl
  | cons w ws ih =>
    rw [List.forall_mem_cons] at others
    rw [List.flatMap_cons, List.cons_append, joinFrom_underscore, joinFrom_segment others.1, ih others.2,
      List.flatMap_cons]
    rfl

/-- All segments are raised, the first one only if this is asked for. -/
theorem joinWords_segments (capital : Bool) (first : isSegment w = true)
    (others : ∀ v ∈ ws, isSegment v = true) :
    joinWords capital (w ++ ws.flatMap ('_' :: ·)) =
      (if capital then capitalized w else w) ++ ws.flatMap capitalized := by
  have noMark : '#' ∉ w ++ ws.flatMap ('_' :: ·) := by
    intro mem
    obtain isUnderscore | small := mem_segments_cases first others mem
    · cases isUnderscore
    · cases small
  rw [joinWords, withoutRawMarks_of_not_mem noMark, joinFrom_segment first, joinFrom_segments others]

end RenameRule

/-! ## Constants -/

section Capitals

variable {afterLower : Bool} {s t w : List Char} {ws : List (List Char)}

theorem capitalsFrom_eq_map (small : ∀ c ∈ s, c = '_' ∨ isLowerOrDigit c = true) :
    capitalsFrom afterLower s = s.map Char.toUpper := by
  induction s generalizing afterLower with
  | nil => rfl
  | cons c s ih =>
    rw [List.forall_mem_cons] at small
    rw [List.map_cons]
    obtain rfl | letter := small.1
    · rw [capitalsFrom_mark rfl, ih small.2]
      rfl
    · have notUpper := not_isUppercase_of_isLowerOrDigit letter
      rw [capitalsFrom_letter (not_isWordMark_of_isLowerOrDigit letter), ih small.2]
      intro upper
      rw [notUpper] at upper
      cases upper

theorem lowerBehind_of_lower (small : ∀ c ∈ s, isLowerOrDigit c = true) :
    lowerBehind afterLower s = (afterLower || !s.isEmpty) := by
  induction s generalizing afterLower with
  | nil => exact (Bool.or_false afterLower).symm
  | cons c s ih =>
    rw [List.forall_mem_cons] at small
    rw [lowerBehind_cons, not_isUppercase_of_isLowerOrDigit small.1,
      not_isWordMark_of_isLowerOrDigit small.1, ih small.2]
    exact (Bool.or_true afterLower).symm

theorem capitalsFrom_append_of_lower (small : ∀ c ∈ s, isLowerOrDigit c = true) (t : List Char) :
    capitalsFrom afterLower (s ++ t) =
      s.map Char.toUpper ++ capitalsFrom (afterLower || !s.isEmpty) t := by
  rw [capitalsFrom_append, capitalsFrom_eq_map fun c mem => .inr (small c mem), lowerBehind_of_lower small]

theorem capitalsFrom_segment (segment : isSegment w = true) (t : List Char) :
    capitalsFrom false (w ++ t) = w.map Char.toUpper ++ capitalsFrom true t := by
  rw [capitalsFrom_append_of_lower fun c => isLowerOrDigit_of_mem_segment segment]
  obtain ⟨c, s, rfl, -⟩ := isSegment_iff.1 segment
  rfl

/-- Segments do not start with an underscore, in capitals either. -/
theorem map_toUpper_append_ne (segment : isSegment w = true) : w.map Char.toUpper ++ s ≠ '_' :: t := by
  obtain ⟨c, w, rfl, lower, -⟩ := isSegment_iff.1 segment
  intro same
  have underscore : c = '_' := toUpper_eq_underscore (List.cons.inj same).1
  exact ne_underscore_of_isLowerOrDigit (isLowerOrDigit_of_isLower lower) underscore

/-- A segment with a capital letter ends with a lower character, unless it is that letter alone. -/
theorem capitalsFrom_capitalized (segment : isSegment w = true) (t : List Char) :
    capitalsFrom false (capitalized w ++ t) =
      w.map Char.toUpper ++ capitalsFrom (decide (2 ≤ w.length)) t := by
  obtain ⟨c, s, rfl, lower, others⟩ := isSegment_iff.1 segment
  have upper := isUppercase_toUpper_of_isLower lower
  have noMark : isWordMark c.toUpper = false := by
    rw [Bool.eq_false_iff]
    intro mark
    rw [isUppercase_of_isWordMark mark] at upper
    cases upper
  rw [capitalized, List.cons_append, capitalsFrom_letter noMark fun _ => rfl, upper,
    toUpper_of_isUppercase upper, capitalsFrom_append_of_lower others, List.map_cons, List.cons_append]
  cases s <;> rfl

/-- Behind a lower character the capital letter of a segment makes an underscore. -/
theorem capitalsFrom_true_capitalized (segment : isSegment w = true) (t : List Char) :
    capitalsFrom true (capitalized w ++ t) = '_' :: capitalsFrom false (capitalized w ++ t) := by
  obtain ⟨c, s, rfl, lower, -⟩ := isSegment_iff.1 segment
  exact capitalsFrom_hump (isUppercase_toUpper_of_isLower lower) (s ++ t)

theorem two_le_length_dropLast_cons :
    (∀ v ∈ (w :: ws).dropLast, 2 ≤ v.length) ↔
      (2 ≤ w.length ∨ ws = []) ∧ ∀ v ∈ ws.dropLast, 2 ≤ v.length := by
  cases ws with
  | nil => simp
  | cons v ws => simp

/-- Raised segments have all their underscores again exactly if each stands behind a lower character. -/
theorem capitalsFrom_flatMap_capitalized_iff (all : ∀ w ∈ ws, isSegment w = true) :
    capitalsFrom afterLower (ws.flatMap capitalized) = (ws.flatMap ('_' :: ·)).map Char.toUpper ↔
      (afterLower = true ∨ ws = []) ∧ ∀ w ∈ ws.dropLast, 2 ≤ w.length := by
  induction ws generalizing afterLower with
  | nil => exact iff_of_true rfl ⟨.inr rfl, List.forall_mem_nil _⟩
  | cons w ws ih =>
    rw [List.forall_mem_cons] at all
    have others : capitalsFrom (decide (2 ≤ w.length)) (ws.flatMap capitalized) =
        (ws.flatMap ('_' :: ·)).map Char.toUpper ↔ ∀ v ∈ (w :: ws).dropLast, 2 ≤ v.length := by
      rw [ih all.2, decide_eq_true_iff, two_le_length_dropLast_cons]
    have underscore : Char.toUpper '_' = '_' := rfl
    rw [List.flatMap_cons, List.flatMap_cons, List.cons_append, List.map_cons, underscore, List.map_append]
    cases afterLower with
    | false =>
      -- the first segment comes without its underscore, whatever follows
      rw [capitalsFrom_capitalized all.1]
      refine iff_of_false (map_toUpper_append_ne all.1) ?_
      simp
    | true =>
      rw [capitalsFrom_true_capitalized all.1, capitalsFrom_capitalized all.1, List.cons_eq_cons,
        and_iff_right rfl, List.append_cancel_left_eq, others]
      simp

end Capitals

section Rules

variable {ident name : String}

theorem constantName_eq_toUpper_iff :
    constantName name = ident.toUpper ↔
      capitalsFrom false name.toList = ident.toList.map Char.toUpper := by
  rw [constantName, ← String.toList_inj, String.toList_ofList, String.toUpper, String.toList_map]

theorem constantName_asWritten (snake : IsSnakeCase ident) :
    constantName (RenameRule.asWritten.apply ident) = ident.toUpper := by
  obtain ⟨w, ws, -, characters, first, others⟩ := snake.exists_segments
  rw [constantName_eq_toUpper_iff, RenameRule.apply, characters]
  exact capitalsFrom_eq_map fun _ => mem_segments_cases first others

theorem constantName_pascalCase_iff (snake : IsSnakeCase ident) :
    constantName (RenameRule.pascalCase.apply ident) = ident.toUpper ↔
      ∀ w ∈ (segments ident).dropLast, 2 ≤ w.length := by
  obtain ⟨w, ws, split, characters, first, others⟩ := snake.exists_segments
  rw [constantName_eq_toUpper_iff, RenameRule.apply, String.toList_ofList, characters,
    RenameRule.joinWords_segments true first others, if_pos rfl, capitalsFrom_capitalized first,
    List.map_append, List.append_cancel_left_eq, capitalsFrom_flatMap_capitalized_iff others,
    decide_eq_true_iff, split, two_le_length_dropLast_cons]

/-- The first segment is not raised, so that it may be a single letter. -/
theorem constantName_camelCase_iff (snake : IsSnakeCase ident) :
    constantName (RenameRule.camelCase.apply ident) = ident.toUpper ↔
      ∀ w ∈ (segments ident).tail.dropLast, 2 ≤ w.length := by
  obtain ⟨w, ws, split, characters, first, others⟩ := snake.exists_segments
  rw [constantName_eq_toUpper_iff, RenameRule.apply, String.toList_ofList, characters,
    RenameRule.joinWords_segments false first others, if_neg Bool.false_ne_true,
    capitalsFrom_segment first, List.map_append, List.append_cancel_left_eq,
    capitalsFrom_flatMap_capitalized_iff others, split, List.tail_cons]
  exact and_iff_right (.inl rfl)

/-- The constant of an identifier in snake case is the identifier in capitals under every rule, exactly if all
its segments but the last have two characters. -/
theorem constantName_apply_iff (snake : IsSnakeCase ident) :
    (∀ rule : RenameRule, constantName (rule.apply ident) = ident.toUpper) ↔
      ∀ w ∈ (segments ident).dropLast, 2 ≤ w.length := by
  constructor
  · intro same
    exact (constantName_pascalCase_iff snake).1 (same .pascalCase)
  · intro long rule
    cases rule with
    | asWritten => exact constantName_asWritten snake
    | camelCase =>
      refine (constantName_camelCase_iff snake).2 fun w mem => long w ?_
      rw [← List.tail_dropLast] at mem
      exact List.mem_of_mem_tail mem
    | pascalCase => exact (constantName_pascalCase_iff snake).2 long

/-- Digits count as lower characters, and the last segment may be a single letter; the first one may not. -/
theorem constantName_apply_of_axes :
    IsSnakeCase "axis2_v10_x" ∧ (∀ w ∈ (segments "axis2_v10_x").dropLast, 2 ≤ w.length) ∧
      (∀ rule : RenameRule, constantName (rule.apply "axis2_v10_x") = "AXIS2_V10_X") ∧
      IsSnakeCase "x_axis" ∧ ¬ ∀ rule : RenameRule, constantName (rule.apply "x_axis") = "X_AXIS" := by
  have snake : IsSnakeCase "axis2_v10_x" := by decide +kernel
  have long : ∀ w ∈ (segments "axis2_v10_x").dropLast, 2 ≤ w.length := by decide +kernel
  have upper : "axis2_v10_x".toUpper = "AXIS2_V10_X" := by decide +kernel
  have snakeShort : IsSnakeCase "x_axis" := by decide +kernel
  have upperShort : "x_axis".toUpper = "X_AXIS" := by decide +kernel
  refine ⟨snake, long, fun rule => ((constantName_apply_iff snake).2 long rule).trans upper, snakeShort, ?_⟩
  rw [← upperShort, constantName_apply_iff snakeShort]
  decide +kernel

end Rules

end RecordQuery
