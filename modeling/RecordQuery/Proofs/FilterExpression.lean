import RecordQuery.Proofs.Blanks
import RecordQuery.Proofs.Results
import RecordQuery.Proofs.TextSearch
import RecordQuery.Query.FilterText
import Mathlib.Data.List.Infix

/-!
How the expressions of a filter parameter are read. An expression can be read exactly if it has a cut:
an equals sign with a character of a field before it and a character of a value, on the same line,
behind it. It is read at its first cut (`Predicate.ofExpression_cases`). What comes before the field
there ends with an equals sign, what comes after the value's line starts with a line break, and neither
is in the predicate.

So a predicate spells its expression exactly if the field starts the expression and nothing but blanks
follow the line of the value (`Predicate.spells_iff_isWhole`).
-/

namespace RecordQuery

namespace Predicate

/-! ## The value behind an equals sign -/

/-- The first line of a text. -/
def lineOf (s : List Char) : List Char := s.takeWhile (· != '\n')

/-- What follows the first line of a text, with the line break. -/
def behindLine (s : List Char) : List Char := s.dropWhile (· != '\n')

section Value

variable {s : List Char}

theorem lineOf_ne_nil_iff : lineOf s ≠ [] ↔ ∃ d t, s = d :: t ∧ d ≠ '\n' := by
  cases s with
  | nil => simp [lineOf]
  | cons d t => by_cases lineBreak : d = '\n' <;> simp [lineOf, lineBreak]

theorem lineOf_append_behindLine (s : List Char) : lineOf s ++ behindLine s = s :=
  List.takeWhile_append_dropWhile

theorem break_not_mem_lineOf : '\n' ∉ lineOf s := by
  intro mem
  have notBreak := List.mem_takeWhile_imp mem
  cases notBreak

theorem head?_behindLine (s : List Char) :
    behindLine s = [] ∨ (behindLine s).head? = some '\n' := by
  have start := List.head?_dropWhile_not (· != '\n') s
  unfold behindLine
  cases rest : s.dropWhile (· != '\n') with
  | nil => exact .inl rfl
  | cons d rest =>
    rw [rest] at start
    have lineBreak : d = '\n' := by simpa using start
    exact .inr (congrArg some lineBreak)

theorem lineOf_append (single : '\n' ∉ s) (t : List Char) : lineOf (s ++ t) = s ++ lineOf t := by
  apply List.takeWhile_append_of_pos
  intro c mem
  rw [bne_iff_ne]
  rintro rfl
  exact single mem

theorem lineOf_of_single (single : '\n' ∉ s) : lineOf s = s := by
  have line := lineOf_append single []
  rw [List.append_nil] at line
  exact line.trans (List.append_nil s)

/-- The spaces and tabs in front of a value are part of its line, and blank. -/
theorem exists_gap (s : List Char) :
    ∃ gap line, Text.AllBlank gap ∧ lineOf s = gap ++ line ∧
      valueText? s = if line.isEmpty then gap.getLast?.map ([·]) else some line := by
  let gap := s.takeWhile fun c => c == ' ' || c == '\t'
  have isGap (c : Char) (mem : c ∈ gap) : c = ' ' ∨ c = '\t' := by
    simpa using List.mem_takeWhile_imp mem
  have prefixed : gap <+: s := List.takeWhile_prefix _
  refine ⟨gap, lineOf (s.drop gap.length), ?_, ?_, rfl⟩
  · intro c mem
    rcases isGap c mem with rfl | rfl <;> decide
  · have single : '\n' ∉ gap := by
      intro mem
      rcases isGap _ mem with lineBreak | lineBreak <;> cases lineBreak
    have parts : s = gap ++ s.drop gap.length := List.prefix_append_drop prefixed
    exact (congrArg lineOf parts).trans (lineOf_append single _)

theorem valueText?_eq_none_iff : valueText? s = none ↔ lineOf s = [] := by
  obtain ⟨gap, line, -, whole, read⟩ := exists_gap s
  rw [read, whole, List.append_eq_nil_iff]
  cases line with
  | nil => simp
  | cons c line => simp

/-- A value is the line that it is on, blanks around it aside. -/
theorem exists_valueText? (someLine : lineOf s ≠ []) :
    ∃ value, valueText? s = some value ∧ Text.trim value = Text.trim (lineOf s) := by
  obtain ⟨value, found⟩ := Option.ne_none_iff_exists'.1 (mt valueText?_eq_none_iff.1 someLine)
  refine ⟨value, found, ?_⟩
  obtain ⟨gap, line, blank, whole, read⟩ := exists_gap s
  rw [read] at found
  rw [whole, Text.trim_append_of_allBlank blank]
  cases line with
  | nil =>
    obtain ⟨c, last, rfl⟩ := Option.map_eq_some_iff.1 found
    have blankLast : Text.AllBlank [c] := by
      rw [Text.AllBlank, List.forall_mem_singleton]
      exact blank c (List.mem_of_getLast? last)
    rw [Text.trim_of_allBlank blankLast]
    rfl
  | cons c line =>
    cases found
    rfl

end Value

/-! ## Cuts -/

/-- Somewhere in the text an equals sign stands between a character that is none and a character of
the same line. -/
def HasCut (e : List Char) : Prop := ∃ c d, c ≠ '=' ∧ d ≠ '\n' ∧ [c, '=', d] <:+: e

section Cuts

variable {s t : List Char}

theorem not_hasCut_of_plain (plain : '=' ∉ t) : ¬ HasCut t := by
  rintro ⟨c, d, -, -, inText⟩
  exact plain (inText.mem (List.mem_cons_of_mem c List.mem_cons_self))

/-- The first equals sign of a text is a cut, or else the cuts of the text are those behind it. -/
theorem hasCut_append_cons_iff (plain : '=' ∉ t) :
    HasCut (t ++ '=' :: s) ↔ t ≠ [] ∧ lineOf s ≠ [] ∨ HasCut s := by
  constructor
  · rintro ⟨c, d, notEquals, sameLine, a, b, whole⟩
    rw [List.append_assoc, List.cons_append, List.cons_append, List.cons_append, List.nil_append]
      at whole
    rcases List.append_eq_append_iff.1 whole with ⟨u, inField, split⟩ | ⟨u, -, split⟩
    · -- The character before the cut's equals sign is in `t`, so this sign is the first one.
      match u with
      | [] => exact absurd (List.cons.inj split).1 notEquals
      | [x] =>
        simp only [List.cons_append, List.nil_append, List.cons.injEq, true_and] at split
        refine .inl ⟨?_, lineOf_ne_nil_iff.2 ⟨d, b, split.2.symm, sameLine⟩⟩
        rw [inField]
        exact List.append_ne_nil_of_right_ne_nil a (List.cons_ne_nil x [])
      | x :: y :: u =>
        simp only [List.cons_append, List.cons.injEq] at split
        refine absurd ?_ plain
        rw [inField, split.2.1]
        exact List.mem_append_right a (List.mem_cons_of_mem x List.mem_cons_self)
    · match u with
      | [] => exact absurd (List.cons.inj split).1.symm notEquals
      | x :: u =>
        simp only [List.cons_append, List.cons.injEq] at split
        exact .inr ⟨c, d, notEquals, sameLine, u, b, by simp [split.2]⟩
  · rintro (⟨field, line⟩ | ⟨c, d, notEquals, sameLine, inText⟩)
    · obtain ⟨d, rest, rfl, sameLine⟩ := lineOf_ne_nil_iff.1 line
      have whole := List.dropLast_append_getLast field
      refine ⟨t.getLast field, d, ?_, sameLine, t.dropLast, rest, ?_⟩
      · intro equals
        exact plain (equals ▸ List.getLast_mem field)
      · conv =>
          rhs
          rw [← whole]
        simp
    · refine ⟨c, d, notEquals, sameLine, List.infix_append_of_infix_right ?_⟩
      exact inText.trans (List.suffix_cons '=' s).isInfix

end Cuts

/-! ## Reading an expression -/

/-- The predicate of a field and the line behind its equals sign: blanks around them do not count. -/
def ofCut (field line : List Char) : Predicate where
  field := String.ofList (Text.trim field)
  value := .text (String.ofList (Text.trim line))

/-- How an expression is read at its first cut: `field` is the run of characters before the equals
sign there, `line` the line behind it. -/
structure ReadAt (e before field line after : List Char) : Prop where
  whole : e = before ++ (field ++ '=' :: (line ++ after))
  before_ends : before = [] ∨ before.getLast? = some '='
  field_ne_nil : field ≠ []
  field_plain : '=' ∉ field
  line_ne_nil : line ≠ []
  line_single : '\n' ∉ line
  after_starts : after = [] ∨ after.head? = some '\n'
  first : ¬ HasCut (before ++ field)

section ReadAt

variable {e before field line after s t : List Char}

theorem ReadAt.of_first_equals (plain : '=' ∉ t) (nonempty : t ≠ []) (someLine : lineOf s ≠ []) :
    ReadAt (t ++ '=' :: s) [] t (lineOf s) (behindLine s) where
  whole := by rw [lineOf_append_behindLine, List.nil_append]
  before_ends := .inl rfl
  field_ne_nil := nonempty
  field_plain := plain
  line_ne_nil := someLine
  line_single := break_not_mem_lineOf
  after_starts := head?_behindLine s
  first := not_hasCut_of_plain plain

/-- The text behind the first equals sign is read in the same way if this sign is not a cut. -/
theorem ReadAt.behind_equals (read : ReadAt s before field line after) (plain : '=' ∉ t)
    (noCut : t = [] ∨ lineOf s = []) :
    ReadAt (t ++ '=' :: s) (t ++ '=' :: before) field line after where
  whole := by rw [read.whole, List.append_assoc, List.cons_append]
  before_ends := by
    refine .inr ?_
    rcases read.before_ends with rfl | ends
    · exact List.getLast?_concat
    · rw [List.getLast?_append, List.getLast?_cons, ends]
      rfl
  field_ne_nil := read.field_ne_nil
  field_plain := read.field_plain
  line_ne_nil := read.line_ne_nil
  line_single := read.line_single
  after_starts := read.after_starts
  first := by
    rw [List.append_assoc, List.cons_append, hasCut_append_cons_iff plain]
    refine not_or_intro (fun early => ?_) read.first
    obtain ⟨d, u, start, sameLine⟩ := lineOf_ne_nil_iff.1 early.2
    refine noCut.elim early.1 (lineOf_ne_nil_iff.2 ⟨d, u ++ '=' :: (line ++ after), ?_, sameLine⟩)
    rw [read.whole, ← List.append_assoc, start]
    rfl

theorem ReadAt.hasCut (read : ReadAt e before field line after) : HasCut e := by
  have someLine : lineOf (line ++ after) ≠ [] := by
    rw [lineOf_append read.line_single]
    exact List.append_ne_nil_of_left_ne_nil read.line_ne_nil _
  obtain ⟨c, d, notEquals, sameLine, inText⟩ :=
    (hasCut_append_cons_iff read.field_plain).2 (.inl ⟨read.field_ne_nil, someLine⟩)
  refine ⟨c, d, notEquals, sameLine, ?_⟩
  rw [read.whole]
  exact List.infix_append_of_infix_right inText

theorem ReadAt.lineOf_eq (read : ReadAt e before field line after) :
    lineOf (line ++ after) = line := by
  have nothing : lineOf after = [] := by
    by_contra some
    obtain ⟨d, t, rfl, sameLine⟩ := lineOf_ne_nil_iff.1 some
    rcases read.after_starts with none | lineBreak
    · cases none
    · exact sameLine (Option.some.inj lineBreak)
  rw [lineOf_append read.line_single, nothing, List.append_nil]

section Unique

variable {before' field' line' after' u : List Char}

/-- Of two readings of one expression, neither is behind the other: its field would be behind a cut. -/
theorem ReadAt.not_behind (read : ReadAt e before field line after)
    (read' : ReadAt e before' field' line' after') (behind : before' ++ field' = before ++ field ++ u) :
    u = [] := by
  have rests : '=' :: (line ++ after) = u ++ '=' :: (line' ++ after') := by
    have both := read.whole.symm.trans read'.whole
    rw [← List.append_assoc, ← List.append_assoc, behind, List.append_assoc (before ++ field)] at both
    exact List.append_cancel_left both
  match u with
  | [] => rfl
  | [c] =>
    obtain ⟨rfl, -⟩ := List.cons.inj rests
    have last : field'.getLast? = some '=' := by
      have ends := congrArg List.getLast? behind
      rwa [List.getLast?_append_of_ne_nil _ read'.field_ne_nil, List.getLast?_concat] at ends
    exact absurd (List.mem_of_getLast? last) read'.field_plain
  | c :: d :: u =>
    obtain ⟨rfl, behindEquals⟩ := List.cons.inj rests
    have someLine : lineOf (d :: u) ≠ [] := by
      obtain ⟨x, line, rfl⟩ := List.exists_cons_of_ne_nil read.line_ne_nil
      obtain ⟨same, -⟩ := List.cons.inj behindEquals
      refine lineOf_ne_nil_iff.2 ⟨d, u, rfl, ?_⟩
      rintro rfl
      exact read.line_single (same ▸ List.mem_cons_self)
    obtain ⟨a, b, notEquals, sameLine, inText⟩ :=
      (hasCut_append_cons_iff read.field_plain).2 (.inl ⟨read.field_ne_nil, someLine⟩)
    refine absurd ⟨a, b, notEquals, sameLine, ?_⟩ read'.first
    rw [behind, List.append_assoc]
    exact List.infix_append_of_infix_right inText

/-- Of two readings that end their fields at one place, neither starts its field before the other: an
equals sign would be in it. -/
theorem ReadAt.field_not_longer (read : ReadAt e before field line after)
    (read' : ReadAt e before' field' line' after') (earlier : before' = before ++ u)
    (longer : field = u ++ field') : u = [] := by
  rcases List.eq_nil_or_concat' u with rfl | ⟨v, c, rfl⟩
  · rfl
  rcases read'.before_ends with nothing | equals
  · rw [earlier] at nothing
    simp at nothing
  · rw [earlier, ← List.append_assoc, List.getLast?_concat] at equals
    refine absurd ?_ read.field_plain
    rw [longer, Option.some.inj equals]
    simp

/-- An expression is read in one way only. -/
theorem ReadAt.unique (read : ReadAt e before field line after)
    (read' : ReadAt e before' field' line' after') : field = field' ∧ line = line' := by
  have cuts : before ++ field = before' ++ field' := by
    have both := read.whole.symm.trans read'.whole
    rw [← List.append_assoc, ← List.append_assoc] at both
    rcases List.append_eq_append_iff.1 both with ⟨u, behind, -⟩ | ⟨u, behind, -⟩
    · rw [behind, read.not_behind read' behind, List.append_nil]
    · rw [behind, read'.not_behind read behind, List.append_nil]
  have fields : field = field' := by
    rcases List.append_eq_append_iff.1 cuts with ⟨u, earlier, longer⟩ | ⟨u, earlier, longer⟩
    · rw [longer, read.field_not_longer read' earlier longer, List.nil_append]
    · rw [longer, read'.field_not_longer read earlier longer, List.nil_append]
  refine ⟨fields, ?_⟩
  have rests := read.whole.symm.trans read'.whole
  rw [← List.append_assoc, ← List.append_assoc, cuts] at rests
  have lines := congrArg lineOf (List.cons.inj (List.append_cancel_left rests)).2
  rwa [read.lineOf_eq, read'.lineOf_eq] at lines

end Unique

end ReadAt

section Read

variable {e field rest s t value : List Char} {p : Predicate}

theorem partsFrom?_append (plain : '=' ∉ t) (run s : List Char) :
    partsFrom? run (t ++ s) = partsFrom? (t.reverse ++ run) s := by
  induction t generalizing run with
  | nil => rfl
  | cons c t ih =>
    obtain ⟨notEquals, plainRest⟩ := not_or.1 (mt List.mem_cons.2 plain)
    have step : partsFrom? run (c :: (t ++ s)) = partsFrom? (c :: run) (t ++ s) :=
      if_neg (Ne.symm notEquals)
    rw [List.cons_append, step, ih plainRest, List.reverse_cons, List.append_assoc]
    rfl

theorem partsFrom?_of_plain (plain : '=' ∉ t) : partsFrom? [] t = none := by
  have walked := partsFrom?_append plain [] []
  rw [List.append_nil] at walked
  rw [walked]
  rfl

theorem partsFrom?_equals (run s : List Char) :
    partsFrom? run ('=' :: s) =
      match run, valueText? s with
      | _ :: _, some value => some (run.reverse, value)
      | _, _ => partsFrom? [] s :=
  if_pos rfl

theorem partsFrom?_of_cut (plain : '=' ∉ t) (nonempty : t ≠ [])
    (found : valueText? s = some value) :
    partsFrom? [] (t ++ '=' :: s) = some (t, value) := by
  obtain ⟨c, run, reversed⟩ := List.exists_cons_of_ne_nil (mt List.reverse_eq_nil_iff.1 nonempty)
  have field : (c :: run).reverse = t := by rw [← reversed, List.reverse_reverse]
  rw [partsFrom?_append plain, List.append_nil, reversed, partsFrom?_equals, found]
  exact congrArg (fun field => some (field, value)) field

/-- An equals sign without a field or without a value is passed over, and so is what comes before
it. -/
theorem partsFrom?_of_no_cut (plain : '=' ∉ t) (noCut : t = [] ∨ lineOf s = []) :
    partsFrom? [] (t ++ '=' :: s) = partsFrom? [] s := by
  rw [partsFrom?_append plain, List.append_nil, partsFrom?_equals]
  rcases noCut with rfl | noLine
  · rfl
  · rw [valueText?_eq_none_iff.2 noLine]
    cases t.reverse <;> rfl

theorem partsFrom?_cases (e : List Char) :
    partsFrom? [] e = none ∧ ¬ HasCut e ∨
      ∃ before field line after value, ReadAt e before field line after ∧
        partsFrom? [] e = some (field, value) ∧ Text.trim value = Text.trim line := by
  induction length : e.length using Nat.strongRecOn generalizing e with
  | ind n ih =>
    by_cases equals : '=' ∈ e
    case neg => exact .inl ⟨partsFrom?_of_plain equals, not_hasCut_of_plain equals⟩
    obtain ⟨t, s, rfl, plain⟩ := List.eq_append_cons_of_mem equals
    by_cases cut : t ≠ [] ∧ lineOf s ≠ []
    case pos =>
      obtain ⟨nonempty, someLine⟩ := cut
      obtain ⟨value, found, same⟩ := exists_valueText? someLine
      exact .inr ⟨[], t, lineOf s, behindLine s, value, .of_first_equals plain nonempty someLine,
        partsFrom?_of_cut plain nonempty found, same⟩
    have noCut : t = [] ∨ lineOf s = [] := (not_and_or.1 cut).imp not_not.1 not_not.1
    rw [List.length_append, List.length_cons] at length
    rw [partsFrom?_of_no_cut plain noCut, hasCut_append_cons_iff plain]
    rcases ih s.length (by omega) s rfl with ⟨nothing, noLaterCut⟩ |
        ⟨before, field, line, after, value, read, found, same⟩
    · exact .inl ⟨nothing, not_or_intro cut noLaterCut⟩
    · exact .inr ⟨_, field, line, after, value, read.behind_equals plain noCut, found, same⟩

/-- An expression without a cut is refused, and any other one is read at its first cut. -/
theorem ofExpression_cases (e : List Char) :
    ofExpression e = .error (.filterExpression (String.ofList e)) ∧ ¬ HasCut e ∨
      ∃ before field line after, ReadAt e before field line after ∧
        ofExpression e = .ok (ofCut field line) := by
  unfold ofExpression
  rcases partsFrom?_cases e with ⟨nothing, noCut⟩ |
      ⟨before, field, line, after, value, read, found, same⟩
  · rw [nothing]
    exact .inl ⟨rfl, noCut⟩
  · refine .inr ⟨before, field, line, after, read, ?_⟩
    rw [found, ofCut, ← same]

theorem readAt_of_ofExpression (ok : ofExpression e = .ok p) :
    ∃ before field line after, ReadAt e before field line after ∧ p = ofCut field line := by
  rcases ofExpression_cases e with ⟨refused, -⟩ | ⟨before, field, line, after, read, found⟩
  · rw [refused] at ok
    cases ok
  · rw [found] at ok
    cases ok
    exact ⟨before, field, line, after, read, rfl⟩

theorem not_hasCut_of_ofExpression {reason : Rejection} (refused : ofExpression e = .error reason) :
    ¬ HasCut e ∧ reason = .filterExpression (String.ofList e) := by
  rcases ofExpression_cases e with ⟨refused', noCut⟩ | ⟨before, field, line, after, -, found⟩
  · rw [refused'] at refused
    cases refused
    exact ⟨noCut, rfl⟩
  · rw [found] at refused
    cases refused

/-- An expression that starts with a field is cut behind it. -/
theorem ofExpression_of_field (plain : '=' ∉ field) (nonempty : field ≠ [])
    (someLine : lineOf rest ≠ []) :
    ofExpression (field ++ '=' :: rest) = .ok (ofCut field (lineOf rest)) := by
  obtain ⟨value, found, same⟩ := exists_valueText? someLine
  rw [ofExpression, partsFrom?_of_cut plain nonempty found, ofCut, ← same]

end Read

/-! ## Expressions that are read as a whole -/

/-- A text is the field, an equals sign and the value that is asked for, with nothing but blanks around
field and value. -/
def Spells (p : Predicate) (e : List Char) : Prop :=
  ∃ (value : String) (w₁ w₂ w₃ w₄ : List Char),
    p.value = .text value ∧
      Text.AllBlank w₁ ∧ Text.AllBlank w₂ ∧ Text.AllBlank w₃ ∧ Text.AllBlank w₄ ∧
      e = w₁ ++ p.field.toList ++ w₂ ++ '=' :: (w₃ ++ value.toList ++ w₄)

/-- A field starts the text, a value follows its equals sign on the same line, and what follows this
line is blank. -/
def IsWhole (e : List Char) : Prop :=
  ∃ field line after, e = field ++ '=' :: (line ++ after) ∧ field ≠ [] ∧ '=' ∉ field ∧ line ≠ [] ∧
    '\n' ∉ line ∧ Text.AllBlank after

section Whole

variable {e before field line after : List Char} {p : Predicate}

theorem spells_of_allBlank (blank : Text.AllBlank after) (field line : List Char) :
    (ofCut field line).Spells (field ++ '=' :: (line ++ after)) := by
  obtain ⟨w₁, w₂, blank₁, blank₂, wholeField⟩ := Text.exists_blanks_trim field
  obtain ⟨w₃, w₄, blank₃, blank₄, wholeLine⟩ := Text.exists_blanks_trim line
  refine ⟨_, w₁, w₂, w₃, w₄ ++ after, rfl, blank₁, blank₂, blank₃,
    List.forall_mem_append.2 ⟨blank₄, blank⟩, ?_⟩
  rw [ofCut, String.toList_ofList, String.toList_ofList,
    ← List.append_assoc (w₃ ++ Text.trim line), ← wholeField, ← wholeLine]

/-- A predicate has the characters of its field and its line, blanks aside, and no others. So if it
spells the whole expression, no others are there. -/
theorem ReadAt.of_spells (read : ReadAt e before field line after)
    (spells : (ofCut field line).Spells e) : before = [] ∧ Text.AllBlank after := by
  obtain ⟨value, w₁, w₂, w₃, w₄, isText, blank₁, blank₂, blank₃, blank₄, spelled⟩ := spells
  have sameValue : value = String.ofList (Text.trim line) := (Value.text.inj isText).symm
  have equalsSign (s : List Char) : Text.countSolid ('=' :: s) = Text.countSolid s + 1 :=
    List.countP_cons_of_pos (by decide)
  have counts := congrArg Text.countSolid (read.whole.symm.trans spelled)
  simp only [ofCut, sameValue, String.toList_ofList, Text.countSolid_append, equalsSign,
    Text.countSolid_trim, Text.allBlank_iff_countSolid.1 blank₁,
    Text.allBlank_iff_countSolid.1 blank₂, Text.allBlank_iff_countSolid.1 blank₃,
    Text.allBlank_iff_countSolid.1 blank₄] at counts
  have blankBefore : Text.AllBlank before := Text.allBlank_iff_countSolid.2 (by omega)
  refine ⟨?_, Text.allBlank_iff_countSolid.2 (by omega)⟩
  rcases read.before_ends with nothing | equals
  · exact nothing
  · have blankEquals := blankBefore '=' (List.mem_of_getLast? equals)
    exact absurd blankEquals (by decide)

/-- A predicate spells its expression exactly if the expression is read as a whole. -/
theorem spells_iff_isWhole (ok : ofExpression e = .ok p) : p.Spells e ↔ IsWhole e := by
  constructor
  · intro spells
    obtain ⟨before, field, line, after, read, rfl⟩ := readAt_of_ofExpression ok
    obtain ⟨rfl, blank⟩ := read.of_spells spells
    exact ⟨field, line, after, read.whole, read.field_ne_nil, read.field_plain, read.line_ne_nil,
      read.line_single, blank⟩
  · rintro ⟨field, line, after, rfl, nonempty, plain, lineNonempty, single, blank⟩
    have firstLine := lineOf_append single after
    have someLine : lineOf (line ++ after) ≠ [] := by
      rw [firstLine]
      exact List.append_ne_nil_of_left_ne_nil lineNonempty _
    have parts : lineOf (line ++ after) ++ behindLine after = line ++ after := by
      rw [firstLine, List.append_assoc, lineOf_append_behindLine]
    have blankBehind : Text.AllBlank (behindLine after) :=
      fun c mem => blank c ((List.dropWhile_suffix _).mem mem)
    have spells := spells_of_allBlank blankBehind field (lineOf (line ++ after))
    rw [parts] at spells
    rw [Except.ok.inj (ok.symm.trans (ofExpression_of_field plain nonempty someLine))]
    exact spells

end Whole

end Predicate

/-! ## Filters -/

namespace Filter

theorem separator_ne_nil : separator ≠ [] := List.cons_ne_nil _ _

/-- The expressions of a filter parameter. -/
def expressions (s : String) : List (List Char) :=
  if s.isEmpty then [] else Text.splitAround separator (unquoted s.toList) separator_ne_nil

theorem ofText_eq_mapM (s : String) :
    ofText s = ((expressions s).mapM Predicate.ofExpression).map Filter.mk := by
  unfold ofText expressions
  split <;> rfl

theorem intercalate_expressions (s : String) :
    separator.intercalate (expressions s) = unquoted s.toList := by
  unfold expressions
  split
  case isTrue empty =>
    rw [String.isEmpty_iff.1 empty]
    rfl
  case isFalse => exact Text.intercalate_splitAround _ _

/-- Joined again, the expressions of a filter parameter are its text without the quotes. A parameter
is refused because of its first expression without a cut. Otherwise each expression is read at its
first cut, and what comes before the field and after the line there is left over. Nothing but blanks
is left over exactly if the expression is read as a whole. -/
theorem ofText_spells_iff_isWhole (s : String) :
    separator.intercalate (expressions s) = unquoted s.toList ∧
      match ofText s with
      | .error reason =>
        ∃ before e after, expressions s = before ++ e :: after ∧
          (∀ b ∈ before, Predicate.HasCut b) ∧ ¬ Predicate.HasCut e ∧
          reason = .filterExpression (String.ofList e)
      | .ok f =>
        List.Forall₂ (fun e p =>
          (∃ before field line after,
            Predicate.ReadAt e before field line after ∧ p = Predicate.ofCut field line) ∧
          (p.Spells e ↔ Predicate.IsWhole e)) (expressions s) f.predicates := by
  refine ⟨intercalate_expressions s, ?_⟩
  rw [ofText_eq_mapM]
  cases read : (expressions s).mapM Predicate.ofExpression with
  | error reason =>
    obtain ⟨before, e, after, split, good, refused⟩ := exists_of_mapM_eq_error read
    obtain ⟨noCut, rfl⟩ := Predicate.not_hasCut_of_ofExpression refused
    refine ⟨before, e, after, split, fun b mem => ?_, noCut, rfl⟩
    obtain ⟨p, ok⟩ := good b mem
    obtain ⟨_, _, _, _, readAt, -⟩ := Predicate.readAt_of_ofExpression ok
    exact readAt.hasCut
  | ok predicates =>
    refine (mapM_eq_ok_iff.1 read).imp fun e p ok => ?_
    exact ⟨Predicate.readAt_of_ofExpression ok, Predicate.spells_iff_isWhole ok⟩

/-- An equals sign in front does not keep an expression from being read behind it, as if this equals
sign were not there. -/
theorem not_spells_of_leading_equals :
    expressions "=a=b" = ["=a=b".toList] ∧ ofText "=a=b" = .ok ⟨[⟨"a", .text "b"⟩]⟩ ∧
      ¬ Predicate.Spells ⟨"a", .text "b"⟩ "=a=b".toList := by
  have read : Predicate.ofExpression "=a=b".toList = .ok ⟨"a", .text "b"⟩ := by decide +kernel
  refine ⟨by with_unfolding_all rfl, by with_unfolding_all rfl, fun spells => ?_⟩
  obtain ⟨field, line, after, whole, nonempty, plain, -⟩ :=
    (Predicate.spells_iff_isWhole read).1 spells
  obtain ⟨c, field, rfl⟩ := List.exists_cons_of_ne_nil nonempty
  have first : '=' = c := (List.cons.inj whole).1
  exact plain (first ▸ List.mem_cons_self)

end Filter

end RecordQuery
