import RecordQuery.Query.Basic
import Mathlib.Data.List.Basic

/-!
What a filter asks for. `Predicate.Holds` reads a predicate off the two values at hand, with nothing
prepared beforehand. A filter that was made ready keeps a record exactly if one of its predicates
holds in this sense, or if it has none (`Filter.matcher_accepts_iff`).

The patterns that the predicates share do not show in the answer because of what the table of
patterns holds at any time: the distinct texts that came up so far, each with the pattern that is
its own (`Filter.matcher_eq`).
-/

namespace RecordQuery

/-! ## The plain reading -/

/-- A record, given by its fields, has the predicate's field, and the field's value contains the
value that is asked for. A text that is asked of a field of another kind is read as a value of that
kind first. -/
def Predicate.Holds (p : Predicate) (field : String → Option Value) : Prop :=
  ∃ v, field p.field = some v ∧
    (v.kind = p.value.kind ∧ v.contains p.value = true ∨
      ∃ raw w, p.value = .text raw ∧ v.kind ≠ .text ∧ v.kind.read? raw = some w ∧
        v.contains w = true)

/-- The texts that a list of predicates asks for, in turn. -/
def Predicate.texts (predicates : List Predicate) : List String :=
  predicates.filterMap fun p =>
    match p.value with
    | .text raw => some raw
    | _ => none

theorem Value.kind_eq_of_contains {v needle : Value} (contained : v.contains needle = true) :
    v.kind = needle.kind := by
  cases v <;> cases needle <;> first | rfl | cases contained

/-! ## Needles -/

/-- The needle for a value, with a pattern that is prepared for this needle alone. -/
def Needle.ofValue : Value → Needle
  | .text raw => .text raw (Pattern.compile raw)
  | value => .typed value

theorem Needle.ofValue_of_kind_ne_text {value : Value} (notText : value.kind ≠ .text) :
    Needle.ofValue value = .typed value := by
  cases value with
  | text raw => exact absurd rfl notText
  | int _ => rfl
  | rfc3339 _ => rfl
  | instant _ => rfl

theorem Needle.accepts_text_of_kind_ne_text {raw : String} {pattern : Pattern} {v : Value}
    (notText : v.kind ≠ .text) :
    (Needle.text raw pattern).accepts v = (v.kind.read? raw).any v.contains := by
  cases v with
  | text _ => exact absurd rfl notText
  | int _ => rfl
  | rfc3339 _ => rfl
  | instant _ => rfl

/-- A needle accepts the values that contain what it stands for, or what its text stands for as a
value of their kind. -/
theorem Needle.ofValue_accepts_iff {needle v : Value} :
    (Needle.ofValue needle).accepts v = true ↔
      v.kind = needle.kind ∧ v.contains needle = true ∨
        ∃ raw w, needle = .text raw ∧ v.kind ≠ .text ∧ v.kind.read? raw = some w ∧
          v.contains w = true := by
  by_cases isText : needle.kind = .text
  case neg =>
    rw [Needle.ofValue_of_kind_ne_text isText]
    constructor
    · intro contained
      exact .inl ⟨Value.kind_eq_of_contains contained, contained⟩
    · rintro (⟨-, contained⟩ | ⟨raw, w, rfl, -⟩)
      · exact contained
      · exact absurd rfl isText
  obtain ⟨raw, rfl⟩ : ∃ raw, needle = .text raw := by
    cases needle <;> first | exact ⟨_, rfl⟩ | cases isText
  by_cases onText : v.kind = .text
  case neg =>
    rw [Needle.ofValue, Needle.accepts_text_of_kind_ne_text onText, Option.any_eq_true]
    constructor
    · rintro ⟨w, read, contained⟩
      exact .inr ⟨raw, w, rfl, onText, read, contained⟩
    · rintro (⟨sameKind, -⟩ | ⟨_, w, ⟨⟩, -, read, contained⟩)
      · exact absurd sameKind onText
      · exact ⟨w, read, contained⟩
  obtain ⟨haystack, rfl⟩ : ∃ haystack, v = .text haystack := by
    cases v <;> first | exact ⟨_, rfl⟩ | cases onText
  -- On a text, the prepared pattern is the one that containment prepares.
  constructor
  · intro accepted
    exact .inl ⟨rfl, accepted⟩
  · rintro (⟨-, contained⟩ | ⟨-, -, -, notText, -⟩)
    · exact contained
    · exact absurd rfl notText

/-! ## The table of patterns -/

/-- The table that holds texts in turn, each with its own pattern. -/
def PatternTable.ofTexts (raws : List String) : PatternTable :=
  ⟨raws.map fun raw => (raw, Pattern.compile raw)⟩

theorem PatternTable.lookup_ofTexts (raws : List String) (raw : String) :
    (PatternTable.ofTexts raws).entries.lookup raw =
      if raw ∈ raws then some (Pattern.compile raw) else none := by
  induction raws with
  | nil => rfl
  | cons first raws ih =>
    have step : (PatternTable.ofTexts (first :: raws)).entries =
      (first, Pattern.compile first) :: (PatternTable.ofTexts raws).entries := rfl
    rw [step, List.lookup_cons, ih]
    by_cases same : raw = first
    · subst same
      rw [beq_self_eq_true, if_pos List.mem_cons_self]
    · simp only [beq_eq_false_iff_ne.2 same, List.mem_cons, same, false_or]

/-- Asking for a text's pattern gives the pattern that is its own, and puts the text at the end of
the table if it is new. -/
theorem PatternTable.prepare_ofTexts (seen : List String) (raw : String) :
    (PatternTable.ofTexts seen.eraseDups).prepare raw =
      (PatternTable.ofTexts (seen ++ [raw]).eraseDups, Pattern.compile raw) := by
  unfold PatternTable.prepare
  rw [PatternTable.lookup_ofTexts, List.eraseDups_append, List.cons_removeAll]
  by_cases known : raw ∈ seen
  · rw [if_pos (List.mem_eraseDups.2 known), if_neg (by simpa using known)]
    simp [List.removeAll]
  · rw [if_neg (mt List.mem_eraseDups.1 known), if_pos (by simpa using known)]
    simp [PatternTable.ofTexts, List.removeAll, List.eraseDups_cons]

/-- Making predicates ready gives each of them its own needle. The table then holds the distinct
texts that came up, in the order in which they first did. -/
theorem Matcher.prepareAll_ofTexts (seen : List String) (predicates : List Predicate) :
    Matcher.prepareAll (.ofTexts seen.eraseDups) predicates =
      (.ofTexts (seen ++ Predicate.texts predicates).eraseDups,
        predicates.map fun p => (p.field, Needle.ofValue p.value)) := by
  induction predicates generalizing seen with
  | nil =>
    rw [Predicate.texts, List.filterMap_nil, List.append_nil]
    rfl
  | cons p predicates ih =>
    obtain ⟨field, value⟩ := p
    cases value with
    | text raw =>
      have texts : Predicate.texts (⟨field, .text raw⟩ :: predicates) =
        raw :: Predicate.texts predicates := rfl
      simp only [Matcher.prepareAll, Needle.prepare, PatternTable.prepare_ofTexts, ih, texts,
        List.append_assoc, List.singleton_append]
      rfl
    | int _ | rfc3339 _ | instant _ =>
      simp only [Matcher.prepareAll, Needle.prepare, ih]
      rfl

/-- A filter that was made ready has a needle for each predicate, in turn, and one pattern for each
distinct text. -/
theorem Filter.matcher_eq (f : Filter) :
    f.matcher = {
      needles := f.predicates.map fun p => (p.field, Needle.ofValue p.value)
      patterns := .ofTexts (Predicate.texts f.predicates).eraseDups } := by
  have prepared := Matcher.prepareAll_ofTexts [] f.predicates
  have start : PatternTable.ofTexts [].eraseDups = .empty := rfl
  rw [start, List.nil_append] at prepared
  rw [Filter.matcher, prepared]

/-! ## Filters -/

theorem Filter.matcher_accepts_iff_holds {f : Filter} {field : String → Option Value} :
    f.matcher.accepts field = true ↔ f.predicates = [] ∨ ∃ p ∈ f.predicates, p.Holds field := by
  rw [Filter.matcher_eq, Matcher.accepts, Bool.or_eq_true, List.isEmpty_iff, List.map_eq_nil_iff,
    List.any_map, List.any_eq_true]
  simp only [Function.comp_apply, Option.any_eq_true, Needle.ofValue_accepts_iff, Predicate.Holds]

/-- A filter that was made ready, with one pattern for each distinct text, keeps a record exactly if
it has no predicates or one of them holds by the plain reading. So neither the order of the
predicates nor their repetition counts, and predicates alone on fields that the record does not have
keep nothing. -/
theorem Filter.matcher_accepts_iff {ρ : Type u} (f : Filter) (access : Accessor ρ) (record : ρ) :
    f.matcher.patterns.entries =
        (Predicate.texts f.predicates).eraseDups.map (fun raw => (raw, Pattern.compile raw)) ∧
      (f.matcher.accepts (access record) = true ↔
        f.predicates = [] ∨ ∃ p ∈ f.predicates, p.Holds (access record)) ∧
      (∀ g : Filter, (∀ p, p ∈ g.predicates ↔ p ∈ f.predicates) →
        g.matcher.accepts (access record) = f.matcher.accepts (access record)) ∧
      (f.predicates ≠ [] → (∀ p ∈ f.predicates, access record p.field = none) →
        f.matcher.accepts (access record) = false) := by
  refine ⟨?_, Filter.matcher_accepts_iff_holds, ?_, ?_⟩
  · rw [Filter.matcher_eq]
    rfl
  · intro g same
    have sameEmpty : g.predicates = [] ↔ f.predicates = [] := by
      simp only [List.eq_nil_iff_forall_not_mem, same]
    rw [Bool.eq_iff_iff, Filter.matcher_accepts_iff_holds, Filter.matcher_accepts_iff_holds,
      sameEmpty]
    simp only [same]
  · intro nonempty absent
    rw [Bool.eq_false_iff, ne_eq, Filter.matcher_accepts_iff_holds]
    rintro (empty | ⟨p, mem, v, present, -⟩)
    · exact nonempty empty
    · rw [absent p mem] at present
      cases present

/-- A record without a name is kept because of its size, which a text is read as; the text that is
asked of both fields is no number. The same predicates the other way round, some of them repeated,
keep it as well, and a record with neither field is not kept. -/
theorem Filter.matcher_accepts_of_size :
    let f : Filter := ⟨[⟨"name", .text "web*"⟩, ⟨"size", .text "web*"⟩, ⟨"size", .text " +08"⟩]⟩
    let g : Filter := ⟨f.predicates.reverse ++ f.predicates⟩
    let access : Accessor (List (String × Value)) := fun record name => record.lookup name
    f.matcher.accepts (access [("size", .int 8)]) = true ∧
      (∀ p, p ∈ g.predicates ↔ p ∈ f.predicates) ∧
      g.matcher.accepts (access [("size", .int 8)]) = true ∧
      f.predicates ≠ [] ∧ (∀ p ∈ f.predicates, access [("zone", .int 8)] p.field = none) ∧
      f.matcher.accepts (access [("zone", .int 8)]) = false := by
  intro f g access
  obtain ⟨-, accepted, sameAnswer, -⟩ := Filter.matcher_accepts_iff f access [("size", .int 8)]
  obtain ⟨-, -, -, notKept⟩ := Filter.matcher_accepts_iff f access [("zone", .int 8)]
  have same : ∀ p, p ∈ g.predicates ↔ p ∈ f.predicates := by
    intro p
    rw [List.mem_append, List.mem_reverse, or_self]
  have kept : f.matcher.accepts (access [("size", .int 8)]) = true := by
    have read : Kind.int.read? " +08" = some (.int 8) := by decide +kernel
    refine accepted.2 (.inr ⟨⟨"size", .text " +08"⟩, by simp [f], .int 8, rfl, .inr ?_⟩)
    exact ⟨" +08", .int 8, rfl, by decide, read, by decide⟩
  have nonempty : f.predicates ≠ [] := List.cons_ne_nil _ _
  have absent : ∀ p ∈ f.predicates, access [("zone", .int 8)] p.field = none := by
    decide +kernel
  exact ⟨kept, same, (sameAnswer g same).trans kept, nonempty, absent, notKept nonempty absent⟩

end RecordQuery
