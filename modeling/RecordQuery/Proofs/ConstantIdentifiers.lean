import RecordQuery.Proofs.ConstantNames

/-!
Declarations whose constants have no names. The constant for a query name has to be an identifier, and it
is one exactly if the name starts with a word mark or like an identifier and holds nothing but word marks
and characters of identifiers (`isIdentifier_constantName_iff`). Query names are not bound to that: a
`rename` may give any string, a rule leaves out underscores, and an identifier in raw spelling keeps its
mark where names are as written.

So a declaration without other faults may still have no layout. It has none for this reason exactly if the
fields before some field are accepted, the field can be read and has a new name, and the name gives no
identifier (`Declaration.layout_eq_constantNotIdentifier_iff`).
-/

namespace RecordQuery

/-! ## Names that give identifiers -/

/-- The constant for a name is an identifier, by the characters of the name. -/
def FormsIdentifier (name : String) : Prop :=
  ∃ c s, name.toList = c :: s ∧ (isWordMark c = true ∨ IdentifierTable.start.contains c = true) ∧
    ∀ d ∈ s, isWordMark d = true ∨ IdentifierTable.continuing.contains d = true

section Characters

variable {c : Char} {s : List Char} {afterLower : Bool}

theorem start_toUpper (c : Char) :
    IdentifierTable.start.contains c.toUpper = IdentifierTable.start.contains c := by
  obtain ⟨n, ascii, rfl⟩ | same := ascii_or_toUpper_eq c
  · have all : ∀ n < 0x80, IdentifierTable.start.contains (Char.ofNat n).toUpper =
        IdentifierTable.start.contains (Char.ofNat n) := by
      decide +kernel
    exact all n ascii
  · rw [same]

theorem continuing_toUpper (c : Char) :
    IdentifierTable.continuing.contains c.toUpper = IdentifierTable.continuing.contains c := by
  obtain ⟨n, ascii, rfl⟩ | same := ascii_or_toUpper_eq c
  · have all : ∀ n < 0x80, IdentifierTable.continuing.contains (Char.ofNat n).toUpper =
        IdentifierTable.continuing.contains (Char.ofNat n) := by
      decide +kernel
    exact all n ascii
  · rw [same]

theorem continuing_underscore : IdentifierTable.continuing.contains '_' = true := by
  decide +kernel

theorem forall_continuing_capitalsFrom (afterLower : Bool) (s : List Char) :
    (∀ d ∈ capitalsFrom afterLower s, IdentifierTable.continuing.contains d = true) ↔
      ∀ d ∈ s, isWordMark d = true ∨ IdentifierTable.continuing.contains d = true := by
  induction s generalizing afterLower with
  | nil =>
    rw [capitalsFrom]
    simp
  | cons c s ih =>
    have lead : ∀ d ∈ if afterLower && Text.isUppercase c then ['_'] else [],
        IdentifierTable.continuing.contains d = true := by
      split
      · exact List.forall_mem_singleton.2 continuing_underscore
      · exact fun _ mem => absurd mem List.not_mem_nil
    rw [capitalsFrom_cons, List.forall_mem_append, List.forall_mem_cons, List.forall_mem_cons, ih,
      and_iff_right lead]
    refine and_congr_left' ?_
    cases isWordMark c with
    | true => simp [continuing_underscore]
    | false => simp [continuing_toUpper]

end Characters

/-- The constant for a name is an identifier exactly if the name is made of the right characters. -/
theorem isIdentifier_constantName_iff {name : String} :
    Text.isIdentifier (constantName name).toList = true ↔ FormsIdentifier name := by
  unfold constantName FormsIdentifier
  rw [String.toList_ofList]
  cases name.toList with
  | nil =>
    have nothing : Text.isIdentifier (capitalsFrom false []) = false := rfl
    simp [nothing]
  | cons c s =>
    have lead : (if false && Text.isUppercase c then ['_'] else []) = [] := rfl
    rw [capitalsFrom_cons, lead, List.nil_append, Text.isIdentifier, Bool.and_eq_true, List.all_eq_true,
      forall_continuing_capitalsFrom, Bool.or_eq_true, beq_iff_eq]
    have first : (if isWordMark c then '_' else c.toUpper) = '_' ∨
        IdentifierTable.start.contains (if isWordMark c then '_' else c.toUpper) = true ↔
          isWordMark c = true ∨ IdentifierTable.start.contains c = true := by
      cases mark : isWordMark c with
      | true => simp
      | false =>
        have noUnderscore : c.toUpper ≠ '_' := by
          intro lifted
          rw [toUpper_eq_underscore lifted] at mark
          cases mark
        simp [noUnderscore, start_toUpper]
    rw [first]
    simp

theorem QueryField.hasConstant_iff {f : QueryField} : f.HasConstant ↔ FormsIdentifier f.name :=
  isIdentifier_constantName_iff

theorem toList_marked (ident : String) : ("r#" ++ ident).toList = 'r' :: '#' :: ident.toList := by
  rw [String.toList_append]
  rfl

theorem not_formsIdentifier_marked (ident : String) : ¬ FormsIdentifier ("r#" ++ ident) := by
  rintro ⟨c, s, characters, -, others⟩
  rw [toList_marked] at characters
  obtain ⟨-, rfl⟩ := List.cons.inj characters
  have mark := others '#' List.mem_cons_self
  revert mark
  decide +kernel

/-- An identifier is made of the right characters, and is not with a raw mark in front. -/
theorem formsIdentifier_of_isIdentifier {ident : String}
    (valid : Text.isIdentifier ident.toList = true) :
    FormsIdentifier ident ∧ ¬ FormsIdentifier ("r#" ++ ident) := by
  refine ⟨?_, not_formsIdentifier_marked ident⟩
  unfold FormsIdentifier
  cases characters : ident.toList with
  | nil =>
    rw [characters] at valid
    cases valid
  | cons c s =>
    rw [characters, Text.isIdentifier, Bool.and_eq_true, List.all_eq_true, Bool.or_eq_true,
      beq_iff_eq] at valid
    refine ⟨c, s, rfl, valid.1.imp_left ?_, fun d mem => .inr (valid.2 d mem)⟩
    rintro rfl
    rfl

/-! ## Declarations without a layout -/

section Annotations

variable {annotations : List Annotation} {constant : String}

/-- Annotations are not refused for a constant. -/
theorem FieldOptions.ofAnnotations_ne_constantNotIdentifier :
    ofAnnotations annotations ≠ .error (.constantNotIdentifier constant) := by
  intro failed
  obtain ⟨-, a, -, o, -, -, refused⟩ := foldlM_eq_error_iff.1 failed
  unfold addArgument at refused
  split at refused
  case h_2 name _ =>
    split at refused
    · cases refused
    · cases (elim_eq_error_iff.1 refused).2
  all_goals cases refused

theorem RenameRule.ofAnnotations_ne_constantNotIdentifier :
    ofAnnotations annotations ≠ .error (.constantNotIdentifier constant) := by
  intro failed
  obtain ⟨-, a, -, rule, -, -, refused⟩ := foldlM_eq_error_iff.1 failed
  unfold addArgument at refused
  split at refused
  case h_1 => cases (elim_eq_error_iff.1 refused).2
  all_goals cases refused

end Annotations

namespace Declaration

variable {rule : RenameRule} {field : FieldDeclaration} {done : List QueryField} {constant : String}

theorem addField_eq_constantNotIdentifier_iff :
    addField rule done field = .error (.constantNotIdentifier constant) ↔
      field.IsReadable ∧ ∃ f, field.queryField? rule = some f ∧
        f.name ∉ done.map QueryField.name ∧ ¬ FormsIdentifier f.name ∧
        constant = constantName f.name := by
  by_cases readable : field.IsReadable
  case neg =>
    refine iff_of_false (fun failed => ?_) fun read => readable read.1
    rcases bind_eq_error_iff.1 failed with unread | ⟨options, given, -⟩
    · exact FieldOptions.ofAnnotations_ne_constantNotIdentifier unread
    · exact readable ⟨options, given⟩
  rw [addField_of_isReadable readable]
  cases field.queryField? rule with
  | none => simp
  | some f =>
    simp only [readable, true_and, Option.some.injEq, exists_eq_left', ← QueryField.hasConstant_iff]
    by_cases taken : f.name ∈ done.map QueryField.name
    · simp [taken]
    · by_cases named : f.HasConstant
      · simp [taken, named]
      · simp [taken, named, eq_comm (a := constant)]

/-- The declared fields from some field on do not count if this field has a name that gives no identifier. -/
theorem layout_of_rule_eq_constantNotIdentifier_iff {annotations : List Annotation}
    {fields : List FieldDeclaration} (ruleGiven : RenameRule.ofAnnotations annotations = .ok rule) :
    (Declaration.mk annotations (.fields fields)).layout = .error (.constantNotIdentifier constant) ↔
      ∃ before field after f l, fields = before ++ field :: after ∧
        (Declaration.mk annotations (.fields before)).layout = .ok l ∧
        field.IsReadable ∧ field.queryField? rule = some f ∧ f.name ∉ l.names ∧
        ¬ FormsIdentifier f.name ∧ constant = constantName f.name := by
  simp only [layout_of_rule ruleGiven, map_eq_ok_iff, map_eq_error_iff]
  rw [foldlM_eq_error_iff]
  constructor
  · rintro ⟨before, field, after, done, rfl, accepted, refused⟩
    obtain ⟨readable, f, isField, fresh, noIdentifier, rfl⟩ :=
      addField_eq_constantNotIdentifier_iff.1 refused
    exact ⟨before, field, after, f, ⟨done⟩, rfl, ⟨done, accepted, rfl⟩, readable, isField, fresh,
      noIdentifier, rfl⟩
  · rintro ⟨before, field, after, f, _, rfl, ⟨done, accepted, rfl⟩, readable, isField, fresh,
      noIdentifier, rfl⟩
    exact ⟨before, field, after, done, rfl, accepted,
      addField_eq_constantNotIdentifier_iff.2 ⟨readable, f, isField, fresh, noIdentifier, rfl⟩⟩

/-- A declaration has no layout for want of a constant's name exactly if a field has a name that gives no
identifier, while the fields before it are accepted, the field can be read, and the name is new. Names as
written give identifiers where the fields have plain identifiers, and none where these are raw. -/
theorem layout_eq_constantNotIdentifier_iff (d : Declaration) :
    (∀ constant, d.layout = .error (.constantNotIdentifier constant) ↔
      ∃ rule before field after f l,
        RenameRule.ofAnnotations d.annotations = .ok rule ∧
        d.shape = .fields (before ++ field :: after) ∧
        (Declaration.mk d.annotations (.fields before)).layout = .ok l ∧
        field.IsReadable ∧ field.queryField? rule = some f ∧ f.name ∉ l.names ∧
        ¬ FormsIdentifier f.name ∧ constant = constantName f.name) ∧
    ∀ ident : String, Text.isIdentifier ident.toList = true →
      FormsIdentifier (RenameRule.asWritten.apply ident) ∧
        ¬ FormsIdentifier (RenameRule.asWritten.apply ("r#" ++ ident)) := by
  refine ⟨fun constant => ?_, fun ident => formsIdentifier_of_isIdentifier⟩
  obtain ⟨annotations, shape⟩ := d
  cases ruleGiven : RenameRule.ofAnnotations annotations with
  | error e =>
    have refused : (Declaration.mk annotations shape).layout = .error e := by
      unfold layout
      rw [ruleGiven]
      rfl
    rw [refused]
    refine iff_of_false (fun failed => ?_) fun ⟨rule, _, _, _, _, _, given, _⟩ => nomatch given
    cases failed
    exact RenameRule.ofAnnotations_ne_constantNotIdentifier ruleGiven
  | ok rule =>
    cases shape with
    | fields fields =>
      rw [layout_of_rule_eq_constantNotIdentifier_iff ruleGiven]
      constructor
      · rintro ⟨before, field, after, f, l, rfl, stops⟩
        exact ⟨rule, before, field, after, f, l, rfl, rfl, stops⟩
      · rintro ⟨_, before, field, after, f, l, ⟨⟩, ⟨⟩, stops⟩
        exact ⟨before, field, after, f, l, rfl, stops⟩
    | tuple | unit | enum | union =>
      refine iff_of_false (fun failed => ?_) fun ⟨_, _, _, _, _, _, _, other, _⟩ => nomatch other
      unfold layout at failed
      rw [ruleGiven] at failed
      cases failed

/-- The first field is accepted as `port`; without its underscore, the second one would be called `2fa`.
The third one does not count. -/
theorem layout_eq_constantNotIdentifier_of_ports :
    let camel : List Annotation := [⟨"record", [.assign "rename_all" (.string "camelCase")]⟩]
    let port : FieldDeclaration := ⟨"_port", [⟨"field", [.path ["Int"]]⟩]⟩
    let second : FieldDeclaration := ⟨"_2fa", [⟨"field", [.path ["Text"]]⟩]⟩
    let third : FieldDeclaration := ⟨"notes", [⟨"field", [.path ["Bool"]]⟩]⟩
    (Declaration.mk camel (.fields [port, second, third])).layout =
        .error (.constantNotIdentifier "2FA") ∧
      Text.isIdentifier "type".toList = true ∧ FormsIdentifier "type" ∧ ¬ FormsIdentifier "r#type" := by
  intro camel port second third
  obtain ⟨stops, -⟩ := layout_eq_constantNotIdentifier_iff ⟨camel, .fields [port, second, third]⟩
  obtain ⟨-, written⟩ := layout_eq_constantNotIdentifier_iff ⟨[], .unit⟩
  have valid : Text.isIdentifier "type".toList = true := by decide +kernel
  refine ⟨(stops "2FA").2 ?_, valid, (written "type" valid).1, (written "type" valid).2⟩
  have noIdentifier : ¬ FormsIdentifier "2fa" := by
    rw [← isIdentifier_constantName_iff]
    decide +kernel
  exact ⟨.camelCase, [port], second, [third], ⟨"2fa", "_2fa", .text⟩, ⟨[⟨"port", "_port", .int⟩]⟩,
    rfl, rfl, by decide +kernel, by decide +kernel, by decide +kernel, by decide, noIdentifier,
    by decide +kernel⟩

/-- A field with a raw identifier, and a field that is given a name of two words. -/
theorem exists_constant_without_identifier :
    let text (ident : String) (arguments : List Argument) : Declaration :=
      ⟨[], .fields [⟨ident, [⟨"field", .path ["Text"] :: arguments⟩]⟩]⟩
    (text "r#type" []).layout = .error (.constantNotIdentifier "R#TYPE") ∧
      (text "label" [.assign "rename" (.string "a b")]).layout = .error (.constantNotIdentifier "A B") := by
  decide +kernel

end Declaration

end RecordQuery
