import RecordQuery.Proofs.ConstantIdentifiers
import RecordQuery.Proofs.FieldReadings

/-!
Fields in raw spelling. An identifier with a raw mark is the one without it, and members are spelled either
way. A rule that joins words drops the mark, and a field that is given a name does not need its identifier, so
there the spelling makes no difference. Where names are the identifiers as written, the mark becomes part of
the name, and no constant can hold it: of an accepted declaration the raw spelling of a field leaves the layout
as it is, or no layout at all (`Declaration.layout_raw`).
-/

namespace RecordQuery

/-! ## Marks -/

/-- An identifier without raw marks. -/
def unmarked (ident : String) : String := String.ofList (RenameRule.withoutRawMarks ident.toList)

theorem unmarked_marked (ident : String) : unmarked ("r#" ++ ident) = unmarked ident := by
  unfold unmarked
  rw [toList_marked]
  rfl

/-- A function that takes a marked identifier for the one without the mark takes no notice of marks. -/
theorem apply_unmarked {α : Type u} {f : String → α} (marks : ∀ ident, f ("r#" ++ ident) = f ident)
    (ident : String) : f (unmarked ident) = f ident := by
  obtain ⟨s, rfl⟩ : ∃ s, ident = String.ofList s := ⟨ident.toList, String.ofList_toList.symm⟩
  unfold unmarked
  rw [String.toList_ofList]
  fun_induction RenameRule.withoutRawMarks s with
  | case1 s ih =>
    have spelled : String.ofList ('r' :: '#' :: s) = "r#" ++ String.ofList s := by
      rw [← String.toList_inj, toList_marked, String.toList_ofList, String.toList_ofList]
    rw [ih, spelled, marks]
  | case2 => rfl

/-- Rules that join words drop the mark. -/
theorem RenameRule.apply_marked {rule : RenameRule} (joins : rule ≠ .asWritten) (ident : String) :
    rule.apply ("r#" ++ ident) = rule.apply ident := by
  cases rule with
  | asWritten => exact absurd rfl joins
  | camelCase | pascalCase =>
    dsimp only [apply]
    unfold joinWords
    rw [toList_marked]
    rfl

/-! ## Fields and layouts but for marks -/

/-- A query field with its member spelled without marks. -/
def QueryField.unmarked (f : QueryField) : QueryField := { f with member := RecordQuery.unmarked f.member }

/-- The fields of a layout with their members spelled without marks. -/
def Layout.unmarkedFields (l : Layout) : List QueryField := l.fields.map QueryField.unmarked

/-- Two layouts have the same names and constants, and read the same of records whose members may be spelled
either way. -/
structure Layout.GeneratesAlike (l l' : Layout) : Prop where
  names : l'.names = l.names
  constants : l'.constants = l.constants
  read : ∀ member : String → Member, (∀ ident, member ("r#" ++ ident) = member ident) →
    ∀ name, l'.read member name = l.read member name

theorem Layout.read_unmarkedFields {member : String → Member}
    (marks : ∀ ident, member ("r#" ++ ident) = member ident) (l : Layout) (name : String) :
    (Layout.mk l.unmarkedFields).read member name = l.read member name := by
  have sameName : (fun f : QueryField => f.name == name) ∘ QueryField.unmarked = (·.name == name) := rfl
  unfold read unmarkedFields
  rw [List.find?_map, sameName]
  cases l.fields.find? (·.name == name) with
  | none => rfl
  | some f => exact congrArg f.kind.view (apply_unmarked marks f.member)

theorem Layout.generatesAlike_of_unmarkedFields {l l' : Layout}
    (same : l'.unmarkedFields = l.unmarkedFields) : l.GeneratesAlike l' := by
  have names (l : Layout) : l.names = l.unmarkedFields.map QueryField.name := by
    unfold names unmarkedFields
    rw [List.map_map]
    rfl
  have sameNames : l'.names = l.names := by rw [names, names, same]
  refine ⟨sameNames, ?_, fun member marks name => ?_⟩
  · unfold constants
    rw [sameNames]
  · rw [← read_unmarkedFields marks l', same, read_unmarkedFields marks l]

/-! ## Declarations -/

namespace FieldDeclaration

variable {annotations : List Annotation} {field : FieldDeclaration} {rule : RenameRule}

/-- The field with its identifier in raw spelling. -/
def raw (field : FieldDeclaration) : FieldDeclaration := { field with ident := "r#" ++ field.ident }

/-- Queries name the field by its identifier as it is spelled: its annotation makes it queryable and gives it
no other name, and the type has no rule that joins words. -/
def IsNamedAsWritten (annotations : List Annotation) (field : FieldDeclaration) : Prop :=
  RenameRule.requested annotations = .asWritten ∧
    ∃ options, FieldOptions.ofAnnotations field.annotations = .ok options ∧
      options.queryKind?.isSome ∧ options.rename = none

/-- Other fields are read alike in both spellings, but for the mark on the member. -/
theorem reading_raw (otherName : ¬ field.IsNamedAsWritten annotations) :
    (field.raw.reading (.requested annotations)).map (Option.map QueryField.unmarked) =
      (field.reading (.requested annotations)).map (Option.map QueryField.unmarked) := by
  unfold reading
  cases given : FieldOptions.ofAnnotations field.annotations with
  | error e =>
    have givenRaw : FieldOptions.ofAnnotations field.raw.annotations = .error e := given
    rw [givenRaw]
    rfl
  | ok options =>
    have givenRaw : FieldOptions.ofAnnotations field.raw.annotations = .ok options := given
    rw [givenRaw, queryField?_of_options given, queryField?_of_options givenRaw]
    cases kindGiven : options.queryKind? with
    | none => rfl
    | some kind =>
      have sameName : options.rename.getD ((RenameRule.requested annotations).apply field.raw.ident) =
          options.rename.getD ((RenameRule.requested annotations).apply field.ident) := by
        cases renamed : options.rename with
        | some name => rfl
        | none =>
          refine RenameRule.apply_marked (fun asWritten => otherName ?_) field.ident
          exact ⟨asWritten, options, given, Option.isSome_of_eq_some kindGiven, renamed⟩
      have sameMember : RecordQuery.unmarked field.raw.ident = RecordQuery.unmarked field.ident :=
        unmarked_marked field.ident
      simp only [Except.map, Option.map_some, Declaration.queryField, QueryField.unmarked, sameName,
        sameMember]

end FieldDeclaration

namespace Declaration

variable {annotations : List Annotation} {before after : List FieldDeclaration}
variable {field : FieldDeclaration}

/-- Behind accepted fields, a raw field that is named as it is written is refused. -/
theorem layout_raw_of_isNamedAsWritten (asWritten : field.IsNamedAsWritten annotations) :
    (Declaration.mk annotations (.fields (before ++ field.raw :: after))).layout =
      (Declaration.mk annotations (.fields before)).layout.bind fun _ =>
        .error (.constantNotIdentifier (constantName ("r#" ++ field.ident))) := by
  obtain ⟨noRule, options, given, queryable, unnamed⟩ := asWritten
  cases ruleGiven : RenameRule.ofAnnotations annotations with
  | error e =>
    rw [layout_eq_gather, layout_eq_gather, ruleGiven]
    rfl
  | ok rule =>
    rw [← RenameRule.eq_requested ruleGiven] at noRule
    cases accepted : (Declaration.mk annotations (.fields before)).layout with
    | error e =>
      rw [layout_of_rule ruleGiven, map_eq_error_iff] at accepted
      rw [layout_of_rule ruleGiven, List.foldlM_append, accepted]
      rfl
    | ok l =>
      obtain ⟨kind, kindGiven⟩ := Option.isSome_iff_exists.1 queryable
      have name : (queryField rule field.raw options kind).name = "r#" ++ field.ident := by
        unfold queryField
        rw [noRule, unnamed]
        rfl
      have givenRaw : FieldOptions.ofAnnotations field.raw.annotations = .ok options := given
      have isField : field.raw.queryField? rule = some (queryField rule field.raw options kind) := by
        rw [FieldDeclaration.queryField?_of_options givenRaw, kindGiven]
        rfl
      have noIdentifier := not_formsIdentifier_marked field.ident
      -- the name is new, as accepted names have constants and a marked one has none
      obtain ⟨-, -, constants, -, rfl⟩ := layout_eq_ok_iff.1 accepted
      refine (layout_of_rule_eq_constantNotIdentifier_iff ruleGiven).2 ⟨before, field.raw, after, _, _,
        rfl, accepted, ⟨options, givenRaw⟩, isField, ?_, ?_, ?_⟩
      · rw [name]
        intro taken
        obtain ⟨f, mem, same⟩ := List.mem_map.1 taken
        have named := QueryField.hasConstant_iff.1 (constants f mem)
        exact noIdentifier (same ▸ named)
      · rw [name]
        exact noIdentifier
      · rw [name]

/-- A field in raw spelling leaves a declaration's outcome as it is, but for the spelling of the member, unless
the field is named as it is written; then the declaration is refused there for want of a constant's name. -/
theorem layout_raw (annotations : List Annotation) (before after : List FieldDeclaration)
    (field : FieldDeclaration) :
    let outcome (field : FieldDeclaration) :=
      (Declaration.mk annotations (.fields (before ++ field :: after))).layout
    (¬ field.IsNamedAsWritten annotations →
      (outcome field.raw).map Layout.unmarkedFields = (outcome field).map Layout.unmarkedFields) ∧
    (field.IsNamedAsWritten annotations →
      outcome field.raw = (Declaration.mk annotations (.fields before)).layout.bind fun _ =>
        .error (.constantNotIdentifier (constantName ("r#" ++ field.ident)))) ∧
    ∀ l, outcome field = .ok l →
      ((∃ l', outcome field.raw = .ok l' ∧ l.GeneratesAlike l') ↔
        ¬ field.IsNamedAsWritten annotations) := by
  intro outcome
  have alike (otherName : ¬ field.IsNamedAsWritten annotations) :
      (outcome field.raw).map Layout.unmarkedFields = (outcome field).map Layout.unmarkedFields :=
    layout_exchange_map (fun _ => rfl) (FieldDeclaration.reading_raw otherName)
  refine ⟨alike, layout_raw_of_isNamedAsWritten, fun l ok => ⟨?_, fun otherName => ?_⟩⟩
  · rintro ⟨l', accepted, -⟩ asWritten
    have refused := (layout_raw_of_isNamedAsWritten asWritten).symm.trans accepted
    obtain ⟨_, -, notOk⟩ := bind_eq_ok_iff.1 refused
    cases notOk
  · have unmarked := alike otherName
    rw [ok] at unmarked
    obtain ⟨l', accepted, same⟩ := map_eq_ok_iff.1 unmarked
    exact ⟨l', accepted, Layout.generatesAlike_of_unmarkedFields same⟩

/-- A tag between two other fields, with and without a rule that joins words. -/
theorem layout_raw_of_tags :
    let text (ident : String) : FieldDeclaration := ⟨ident, [⟨"field", [.path ["Text"]]⟩]⟩
    let camel : List Annotation := [⟨"record", [.assign "rename_all" (.string "camelCase")]⟩]
    let outcome (annotations : List Annotation) (field : FieldDeclaration) :=
      (Declaration.mk annotations (.fields [text "host_name", field, text "rack"])).layout
    ¬ (text "tag_type").IsNamedAsWritten camel ∧
    (∃ l, outcome camel (text "tag_type").raw = .ok l ∧
      l.names = ["hostName", "tagType", "rack"] ∧
      l.constants = [("HOST_NAME", "hostName"), ("TAG_TYPE", "tagType"), ("RACK", "rack")]) ∧
    (text "tag").IsNamedAsWritten [] ∧
    outcome [] (text "tag").raw = .error (.constantNotIdentifier "R#TAG") := by
  intro text camel outcome
  have joined : ¬ (text "tag_type").IsNamedAsWritten camel := by
    rintro ⟨noRule, -⟩
    revert noRule
    decide +kernel
  have asWritten : (text "tag").IsNamedAsWritten [] := ⟨rfl, ⟨some .text, false, none⟩, by decide +kernel⟩
  have accepted : outcome camel (text "tag_type") =
      .ok ⟨[⟨"hostName", "host_name", .text⟩, ⟨"tagType", "tag_type", .text⟩, ⟨"rack", "rack", .text⟩]⟩ := by
    decide +kernel
  obtain ⟨-, -, alike⟩ := layout_raw camel [text "host_name"] [text "rack"] (text "tag_type")
  obtain ⟨-, refused, -⟩ := layout_raw [] [text "host_name"] [text "rack"] (text "tag")
  obtain ⟨l, ok, same⟩ := (alike _ accepted).2 joined
  refine ⟨joined, ⟨l, ok, same.names, ?_⟩, asWritten, (refused asWritten).trans (by decide +kernel)⟩
  rw [same.constants]
  decide +kernel

/-- One field, whose name may be spelled either way. -/
theorem exists_refused_raw_spelling :
    let text (ident : String) : Declaration :=
      ⟨[], .fields [⟨ident, [⟨"field", [.path ["Text"]]⟩]⟩]⟩
    (text "name").layout = .ok ⟨[⟨"name", "name", .text⟩]⟩ ∧
      (text "r#name").layout = .error (.constantNotIdentifier "R#NAME") := by
  decide +kernel

end Declaration

end RecordQuery
