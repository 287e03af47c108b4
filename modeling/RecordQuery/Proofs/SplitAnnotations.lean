import RecordQuery.Proofs.FieldReadings

/-!
Fields with several annotations. The first annotation on a field counts and the others are not read, so a field
does not always stand for the same as with one annotation that holds the arguments of all, in order. It does
exactly if it has the same reading then; for a field that its first annotation makes queryable this means that
the others say nothing but its name again (`Declaration.layout_merged_iff`).
-/

namespace RecordQuery

/-! ## Arguments behind a kind -/

namespace FieldOptions

variable {o o' : FieldOptions} {a : Argument} {arguments : List Argument}

/-- Where the kind is given, only `skip` and names are left to say. -/
theorem of_addArgument_eq_ok_of_kind (ok : o.addArgument a = .ok o') (kindGiven : o.kind.isSome) :
    a = .path ["skip"] ∨ ∃ s, a = .assign "rename" (.string s) := by
  unfold addArgument at ok
  split at ok
  case h_1 => exact .inl rfl
  case h_2 =>
    rw [if_pos kindGiven] at ok
    cases ok
  case h_4 s => exact .inr ⟨s, rfl⟩
  all_goals cases ok

theorem of_foldlM_addArgument_eq_ok_of_kind (ok : arguments.foldlM addArgument o = .ok o')
    (kindGiven : o.kind.isSome) :
    ∀ a ∈ arguments, a = .path ["skip"] ∨ ∃ s, a = .assign "rename" (.string s) := by
  induction arguments generalizing o with
  | nil => exact fun a mem => absurd mem List.not_mem_nil
  | cons a arguments ih =>
    rw [List.foldlM_cons, bind_eq_ok_iff] at ok
    obtain ⟨between, first, rest⟩ := ok
    obtain ⟨kind, -, -⟩ := of_addArgument_eq_ok first
    have kindStays : between.kind.isSome := by
      rw [kind, Option.isSome_or, kindGiven, Bool.true_or]
    exact List.forall_mem_cons.2 ⟨of_addArgument_eq_ok_of_kind first kindGiven, ih rest kindStays⟩

/-- Of several names the last one counts. -/
theorem foldlM_addArgument_of_renames
    (renames : ∀ a ∈ arguments, ∃ s, a = .assign "rename" (.string s)) :
    arguments.foldlM addArgument o =
      .ok { o with rename := (arguments.reverse.findSome? Argument.rename?).or o.rename } := by
  induction arguments generalizing o with
  | nil => rfl
  | cons a arguments ih =>
    obtain ⟨⟨s, rfl⟩, renamesRest⟩ := List.forall_mem_cons.1 renames
    have first : o.addArgument (.assign "rename" (.string s)) = .ok { o with rename := some s } := rfl
    have name : Argument.rename? (.assign "rename" (.string s)) = some s := rfl
    rw [List.foldlM_cons, first, findSome?_reverse_cons, name, Option.or_assoc, Option.some_or]
    exact ih renamesRest

end FieldOptions

namespace FieldDeclaration

variable {field : FieldDeclaration} {rule : RenameRule} {f : QueryField}

/-! ## One annotation for several -/

/-- The arguments of all annotations on a field, in order. -/
def allArguments (field : FieldDeclaration) : List Argument :=
  (field.annotations.filter (·.name == "field")).flatMap Annotation.arguments

/-- The arguments of the annotations on a field behind the first one. -/
def laterArguments (field : FieldDeclaration) : List Argument :=
  (field.annotations.filter (·.name == "field")).tail.flatMap Annotation.arguments

/-- The field with one annotation that holds the arguments of all. -/
def merged (field : FieldDeclaration) : FieldDeclaration :=
  { field with
    annotations := ⟨"field", field.allArguments⟩ :: field.annotations.filter (·.name != "field") }

theorem allArguments_eq (field : FieldDeclaration) :
    field.allArguments = field.arguments ++ field.laterArguments := by
  unfold allArguments arguments laterArguments argumentsOf
  rw [← List.head?_filter]
  cases field.annotations.filter (·.name == "field") <;> rfl

theorem arguments_merged (field : FieldDeclaration) : field.merged.arguments = field.allArguments := rfl

theorem ofAnnotations_merged (field : FieldDeclaration) :
    FieldOptions.ofAnnotations field.merged.annotations =
      FieldOptions.ofAnnotations field.annotations >>=
        field.laterArguments.foldlM FieldOptions.addArgument := by
  have all (field : FieldDeclaration) : FieldOptions.ofAnnotations field.annotations =
      field.arguments.foldlM FieldOptions.addArgument {} := rfl
  rw [all, all, arguments_merged, allArguments_eq, List.foldlM_append]

/-- The later annotations on a field hold names only, of which the last is the given one. -/
def RepeatsName (field : FieldDeclaration) (name : String) : Prop :=
  (∀ a ∈ field.laterArguments, ∃ s, a = .assign "rename" (.string s)) ∧
    ∀ s ∈ field.laterArguments.reverse.findSome? Argument.rename?, s = name

theorem repeatsName_of_reading_merged (read : field.reading rule = .ok (some f))
    (readMerged : field.merged.reading rule = .ok (some f)) : field.RepeatsName f.name := by
  obtain ⟨⟨o, given⟩, isField⟩ := reading_eq_ok_iff.1 read
  obtain ⟨⟨o', givenMerged⟩, isFieldMerged⟩ := reading_eq_ok_iff.1 readMerged
  rw [queryField?_of_options given, Option.map_eq_some_iff] at isField
  rw [queryField?_of_options givenMerged, Option.map_eq_some_iff] at isFieldMerged
  obtain ⟨kind, hasKind, -⟩ := isField
  obtain ⟨kind', hasKind', rfl⟩ := isFieldMerged
  obtain ⟨-, kindGiven⟩ := FieldOptions.queryKind?_eq_some_iff.1 hasKind
  obtain ⟨shown, -⟩ := FieldOptions.queryKind?_eq_some_iff.1 hasKind'
  rw [ofAnnotations_merged, given] at givenMerged
  have said := FieldOptions.of_foldlM_addArgument_eq_ok_of_kind givenMerged
    (Option.isSome_of_eq_some kindGiven)
  obtain ⟨-, skip, rename⟩ := FieldOptions.of_foldlM_addArgument_eq_ok givenMerged
  refine ⟨fun a mem => ?_, fun s last => ?_⟩
  · rcases said a mem with rfl | renames
    · have hidden := skip.2 (.inr mem)
      rw [shown] at hidden
      cases hidden
    · exact renames
  · rw [Option.mem_def.1 last, Option.some_or] at rename
    unfold Declaration.queryField
    rw [rename]
    rfl

theorem reading_merged_of_repeatsName (read : field.reading rule = .ok (some f))
    (repeats : field.RepeatsName f.name) : field.merged.reading rule = .ok (some f) := by
  obtain ⟨⟨o, given⟩, isField⟩ := reading_eq_ok_iff.1 read
  rw [queryField?_of_options given, Option.map_eq_some_iff] at isField
  obtain ⟨kind, hasKind, rfl⟩ := isField
  obtain ⟨renames, last⟩ := repeats
  have givenMerged : FieldOptions.ofAnnotations field.merged.annotations = .ok
      { o with rename := (field.laterArguments.reverse.findSome? Argument.rename?).or o.rename } := by
    rw [ofAnnotations_merged, given]
    exact FieldOptions.foldlM_addArgument_of_renames renames
  refine reading_eq_ok_iff.2 ⟨⟨_, givenMerged⟩, ?_⟩
  rw [queryField?_of_options givenMerged]
  cases named : field.laterArguments.reverse.findSome? Argument.rename? with
  | none => exact congrArg (Option.map _) hasKind
  | some s =>
    refine (congrArg (Option.map _) hasKind).trans (congrArg some ?_)
    exact congrArg (fun name => QueryField.mk name field.ident kind) (last s named)

/-- A field that its first annotation makes queryable has the same reading with all annotations in one exactly
if the others repeat the name that it has anyway. -/
theorem reading_merged_iff (read : field.reading rule = .ok (some f)) :
    field.merged.reading rule = field.reading rule ↔ field.RepeatsName f.name := by
  rw [read]
  exact ⟨repeatsName_of_reading_merged read, reading_merged_of_repeatsName read⟩

end FieldDeclaration

/-! ## Declarations -/

namespace Declaration

/-- A field may be declared with all its annotations in one if it has the same reading then, and for the
outcome of an accepted declaration to be the same it has to. A field that its first annotation makes queryable
is queryable whatever the others say, and its reading is the same exactly if they only repeat its name. -/
theorem layout_merged_iff (annotations : List Annotation) (before after : List FieldDeclaration)
    (field : FieldDeclaration) :
    let outcome (field : FieldDeclaration) :=
      (Declaration.mk annotations (.fields (before ++ field :: after))).layout
    let rule := RenameRule.requested annotations
    (field.merged.reading rule = field.reading rule → outcome field.merged = outcome field) ∧
    ((∃ l, outcome field = .ok l ∨ outcome field.merged = .ok l) →
      (outcome field.merged = outcome field ↔ field.merged.reading rule = field.reading rule)) ∧
    ∀ f, field.reading rule = .ok (some f) →
      (∀ l, outcome field = .ok l → f ∈ l.fields) ∧
      (field.merged.reading rule = field.reading rule ↔ field.RepeatsName f.name) := by
  intro outcome rule
  refine ⟨layout_exchange, layout_exchange_iff, fun f read => ⟨fun l ok => ?_, ?_⟩⟩
  · obtain ⟨-, -, -, -, rfl⟩ := layout_eq_ok_iff.1 ok
    have isField := (FieldDeclaration.reading_eq_ok_iff.1 read).2
    exact List.mem_filterMap.2 ⟨field, List.mem_append_cons_self, isField⟩
  · exact FieldDeclaration.reading_merged_iff read

/-- A host that is named twice may be declared in one annotation, and a secret that is only later said to be
skipped may not. -/
theorem layout_merged_iff_of_hosts :
    let host : FieldDeclaration :=
      ⟨"host", [⟨"field", [.path ["Text"]]⟩, ⟨"doc", []⟩,
        ⟨"field", [.assign "rename" (.string "node"), .assign "rename" (.string "host")]⟩]⟩
    let secret : FieldDeclaration := ⟨"secret", [⟨"field", [.path ["Text"]]⟩, ⟨"field", [.path ["skip"]]⟩]⟩
    let outcome (fields : List FieldDeclaration) := (Declaration.mk [] (.fields fields)).layout
    outcome [host.merged, secret] = outcome [host, secret] ∧
      (∃ l, outcome [host, secret] = .ok l ∧ ⟨"secret", "secret", .text⟩ ∈ l.fields) ∧
      outcome [host, secret.merged] ≠ outcome [host, secret] := by
  intro host secret outcome
  have readHost : host.reading .asWritten = .ok (some ⟨"host", "host", .text⟩) := by decide +kernel
  have readSecret : secret.reading .asWritten = .ok (some ⟨"secret", "secret", .text⟩) := by decide +kernel
  have accepted : outcome [host, secret] =
      .ok ⟨[⟨"host", "host", .text⟩, ⟨"secret", "secret", .text⟩]⟩ := by
    decide +kernel
  obtain ⟨sameHost, -, hosts⟩ := layout_merged_iff [] [] [secret] host
  obtain ⟨-, sameSecret, secrets⟩ := layout_merged_iff [] [host] [] secret
  obtain ⟨shown, skipped⟩ := secrets _ readSecret
  refine ⟨sameHost ((hosts _ readHost).2.2 ⟨?_, ?_⟩), ⟨_, accepted, shown _ accepted⟩, fun same => ?_⟩
  · exact List.forall_mem_cons.2 ⟨⟨_, rfl⟩, List.forall_mem_singleton.2 ⟨_, rfl⟩⟩
  · rintro s ⟨⟩
    rfl
  · obtain ⟨names, -⟩ := skipped.1 ((sameSecret ⟨_, .inl accepted⟩).1 same)
    obtain ⟨s, notSkip⟩ := names (.path ["skip"]) List.mem_cons_self
    cases notSkip

/-- A field that its second annotation hides can be queried, and not with both annotations in one. -/
theorem exists_ignored_annotation :
    let secret : FieldDeclaration := ⟨"secret", [⟨"field", [.path ["Text"]]⟩, ⟨"field", [.path ["skip"]]⟩]⟩
    (Declaration.mk [] (.fields [secret])).layout = .ok ⟨[⟨"secret", "secret", .text⟩]⟩ ∧
      (Declaration.mk [] (.fields [secret.merged])).layout = .ok ⟨[]⟩ := by
  decide +kernel

end Declaration

end RecordQuery
