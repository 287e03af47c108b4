import RecordQuery.Proofs.DeclaredLayout

/-!
Declared fields that can be exchanged. All that a declaration takes from one of its fields is the reading: the
query field that its annotation asks for, if it asks for one, or what is wrong with the annotation
(`Declaration.layout_eq_gather`). So fields with the same reading are interchangeable in every declaration, and
where either one is accepted only such fields are (`Declaration.layout_exchange_iff`).

Readings are told apart by names in the first place. Whatever else is forgotten about query fields may as well
be forgotten before the declaration is read (`Declaration.layout_exchange_map`).
-/

namespace RecordQuery

/-- What a declared field is read as. -/
def FieldDeclaration.reading (rule : RenameRule) (field : FieldDeclaration) :
    Except DeclarationError (Option QueryField) :=
  (FieldOptions.ofAnnotations field.annotations).map fun _ => field.queryField? rule

/-- A declared field can be read exactly if its reading is a query field or none. -/
theorem FieldDeclaration.reading_eq_ok_iff {rule : RenameRule} {field : FieldDeclaration}
    {read : Option QueryField} :
    field.reading rule = .ok read ↔ field.IsReadable ∧ field.queryField? rule = read := by
  unfold reading IsReadable
  rw [map_eq_ok_iff, exists_and_right]

namespace Declaration

variable {annotations : List Annotation} {fields before after : List FieldDeclaration}
variable {field field' : FieldDeclaration} {rule : RenameRule} {done : List QueryField} {l : Layout}

/-! ## Gathering -/

/-- The query fields after one more reading. -/
def addReading (done : List QueryField) (reading : Except DeclarationError (Option QueryField)) :
    Except DeclarationError (List QueryField) :=
  reading.bind fun
    | none => .ok done
    | some f =>
      if f.name ∈ done.map QueryField.name then .error (.duplicateName f.name)
      else if f.HasConstant then .ok (done ++ [f])
      else .error (.constantNotIdentifier (constantName f.name))

theorem addField_eq_addReading : addField rule done field = addReading done (field.reading rule) := by
  unfold addReading FieldDeclaration.reading
  cases given : FieldOptions.ofAnnotations field.annotations with
  | error e =>
    unfold addField
    rw [given]
    rfl
  | ok options =>
    rw [addField_of_isReadable ⟨options, given⟩]
    rfl

/-- The layout is gathered from the readings of the fields. -/
theorem layout_eq_gather (annotations : List Annotation) (fields : List FieldDeclaration) :
    (Declaration.mk annotations (.fields fields)).layout =
      (RenameRule.ofAnnotations annotations).bind fun rule =>
        ((fields.map (FieldDeclaration.reading rule)).foldlM addReading []).map Layout.mk := by
  cases ruleGiven : RenameRule.ofAnnotations annotations with
  | error e =>
    unfold layout
    rw [ruleGiven]
    rfl
  | ok rule =>
    have step : addField rule = fun done field => addReading done (field.reading rule) := by
      funext done field
      exact addField_eq_addReading
    have gathered : fields.foldlM (addField rule) [] =
        (fields.map (FieldDeclaration.reading rule)).foldlM addReading [] := by
      rw [step, List.foldlM_map]
    rw [layout_of_rule ruleGiven, gathered]
    rfl

/-! ## Exchanges -/

/-- Fields with the same reading are interchangeable. -/
theorem layout_exchange
    (same : field'.reading (.requested annotations) = field.reading (.requested annotations)) :
    (Declaration.mk annotations (.fields (before ++ field' :: after))).layout =
      (Declaration.mk annotations (.fields (before ++ field :: after))).layout := by
  rw [layout_eq_gather, layout_eq_gather]
  cases ruleGiven : RenameRule.ofAnnotations annotations with
  | error e => rfl
  | ok rule =>
    rw [← RenameRule.eq_requested ruleGiven] at same
    dsimp only [Except.bind]
    rw [List.map_append, List.map_append, List.map_cons, List.map_cons, same]

section Forgetting

variable {forget : QueryField → QueryField} {reading : Except DeclarationError (Option QueryField)}

theorem addReading_map (names : ∀ f, (forget f).name = f.name) :
    addReading (done.map forget) (reading.map (Option.map forget)) =
      (addReading done reading).map (List.map forget) := by
  have doneNames : (done.map forget).map QueryField.name = done.map QueryField.name := by
    rw [List.map_map]
    exact List.map_congr_left fun f _ => names f
  cases reading with
  | error e => rfl
  | ok read =>
    cases read with
    | none => rfl
    | some f =>
      have constant : (forget f).HasConstant ↔ f.HasConstant := by
        unfold QueryField.HasConstant
        rw [names]
      have joined : (done ++ [f]).map forget = done.map forget ++ [forget f] := List.map_append
      unfold addReading
      simp only [Except.bind, Except.map, Option.map_some, names, doneNames, constant]
      by_cases taken : f.name ∈ done.map QueryField.name
      · rw [if_pos taken, if_pos taken]
      · rw [if_neg taken, if_neg taken]
        by_cases named : f.HasConstant
        · rw [if_pos named, if_pos named]
          exact congrArg Except.ok joined.symm
        · rw [if_neg named, if_neg named]

theorem foldlM_addReading_map (names : ∀ f, (forget f).name = f.name)
    (readings : List (Except DeclarationError (Option QueryField))) (done : List QueryField) :
    (readings.map (Except.map (Option.map forget))).foldlM addReading (done.map forget) =
      (readings.foldlM addReading done).map (List.map forget) := by
  induction readings generalizing done with
  | nil => rfl
  | cons reading readings ih =>
    rw [List.map_cons, List.foldlM_cons, List.foldlM_cons, addReading_map names]
    cases addReading done reading with
    | error e => rfl
    | ok next => exact ih next

/-- Fields whose readings are the same where something is forgotten about query fields are interchangeable if
the same is forgotten about the layout. -/
theorem layout_exchange_map (names : ∀ f, (forget f).name = f.name)
    (same : (field'.reading (.requested annotations)).map (Option.map forget) =
      (field.reading (.requested annotations)).map (Option.map forget)) :
    (Declaration.mk annotations (.fields (before ++ field' :: after))).layout.map
        (fun l => l.fields.map forget) =
      (Declaration.mk annotations (.fields (before ++ field :: after))).layout.map
        (fun l => l.fields.map forget) := by
  rw [layout_eq_gather, layout_eq_gather]
  cases ruleGiven : RenameRule.ofAnnotations annotations with
  | error e => rfl
  | ok rule =>
    rw [← RenameRule.eq_requested ruleGiven] at same
    have forgotten (readings : List (Except DeclarationError (Option QueryField))) :
        ((readings.foldlM addReading []).map Layout.mk).map (fun l => l.fields.map forget) =
          (readings.map (Except.map (Option.map forget))).foldlM addReading [] := by
      have gathered := foldlM_addReading_map names readings []
      rw [List.map_nil] at gathered
      rw [gathered]
      cases readings.foldlM addReading [] <;> rfl
    dsimp only [Except.bind]
    rw [forgotten, forgotten]
    simp only [List.map_append, List.map_cons, same]

end Forgetting

theorem queryFields_exchange :
    queryFields rule (before ++ field' :: after) = queryFields rule (before ++ field :: after) ↔
      field'.queryField? rule = field.queryField? rule := by
  have parts (field : FieldDeclaration) : queryFields rule (before ++ field :: after) =
      queryFields rule before ++ ((field.queryField? rule).toList ++ queryFields rule after) := by
    rw [← queryFields_cons]
    exact List.filterMap_append
  rw [parts, parts, List.append_cancel_left_eq, List.append_cancel_right_eq]
  refine ⟨fun same => ?_, congrArg Option.toList⟩
  rw [← Option.head?_toList (o := field'.queryField? rule), same, Option.head?_toList]

/-- If a declaration is accepted with either of two fields, then it has the same layout with the other one
exactly if they have the same reading. -/
theorem layout_exchange_iff
    (accepted : ∃ l, (Declaration.mk annotations (.fields (before ++ field :: after))).layout = .ok l ∨
      (Declaration.mk annotations (.fields (before ++ field' :: after))).layout = .ok l) :
    (Declaration.mk annotations (.fields (before ++ field' :: after))).layout =
        (Declaration.mk annotations (.fields (before ++ field :: after))).layout ↔
      field'.reading (.requested annotations) = field.reading (.requested annotations) := by
  refine ⟨fun same => ?_, layout_exchange⟩
  simp only [same, or_self] at accepted
  obtain ⟨l, ok⟩ := accepted
  obtain ⟨-, readable, -, -, fields⟩ := layout_eq_ok_iff.1 ok
  obtain ⟨-, readable', -, -, fields'⟩ := layout_eq_ok_iff.1 (same.trans ok)
  have sameField := queryFields_exchange.1 (Layout.mk.inj (fields'.symm.trans fields))
  rw [FieldDeclaration.reading_eq_ok_iff.2 ⟨readable' field' List.mem_append_cons_self, rfl⟩,
    FieldDeclaration.reading_eq_ok_iff.2 ⟨readable field List.mem_append_cons_self, rfl⟩, sameField]

end Declaration

end RecordQuery
