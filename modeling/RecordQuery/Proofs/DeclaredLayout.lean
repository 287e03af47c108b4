import Mathlib.Data.List.Nodup
import RecordQuery.Proofs.Results
import RecordQuery.Schema.Expansion

/-!
The layout of a declared type. The annotation on a field says whether queries may name the field, as what
kind and by which name; `FieldDeclaration.queryField?` is the query field that it stands for. These query
fields are the layout, in order (`Declaration.layout_eq_ok_iff`), so a name reads the field that it belongs to
and no other, and its value is what a field of that kind shows (`FieldKind.Shows`). A declaration in which all
else is right is refused if two of the names are the same, and only then (`Declaration.layout_of_queryFields`).
-/

namespace RecordQuery

/-! ## What annotations ask for -/

namespace Argument

/-- The kind that an argument gives a field. -/
def kind? : Argument → Option FieldKind
  | .path [name] => FieldKind.ofName? name
  | _ => none

/-- The name that an argument gives a field. -/
def rename? : Argument → Option String
  | .assign "rename" (.string s) => some s
  | _ => none

/-- The rule that an argument asks for. -/
def rule? : Argument → Option RenameRule
  | .assign "rename_all" (.string s) => RenameRule.ofName? s
  | _ => none

end Argument

/-- The rule that the annotations on a type ask for: the last one, if there are several. -/
def RenameRule.requested (annotations : List Annotation) : RenameRule :=
  ((argumentsOf "record" annotations).reverse.findSome? Argument.rule?).getD .asWritten

namespace FieldDeclaration

/-- What the annotation on a field says. -/
def arguments (field : FieldDeclaration) : List Argument := argumentsOf "field" field.annotations

/-- The query field that a declared field stands for. It has one if its annotation gives it a kind and does
not say that it is to be skipped. -/
def queryField? (rule : RenameRule) (field : FieldDeclaration) : Option QueryField :=
  if .path ["skip"] ∈ field.arguments then none
  else (field.arguments.findSome? Argument.kind?).map fun kind =>
    { name := (field.arguments.reverse.findSome? Argument.rename?).getD (rule.apply field.ident)
      member := field.ident
      kind }

/-- The annotation on a field gives it a kind, and does not say that it is to be skipped. -/
def IsQueryable (field : FieldDeclaration) : Prop :=
  ∃ options, FieldOptions.ofAnnotations field.annotations = .ok options ∧ options.skip = false ∧
    options.kind.isSome

/-- The annotation on a field can be read. -/
def IsReadable (field : FieldDeclaration) : Prop :=
  ∃ options, FieldOptions.ofAnnotations field.annotations = .ok options

instance (field : FieldDeclaration) : Decidable field.IsReadable :=
  match given : FieldOptions.ofAnnotations field.annotations with
  | .ok options => isTrue ⟨options, given⟩
  | .error _ => isFalse fun ⟨_, other⟩ => nomatch given.symm.trans other

end FieldDeclaration

/-- The constant for a query name has an identifier for a name. -/
def QueryField.HasConstant (f : QueryField) : Prop :=
  Text.isIdentifier (constantName f.name).toList = true

instance (f : QueryField) : Decidable f.HasConstant :=
  inferInstanceAs (Decidable (Text.isIdentifier (constantName f.name).toList = true))

/-- The query field of a declared field with some options and a kind. -/
def Declaration.queryField (rule : RenameRule) (field : FieldDeclaration) (options : FieldOptions)
    (kind : FieldKind) : QueryField :=
  { name := options.rename.getD (rule.apply field.ident), member := field.ident, kind }

/-- The query fields of a list of declared fields, in order. -/
def Declaration.queryFields (rule : RenameRule) (fields : List FieldDeclaration) : List QueryField :=
  fields.filterMap (FieldDeclaration.queryField? rule)

/-! ## Reading annotations -/

/-- Of a list with one more element in front, the last result is that of the rest, if it has one. -/
theorem findSome?_reverse_cons {α : Type u} {β : Type v} {f : α → Option β} (x : α) (xs : List α) :
    (x :: xs).reverse.findSome? f = (xs.reverse.findSome? f).or (f x) := by
  rw [List.reverse_cons, List.findSome?_append, List.findSome?_singleton]

namespace FieldOptions

variable {o o' : FieldOptions} {a : Argument} {arguments : List Argument}

theorem queryKind?_eq_some_iff {o : FieldOptions} {kind : FieldKind} :
    o.queryKind? = some kind ↔ o.skip = false ∧ o.kind = some kind := by
  unfold queryKind?
  cases o.skip <;> simp

/-- What one argument does: the first kind and the last name count, and to be skipped is final. -/
theorem of_addArgument_eq_ok (ok : o.addArgument a = .ok o') :
    o'.kind = o.kind.or a.kind? ∧ (o'.skip = true ↔ o.skip = true ∨ a = .path ["skip"]) ∧
      o'.rename = a.rename?.or o.rename := by
  unfold addArgument at ok
  split at ok
  case h_1 =>
    cases ok
    have noKind : Argument.kind? (.path ["skip"]) = none := rfl
    rw [noKind, Option.or_none]
    exact ⟨rfl, iff_of_true rfl (.inr rfl), rfl⟩
  case h_2 name notSkip =>
    split at ok
    case isTrue => cases ok
    case isFalse noKind =>
      rw [Option.not_isSome_iff_eq_none] at noKind
      have other : Argument.path [name] ≠ .path ["skip"] := fun same =>
        notSkip (List.cons.inj (Argument.path.inj same)).1
      obtain ⟨kind, found, rfl⟩ := elim_eq_ok_iff.1 ok
      rw [noKind]
      exact ⟨found.symm, (or_iff_left other).symm, rfl⟩
  case h_4 s =>
    cases ok
    exact ⟨(Option.or_none).symm, (or_iff_left nofun).symm, rfl⟩
  all_goals cases ok

theorem of_foldlM_addArgument_eq_ok (ok : arguments.foldlM addArgument o = .ok o') :
    o'.kind = o.kind.or (arguments.findSome? Argument.kind?) ∧
      (o'.skip = true ↔ o.skip = true ∨ .path ["skip"] ∈ arguments) ∧
      o'.rename = (arguments.reverse.findSome? Argument.rename?).or o.rename := by
  induction arguments generalizing o with
  | nil =>
    cases ok
    exact ⟨(Option.or_none).symm, (or_iff_left List.not_mem_nil).symm, rfl⟩
  | cons a arguments ih =>
    rw [List.foldlM_cons, bind_eq_ok_iff] at ok
    obtain ⟨between, first, rest⟩ := ok
    obtain ⟨kind, skip, rename⟩ := of_addArgument_eq_ok first
    obtain ⟨kindRest, skipRest, renameRest⟩ := ih rest
    refine ⟨?_, ?_, ?_⟩
    · rw [kindRest, kind, Option.or_assoc, List.findSome?_cons]
      cases a.kind? <;> rfl
    · rw [skipRest, skip, or_assoc, List.mem_cons, eq_comm (a := a)]
    · rw [renameRest, rename, ← Option.or_assoc, findSome?_reverse_cons]

end FieldOptions

theorem FieldDeclaration.queryField?_of_options {rule : RenameRule} {field : FieldDeclaration}
    {options : FieldOptions} (given : FieldOptions.ofAnnotations field.annotations = .ok options) :
    field.queryField? rule = options.queryKind?.map (Declaration.queryField rule field options) := by
  obtain ⟨kind, skip, rename⟩ := FieldOptions.of_foldlM_addArgument_eq_ok given
  rw [Option.none_or] at kind
  rw [Option.or_none] at rename
  have skipped : options.skip = true ↔ .path ["skip"] ∈ field.arguments :=
    skip.trans (or_iff_right Bool.false_ne_true)
  unfold queryField? FieldOptions.queryKind?
  by_cases hidden : options.skip = true
  · rw [if_pos hidden, if_pos (skipped.1 hidden)]
    rfl
  · rw [if_neg hidden, if_neg (mt skipped.2 hidden), kind]
    unfold Declaration.queryField
    rw [rename]
    rfl

namespace RenameRule

variable {rule rule' : RenameRule}

theorem of_addArgument_eq_ok {a : Argument} (ok : rule.addArgument a = .ok rule') :
    a.rule? = some rule' := by
  unfold addArgument at ok
  split at ok
  case h_1 s =>
    obtain ⟨_, found, rfl⟩ := elim_eq_ok_iff.1 ok
    exact found
  all_goals cases ok

theorem of_foldlM_addArgument_eq_ok {arguments : List Argument}
    (ok : arguments.foldlM addArgument rule = .ok rule') :
    rule' = (arguments.reverse.findSome? Argument.rule?).getD rule := by
  induction arguments generalizing rule with
  | nil =>
    cases ok
    rfl
  | cons a arguments ih =>
    rw [List.foldlM_cons, bind_eq_ok_iff] at ok
    obtain ⟨between, first, rest⟩ := ok
    rw [ih rest, findSome?_reverse_cons, of_addArgument_eq_ok first]
    cases arguments.reverse.findSome? Argument.rule? <;> rfl

theorem eq_requested {annotations : List Annotation} (ok : ofAnnotations annotations = .ok rule) :
    rule = requested annotations :=
  of_foldlM_addArgument_eq_ok ok

end RenameRule

/-! ## The fields of the layout -/

namespace Declaration

variable {rule : RenameRule} {field : FieldDeclaration} {fields : List FieldDeclaration}
variable {done next : List QueryField} {annotations : List Annotation} {l : Layout}

/-- What becomes of a declared field that can be read. -/
theorem addField_of_isReadable (readable : field.IsReadable) :
    addField rule done field =
      match field.queryField? rule with
      | none => .ok done
      | some f =>
        if f.name ∈ done.map QueryField.name then .error (.duplicateName f.name)
        else if f.HasConstant then .ok (done ++ [f])
        else .error (.constantNotIdentifier (constantName f.name)) := by
  obtain ⟨options, given⟩ := readable
  have taken (name : String) :
      (done.any fun f => f.name == name) = true ↔ name ∈ done.map QueryField.name := by
    simp
  rw [FieldDeclaration.queryField?_of_options given, addField, given]
  dsimp only [bind, Except.bind]
  cases options.queryKind? with
  | none => rfl
  | some kind =>
    simp only [taken, Bool.not_eq_true', ← Bool.not_eq_true, ite_not]
    rfl

/-- A declared field adds its query field, if it has one, whose name has to be new. -/
theorem addField_eq_ok_iff_queryField? :
    addField rule done field = .ok next ↔
      field.IsReadable ∧
        (∀ f ∈ field.queryField? rule, f.name ∉ done.map QueryField.name ∧ f.HasConstant) ∧
        next = done ++ (field.queryField? rule).toList := by
  by_cases readable : field.IsReadable
  case neg =>
    refine iff_of_false (fun ok => ?_) fun read => readable read.1
    obtain ⟨options, given, -⟩ := bind_eq_ok_iff.1 ok
    exact readable ⟨options, given⟩
  rw [addField_of_isReadable readable]
  cases field.queryField? rule with
  | none => simp [readable, eq_comm]
  | some f =>
    simp only [readable, Option.mem_def, Option.some.injEq, forall_eq', Option.toList_some, true_and]
    by_cases taken : f.name ∈ done.map QueryField.name
    · simp [taken]
    · by_cases named : f.HasConstant
      · simp [taken, named, eq_comm]
      · simp [taken, named]

theorem queryFields_cons (rule : RenameRule) (field : FieldDeclaration)
    (fields : List FieldDeclaration) :
    queryFields rule (field :: fields) = (field.queryField? rule).toList ++ queryFields rule fields := by
  unfold queryFields
  rw [List.filterMap_cons]
  cases field.queryField? rule <;> rfl

/-- Names without repetition stay so with one more name exactly if it is new. -/
theorem nodup_names_append_toList {added : Option QueryField}
    (distinct : (done.map QueryField.name).Nodup) :
    ((done ++ added.toList).map QueryField.name).Nodup ↔
      ∀ f ∈ added, f.name ∉ done.map QueryField.name := by
  cases added with
  | none =>
    rw [Option.toList_none, List.append_nil]
    exact iff_of_true distinct nofun
  | some f =>
    rw [Option.toList_some, List.map_append, List.map_singleton,
      List.perm_append_comm.nodup_iff, List.singleton_append, List.nodup_cons]
    constructor
    · rintro ⟨fresh, -⟩ f ⟨⟩
      exact fresh
    · exact fun fresh => ⟨fresh f rfl, distinct⟩

/-- Declared fields give their query fields, if they can be read and the names of all are distinct and give
identifiers. -/
theorem foldlM_addField_eq_ok_iff (distinct : (done.map QueryField.name).Nodup) :
    fields.foldlM (addField rule) done = .ok next ↔
      (∀ field ∈ fields, field.IsReadable) ∧ (∀ f ∈ queryFields rule fields, f.HasConstant) ∧
        ((done ++ queryFields rule fields).map QueryField.name).Nodup ∧
        next = done ++ queryFields rule fields := by
  induction fields generalizing done with
  | nil =>
    have none : queryFields rule [] = [] := rfl
    rw [none, List.append_nil]
    constructor
    · intro ok
      exact ⟨nofun, nofun, distinct, (Except.ok.inj ok).symm⟩
    · rintro ⟨-, -, -, rfl⟩
      rfl
  | cons field fields ih =>
    rw [List.foldlM_cons, bind_eq_ok_iff, queryFields_cons, ← List.append_assoc, List.forall_mem_cons,
      List.forall_mem_append]
    simp only [Option.mem_toList]
    -- the induction goes on from the names gathered so far, which a new name leaves distinct
    constructor
    · rintro ⟨middle, first, rest⟩
      obtain ⟨readable, fits, rfl⟩ := addField_eq_ok_iff_queryField?.1 first
      have fresh := (nodup_names_append_toList distinct).2 fun f mem => (fits f mem).1
      obtain ⟨readableRest, namedRest, distinctAll, result⟩ := (ih fresh).1 rest
      exact ⟨⟨readable, readableRest⟩, ⟨fun f mem => (fits f mem).2, namedRest⟩, distinctAll, result⟩
    · rintro ⟨⟨readable, readableRest⟩, ⟨named, namedRest⟩, distinctAll, result⟩
      have fresh : ((done ++ (field.queryField? rule).toList).map QueryField.name).Nodup := by
        rw [List.map_append] at distinctAll
        exact (List.nodup_append.1 distinctAll).1
      refine ⟨_, addField_eq_ok_iff_queryField?.2 ⟨readable, fun f mem => ?_, rfl⟩,
        (ih fresh).2 ⟨readableRest, namedRest, distinctAll, result⟩⟩
      exact ⟨(nodup_names_append_toList distinct).1 fresh f mem, named f mem⟩

theorem layout_of_rule (ruleGiven : RenameRule.ofAnnotations annotations = .ok rule) :
    (Declaration.mk annotations (.fields fields)).layout =
      (fields.foldlM (addField rule) []).map Layout.mk := by
  unfold layout
  rw [ruleGiven]
  rfl

/-- A declaration of named fields has a layout if its annotations can be read and the names of its query
fields are distinct and give identifiers; then these fields are the layout. -/
theorem layout_eq_ok_iff :
    (Declaration.mk annotations (.fields fields)).layout = .ok l ↔
      (∃ rule, RenameRule.ofAnnotations annotations = .ok rule) ∧
        (∀ field ∈ fields, field.IsReadable) ∧
        (∀ f ∈ queryFields (.requested annotations) fields, f.HasConstant) ∧
        ((queryFields (.requested annotations) fields).map QueryField.name).Nodup ∧
        l = ⟨queryFields (.requested annotations) fields⟩ := by
  have noNames : (([] : List QueryField).map QueryField.name).Nodup := List.nodup_nil
  constructor
  · intro ok
    obtain ⟨rule, ruleGiven, -⟩ := bind_eq_ok_iff.1 ok
    rw [layout_of_rule ruleGiven, map_eq_ok_iff] at ok
    obtain ⟨found, added, rfl⟩ := ok
    rw [← RenameRule.eq_requested ruleGiven]
    obtain ⟨readable, named, distinct, rfl⟩ := (foldlM_addField_eq_ok_iff noNames).1 added
    exact ⟨⟨rule, ruleGiven⟩, readable, named, distinct, rfl⟩
  · rintro ⟨⟨rule, ruleGiven⟩, readable, named, distinct, rfl⟩
    rw [← RenameRule.eq_requested ruleGiven] at named distinct ⊢
    rw [layout_of_rule ruleGiven,
      (foldlM_addField_eq_ok_iff noNames).2 ⟨readable, named, distinct, rfl⟩]
    rfl

theorem nodup_names_of_layout {d : Declaration} (ok : d.layout = .ok l) : l.names.Nodup := by
  obtain ⟨annotations, shape⟩ := d
  cases shape with
  | fields fields =>
    obtain ⟨-, -, -, distinct, rfl⟩ := layout_eq_ok_iff.1 ok
    exact distinct
  | tuple | unit | enum | union =>
    obtain ⟨_, -, refused⟩ := bind_eq_ok_iff.1 ok
    cases refused

/-- Each query field of a layout stands for a declared field that may be queried. -/
theorem exists_of_mem_layout {d : Declaration} (shape : d.shape = .fields fields)
    (ok : d.layout = .ok l) :
    ∀ f ∈ l.fields, ∃ field ∈ fields, field.IsQueryable ∧ f.member = field.ident := by
  obtain ⟨annotations, _⟩ := d
  subst shape
  obtain ⟨-, readable, -, -, rfl⟩ := layout_eq_ok_iff.1 ok
  intro f mem
  obtain ⟨field, memField, isField⟩ := List.mem_filterMap.1 mem
  obtain ⟨options, given⟩ := readable field memField
  rw [FieldDeclaration.queryField?_of_options given, Option.map_eq_some_iff] at isField
  obtain ⟨kind, hasKind, rfl⟩ := isField
  obtain ⟨shown, kindGiven⟩ := FieldOptions.queryKind?_eq_some_iff.1 hasKind
  exact ⟨field, memField, ⟨options, given, shown, Option.isSome_of_eq_some kindGiven⟩, rfl⟩

/-! ## Refusals -/

/-- A field that can be read, with an identifier for its constant, is refused for its name alone. -/
theorem addField_eq_error (readable : field.IsReadable)
    (named : ∀ f ∈ field.queryField? rule, f.HasConstant) {e : DeclarationError}
    (failed : addField rule done field = .error e) : ∃ name, e = .duplicateName name := by
  rw [addField_of_isReadable readable] at failed
  cases shown : field.queryField? rule with
  | none =>
    rw [shown] at failed
    cases failed
  | some f =>
    rw [shown] at failed
    dsimp only at failed
    rw [if_pos (named f shown)] at failed
    split at failed
    case isTrue =>
      cases failed
      exact ⟨_, rfl⟩
    case isFalse => cases failed

/-- Where all else is right, a declaration is refused exactly if two query fields have one name. -/
theorem layout_eq_duplicateName_iff
    (ruleGiven : ∃ rule, RenameRule.ofAnnotations annotations = .ok rule)
    (readable : ∀ field ∈ fields, field.IsReadable)
    (named : ∀ f ∈ queryFields (.requested annotations) fields, f.HasConstant) :
    (∃ name, (Declaration.mk annotations (.fields fields)).layout = .error (.duplicateName name)) ↔
      ¬ ((queryFields (.requested annotations) fields).map QueryField.name).Nodup := by
  constructor
  · rintro ⟨name, refused⟩ distinct
    have accepted := layout_eq_ok_iff.2 ⟨ruleGiven, readable, named, distinct, rfl⟩
    rw [accepted] at refused
    cases refused
  · intro repeats
    cases answer : (Declaration.mk annotations (.fields fields)).layout with
    | ok l =>
      obtain ⟨-, -, -, distinct, -⟩ := layout_eq_ok_iff.1 answer
      exact absurd distinct repeats
    | error e =>
      obtain ⟨rule, ruleGiven⟩ := ruleGiven
      rw [← RenameRule.eq_requested ruleGiven] at named
      rw [layout_of_rule ruleGiven, map_eq_error_iff] at answer
      obtain ⟨before, field, after, done, rfl, -, refused⟩ := foldlM_eq_error_iff.1 answer
      have mem : field ∈ before ++ field :: after := List.mem_append_right before List.mem_cons_self
      obtain ⟨name, rfl⟩ := addField_eq_error (readable field mem)
        (fun f isField => named f (List.mem_filterMap.2 ⟨field, mem, isField⟩)) refused
      exact ⟨name, rfl⟩

end Declaration

/-! ## Views -/

namespace FieldKind

/-- What a field of a kind shows, if its member holds something. -/
inductive Shows : FieldKind → Member → Value → Prop
  /-- A whole number is shown if it has at most 64 bits. -/
  | int (n : Int64) : Shows .int (.integer n.toInt) (.int n)
  | text (s : String) : Shows .text (.text s) (.text s)
  | rfc3339 (s : String) : Shows .rfc3339 (.text s) (.rfc3339 s)
  | instant (t : Instant) : Shows .instant (.instant t) (.instant t)
  /-- A label is shown as a text. -/
  | label (s : String) : Shows .label (.label s) (.text s)

variable {kind : FieldKind} {m : Member} {v : Value}

/-- A view has the value that a field of its kind shows, and no value otherwise. -/
theorem view_eq_some_iff : kind.view m = some v ↔ kind.Shows m v := by
  constructor
  · intro seen
    unfold view at seen
    split at seen
    case h_1 n =>
      obtain ⟨k, rfl, rfl⟩ := Value.ofInt?_eq_some_iff.1 seen
      exact .int k
    -- the other members are shown as they are, if the kind is theirs
    all_goals cases seen
    case h_2 s => exact .text s
    case h_3 s => exact .rfc3339 s
    case h_4 t => exact .instant t
    case h_5 s => exact .label s
  · intro shows
    cases shows with
    | int n => exact Value.ofInt?_eq_some_iff.2 ⟨n, rfl, rfl⟩
    | text | rfc3339 | instant | label => rfl

theorem view_unset (kind : FieldKind) : kind.view .unset = none := by
  cases kind <;> rfl

theorem view_integer_of_beyond {n : Int}
    (beyond : ¬ (Int64.minValue.toInt ≤ n ∧ n ≤ Int64.maxValue.toInt)) :
    kind.view (.integer n) = none := by
  cases kind with
  | int => exact if_neg beyond
  | text | rfc3339 | instant | label => rfl

end FieldKind

/-! ## Names -/

namespace Layout

variable {l : Layout}

/-- A name reads the field that it belongs to. -/
theorem read_of_mem (distinct : l.names.Nodup) {f : QueryField} (mem : f ∈ l.fields)
    (member : String → Member) : l.read member f.name = f.kind.view (member f.member) := by
  have found : l.fields.find? (·.name == f.name) = some f := by
    cases first : l.fields.find? (·.name == f.name) with
    | none => exact absurd (beq_self_eq_true f.name) (List.find?_eq_none.1 first f mem)
    | some g =>
      have tested := List.find?_some first
      have same : g.name = f.name := eq_of_beq tested
      rw [List.inj_on_of_nodup_map distinct (List.mem_of_find?_eq_some first) mem same]
  unfold read
  rw [found]
  rfl

theorem read_eq_none {name : String} (other : name ∉ l.names) (member : String → Member) :
    l.read member name = none := by
  have missing : l.fields.find? (·.name == name) = none := by
    rw [List.find?_eq_none]
    intro f mem same
    exact other (List.mem_map.2 ⟨f, mem, eq_of_beq same⟩)
  unfold read
  rw [missing]
  rfl

/-- Only the members behind the fields of a layout are read. -/
theorem read_congr {l : Layout} {member member' : String → Member}
    (same : ∀ field ∈ l.fields, member field.member = member' field.member) (name : String) :
    l.read member name = l.read member' name := by
  unfold read
  cases found : l.fields.find? (·.name == name) with
  | none => rfl
  | some field => rw [Option.bind_some, Option.bind_some, same field (List.mem_of_find?_eq_some found)]

end Layout

/-- The names of a layout are those of the query fields of its declaration, in order and without repetition.
Each reads what a field of its kind shows of the member behind it, hence nothing of a member that is unset or
a number beyond 64 bits, and all other names read nothing. If annotations and constants are right, then a
declaration is refused for a name exactly if two query fields have the same. -/
theorem Declaration.layout_of_queryFields (annotations : List Annotation)
    (fields : List FieldDeclaration) :
    let declared := queryFields (.requested annotations) fields
    let answer := (Declaration.mk annotations (.fields fields)).layout
    (∀ l, answer = .ok l →
      l.names = declared.map QueryField.name ∧ l.names.Nodup ∧
      ∀ (member : String → Member) (name : String),
        (∀ i : Nat, l.names[i]? = some name →
          ∃ f, declared[i]? = some f ∧
            (∀ v, l.read member name = some v ↔ f.kind.Shows (member f.member) v) ∧
            (member f.member = .unset → l.read member name = none) ∧
            (∀ n, member f.member = .integer n →
              ¬ (Int64.minValue.toInt ≤ n ∧ n ≤ Int64.maxValue.toInt) →
              l.read member name = none)) ∧
        (name ∉ l.names → l.read member name = none)) ∧
    ((∃ rule, RenameRule.ofAnnotations annotations = .ok rule) →
      (∀ field ∈ fields, field.IsReadable) →
      (∀ f ∈ declared, f.HasConstant) →
      ((∃ name, answer = .error (.duplicateName name)) ↔ ¬ (declared.map QueryField.name).Nodup)) := by
  intro declared answer
  refine ⟨fun l ok => ?_, layout_eq_duplicateName_iff⟩
  obtain ⟨-, -, -, distinct, rfl⟩ := layout_eq_ok_iff.1 ok
  refine ⟨rfl, distinct, fun member name => ⟨fun i place => ?_, fun other => ?_⟩⟩
  · rw [Layout.names, List.getElem?_map, Option.map_eq_some_iff] at place
    obtain ⟨f, there, rfl⟩ := place
    have read : (Layout.mk (queryFields (.requested annotations) fields)).read member f.name =
        f.kind.view (member f.member) :=
      Layout.read_of_mem distinct (List.mem_of_getElem? there) member
    refine ⟨f, there, fun v => ?_, fun unset => ?_, fun n holds beyond => ?_⟩
    · rw [read, FieldKind.view_eq_some_iff]
    · rw [read, unset, FieldKind.view_unset]
    · rw [read, holds, FieldKind.view_integer_of_beyond beyond]
  · exact Layout.read_eq_none other member

/-- Hosts with a field of each kind, one of them renamed, a number that is too large, an owner that is unset, a
hidden field and one without a kind, where the rack may not take the host's name. -/
theorem Declaration.layout_of_queryFields_of_hosts :
    let camel : List Annotation := [⟨"record", [.assign "rename_all" (.string "camelCase")]⟩]
    let field (kind ident : String) : FieldDeclaration := ⟨ident, [⟨"field", [.path [kind]]⟩]⟩
    let hidden : FieldDeclaration := ⟨"secret", [⟨"field", [.path ["Text"], .path ["skip"]]⟩]⟩
    let rack (name : String) : FieldDeclaration :=
      ⟨"rack", [⟨"field", [.path ["Int"], .assign "rename" (.string name)]⟩]⟩
    let fields (name : String) : List FieldDeclaration :=
      [field "Text" "host_name", hidden, ⟨"notes", []⟩, rack name, field "Rfc3339" "built_at",
        field "Instant" "seen_at", field "Label" "state", field "Int" "load", field "Text" "owner"]
    let layout (name : String) := (Declaration.mk camel (.fields (fields name))).layout
    let seen : Instant := ⟨59, 1500000000, by decide⟩
    let member : String → Member
      | "rack" => .integer (-7)
      | "built_at" => .text "2024-02-29T10:00:00Z"
      | "seen_at" => .instant seen
      | "state" => .label "RUNNING"
      | "load" => .integer 9223372036854775808
      | "owner" => .unset
      | _ => .text "web-1"
    (∃ l, layout "rack-no" = .ok l ∧
      l.names = ["hostName", "rack-no", "builtAt", "seenAt", "state", "load", "owner"] ∧
      l.read member "hostName" = some (.text "web-1") ∧
      l.read member "rack-no" = some (.int (-7)) ∧
      l.read member "builtAt" = some (.rfc3339 "2024-02-29T10:00:00Z") ∧
      l.read member "seenAt" = some (.instant seen) ∧
      l.read member "state" = some (.text "RUNNING") ∧
      l.read member "load" = none ∧ l.read member "owner" = none ∧
      l.read member "secret" = none ∧ l.read member "notes" = none) ∧
    ∃ name, layout "hostName" = .error (.duplicateName name) := by
  intro camel field hidden rack fields layout seen member
  let declared : List QueryField :=
    [⟨"hostName", "host_name", .text⟩, ⟨"rack-no", "rack", .int⟩, ⟨"builtAt", "built_at", .rfc3339⟩,
      ⟨"seenAt", "seen_at", .instant⟩, ⟨"state", "state", .label⟩, ⟨"load", "load", .int⟩,
      ⟨"owner", "owner", .text⟩]
  have accepted : layout "rack-no" = .ok ⟨declared⟩ := by
    decide +kernel
  have queryFields : Declaration.queryFields (.requested camel) (fields "rack-no") = declared := by
    decide +kernel
  obtain ⟨names, -, reads⟩ := (layout_of_queryFields camel (fields "rack-no")).1 _ accepted
  rw [queryFields] at reads
  have shown (i : Nat) {f : QueryField} {v : Value} (there : declared[i]? = some f)
      (shows : f.kind.Shows (member f.member) v) :
      (Layout.mk declared).read member f.name = some v := by
    have place : (Layout.mk declared).names[i]? = some f.name := by
      rw [Layout.names, List.getElem?_map, there, Option.map_some]
    obtain ⟨g, found, read, -⟩ := (reads member f.name).1 i place
    cases there.symm.trans found
    exact (read v).2 shows
  refine ⟨⟨_, accepted, rfl, shown 0 rfl (.text _), shown 1 rfl (.int (-7)), shown 2 rfl (.rfc3339 _),
    shown 3 rfl (.instant _), shown 4 rfl (.label _), ?_, ?_, (reads member "secret").2 (by decide),
    (reads member "notes").2 (by decide)⟩, ?_⟩
  · obtain ⟨g, found, -, -, beyond⟩ := (reads member "load").1 5 rfl
    cases found
    exact beyond _ rfl (by decide)
  · obtain ⟨g, found, -, unset, -⟩ := (reads member "owner").1 6 rfl
    cases found
    exact unset rfl
  · exact ((layout_of_queryFields camel (fields "hostName")).2 ⟨.camelCase, rfl⟩
      (by decide +kernel) (by decide +kernel)).2 (by decide +kernel)

end RecordQuery
