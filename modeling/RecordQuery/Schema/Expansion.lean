import RecordQuery.Record.Layout
import RecordQuery.Schema.Declaration

/-!
The layout that a declaration stands for. Fields with a kind and without `skip` can be queried, in
the order of the declaration; their names are distinct. Of the annotations with one name, the first
one counts.
-/

namespace RecordQuery

/-- The kind that a name in an annotation is for. -/
def FieldKind.ofName? (s : String) : Option FieldKind :=
  if s = "Int" ∨ s = "int" then some .int
  else if s = "Text" ∨ s = "text" then some .text
  else if s = "Rfc3339" ∨ s = "rfc3339" then some .rfc3339
  else if s = "Instant" ∨ s = "instant" then some .instant
  else if s = "Label" ∨ s = "label" then some .label
  else none

/-- The arguments of the first annotation with a name. -/
def argumentsOf (name : String) (annotations : List Annotation) : List Argument :=
  ((annotations.find? (·.name == name)).map Annotation.arguments).getD []

namespace RenameRule

/-- The rule after one more argument of the annotation on a type. -/
def addArgument (_ : RenameRule) : Argument → Except DeclarationError RenameRule
  | .assign "rename_all" (.string s) => (ofName? s).elim (.error (.unknownRenameRule s)) .ok
  | .assign "rename_all" _ => .error (.stringExpected "rename_all")
  | _ => .error .unknownRecordArgument

/-- The rule that the annotations on a type ask for. -/
def ofAnnotations (annotations : List Annotation) : Except DeclarationError RenameRule :=
  (argumentsOf "record" annotations).foldlM addArgument .asWritten

end RenameRule

/-- What the annotation on a field says. -/
structure FieldOptions where
  kind : Option FieldKind := none
  skip : Bool := false
  rename : Option String := none
  deriving DecidableEq

namespace FieldOptions

/-- The options after one more argument. -/
def addArgument (o : FieldOptions) : Argument → Except DeclarationError FieldOptions
  | .path ["skip"] => .ok { o with skip := true }
  | .path [name] =>
    if o.kind.isSome then .error .kindGivenTwice
    else (FieldKind.ofName? name).elim (.error (.unknownKind name)) fun kind =>
      .ok { o with kind := some kind }
  | .path _ => .error .kindExpected
  | .assign "rename" (.string s) => .ok { o with rename := some s }
  | .assign "rename" _ => .error (.stringExpected "rename")
  | .assign _ _ => .error .unknownAssignment
  | .group _ => .error .unknownFieldArgument

/-- The options that the annotations on a field give. -/
def ofAnnotations (annotations : List Annotation) : Except DeclarationError FieldOptions :=
  (argumentsOf "field" annotations).foldlM addArgument {}

/-- The kind of the field if queries may name it. -/
def queryKind? (o : FieldOptions) : Option FieldKind := if o.skip then none else o.kind

end FieldOptions

namespace Declaration

/-- The query fields after one more field. -/
def addField (rule : RenameRule) (done : List QueryField) (field : FieldDeclaration) :
    Except DeclarationError (List QueryField) := do
  let options ← FieldOptions.ofAnnotations field.annotations
  match options.queryKind? with
  | none => return done
  | some kind =>
    let name := options.rename.getD (rule.apply field.ident)
    if done.any (·.name == name) then
      throw (.duplicateName name)
    else if !Text.isIdentifier (constantName name).toList then
      throw (.constantNotIdentifier (constantName name))
    else
      return done ++ [{ name, member := field.ident, kind }]

/-- The layout of the declared type. -/
def layout (d : Declaration) : Except DeclarationError Layout := do
  let rule ← RenameRule.ofAnnotations d.annotations
  match d.shape with
  | .fields fields => return ⟨← fields.foldlM (addField rule) []⟩
  | .tuple => throw .unnamedFields
  | .unit => throw .unnamedFields
  | .enum => throw .notAStruct
  | .union => throw .notAStruct

end Declaration

/-- The constants that hold the query names of a layout. -/
def Layout.constants (l : Layout) : List (String × String) :=
  l.names.map fun name => (constantName name, name)

end RecordQuery
