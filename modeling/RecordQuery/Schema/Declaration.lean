import RecordQuery.Schema.Naming

/-!
Declarations of record types, as a source text gives them: a shape, fields, and annotations on the
type and on its fields. `DeclarationError` holds what can be wrong with the annotations.
-/

namespace RecordQuery

/-- A literal in an annotation. -/
inductive Literal
  | string (s : String)
  | integer (n : Int)
  deriving DecidableEq

/-- What stands between the brackets of an annotation. -/
inductive Argument
  /-- A path of one or more names. -/
  | path (segments : List String)
  /-- A name that is given a value. -/
  | assign (name : String) (value : Literal)
  /-- A name with brackets of its own. -/
  | group (name : String)
  deriving DecidableEq

/-- A name and its arguments. -/
structure Annotation where
  name : String
  arguments : List Argument
  deriving DecidableEq

/-- A field of a record type. -/
structure FieldDeclaration where
  ident : String
  annotations : List Annotation
  deriving DecidableEq

/-- What a declaration declares. -/
inductive Shape
  /-- A struct with named fields. -/
  | fields (fields : List FieldDeclaration)
  /-- A struct with unnamed fields. -/
  | tuple
  /-- A struct without fields. -/
  | unit
  /-- One of several alternatives. -/
  | enum
  /-- Several views of one place in memory. -/
  | union
  deriving DecidableEq

/-- The declaration of a type. -/
structure Declaration where
  annotations : List Annotation
  shape : Shape
  deriving DecidableEq

/-- Why a declaration has no layout. -/
inductive DeclarationError
  | unknownRecordArgument
  | unknownRenameRule (name : String)
  /-- The value of an argument has to be a string. -/
  | stringExpected (argument : String)
  | unnamedFields
  | notAStruct
  | kindGivenTwice
  | unknownKind (name : String)
  | kindExpected
  | unknownAssignment
  | unknownFieldArgument
  | duplicateName (name : String)
  /-- The constant for a query name has a name that is no identifier. -/
  | constantNotIdentifier (name : String)
  deriving DecidableEq

def DeclarationError.message : DeclarationError → String
  | .unknownRecordArgument => "unknown record attribute. Expected: rename_all = \"...\""
  | .unknownRenameRule name =>
    "unknown rename rule: '" ++ name ++ "'. Expected one of: camelCase, PascalCase, snake_case"
  | .stringExpected argument => argument ++ " must be a string literal"
  | .unnamedFields => "Record can only be derived for structs with named fields"
  | .notAStruct => "Record can only be derived for structs"
  | .kindGivenTwice => "field kind given twice"
  | .unknownKind name =>
    "unknown field kind: '" ++ name ++ "'. Expected one of: Int, Text, Rfc3339, Instant, Label"
  | .kindExpected => "expected field kind: Int, Text, Rfc3339, Instant, Label, or skip"
  | .unknownAssignment => "unknown attribute. Expected: rename"
  | .unknownFieldArgument =>
    "unknown field attribute. Expected: Int, Text, Rfc3339, Instant, Label, skip, or " ++
      "rename = \"...\""
  | .duplicateName name => "duplicate query field name: '" ++ name ++ "'"
  | .constantNotIdentifier name => "constant name is not an identifier: '" ++ name ++ "'"

end RecordQuery
