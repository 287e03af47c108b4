import RecordQuery.Query.Basic

/-!
How records take part in queries. Records of any `Queryable` type do. A layout lists the fields that
queries may name: the name, the member of the record behind it, and the kind of view on that member.
`Layout.read` looks a name up and views its member; every other name is no field.
-/

namespace RecordQuery

/-- What a member of a record holds. -/
inductive Member
  | integer (n : Int)
  | text (s : String)
  | instant (t : Instant)
  /-- The label of a status. -/
  | label (s : String)
  /-- Nothing yet. -/
  | unset
  deriving DecidableEq

/-- The views of members as values. -/
inductive FieldKind
  | int
  | text
  | rfc3339
  | instant
  | label
  deriving DecidableEq

/-- A member as a value. A number beyond 64 bits, like an unset member, has none; a label is a
text. -/
def FieldKind.view : FieldKind → Member → Option Value
  | .int, .integer n => Value.ofInt? n
  | .text, .text s => some (.text s)
  | .rfc3339, .text s => some (.rfc3339 s)
  | .instant, .instant t => some (.instant t)
  | .label, .label s => some (.text s)
  | _, _ => none

/-- A field that queries may name. -/
structure QueryField where
  name : String
  member : String
  kind : FieldKind
  deriving DecidableEq

/-- The fields that queries may name, in order. -/
structure Layout where
  fields : List QueryField
  deriving DecidableEq

namespace Layout

/-- The names of the fields. -/
def names (l : Layout) : List String := l.fields.map QueryField.name

/-- The value of the field with a name, given the members of a record. -/
def read (l : Layout) (member : String → Member) (name : String) : Option Value :=
  (l.fields.find? (·.name == name)).bind fun field => field.kind.view (member field.member)

end Layout

/-- Types of records whose fields queries can read. -/
class Queryable (ρ : Type u) where
  access : Accessor ρ

/-- Records of a type with a layout. -/
class Record (ρ : Type u) where
  layout : Layout
  member : ρ → String → Member

/-- The fields of the records of a type. -/
def Record.access {ρ : Type u} [Record ρ] : Accessor ρ := fun record =>
  (Record.layout ρ).read (Record.member record)

instance {ρ : Type u} [Record ρ] : Queryable ρ := ⟨Record.access⟩

end RecordQuery
