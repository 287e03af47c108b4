import RecordQuery.Text.Case
import RecordQuery.Text.Identifier

/-!
Names of query fields. A rule makes a field's name in queries from its identifier, and
`constantName` makes the name of the constant that holds it.
-/

namespace RecordQuery

/-- The rules that make names from identifiers. -/
inductive RenameRule
  /-- The identifier as it is. -/
  | asWritten
  | camelCase
  | pascalCase
  deriving DecidableEq

namespace RenameRule

/-- The rule of a name. -/
def ofName? (s : String) : Option RenameRule :=
  if s = "camelCase" then some .camelCase
  else if s = "PascalCase" then some .pascalCase
  else if s = "snake_case" then some .asWritten
  else none

/-- An identifier without the marks for raw spelling in front of it. -/
def withoutRawMarks : List Char → List Char
  | 'r' :: '#' :: s => withoutRawMarks s
  | s => s

/-- Leaves out underscores and raises the character after each. Those before the first other
character raise it only if `capital` is set. -/
def joinFrom (capital started raise : Bool) : List Char → List Char
  | [] => []
  | c :: s =>
    if c = '_' then joinFrom capital started (started || capital) s
    else (if raise then Text.upperChar c else [c]) ++ joinFrom capital true false s

/-- Joins the words of an identifier, the first one with a capital letter or not. -/
def joinWords (capital : Bool) (ident : List Char) : List Char :=
  joinFrom capital false capital (withoutRawMarks ident)

/-- The name that a rule makes. -/
def apply : RenameRule → String → String
  | .asWritten, ident => ident
  | .camelCase, ident => String.ofList (joinWords false ident.toList)
  | .pascalCase, ident => String.ofList (joinWords true ident.toList)

end RenameRule

/-- Puts a name into capitals, with an underscore before each capital letter that comes after a
lower one. `afterLower` tells whether the name goes on after a lower one. -/
def capitalsFrom (afterLower : Bool) : List Char → List Char
  | [] => []
  | c :: s =>
    if Text.isUppercase c then
      (if afterLower then ['_', c] else [c]) ++ capitalsFrom false s
    else if c = '_' ∨ c = '-' ∨ c = '.' then '_' :: capitalsFrom false s
    else c.toUpper :: capitalsFrom true s

/-- The name of the constant for a query name. Only ASCII letters are raised. -/
def constantName (name : String) : String := String.ofList (capitalsFrom false name.toList)

end RecordQuery
