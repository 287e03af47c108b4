import RecordQuery.Text.IdentifierTable

/-!
Identifiers: an underscore or a starting letter, then letters, digits, marks and underscores.
-/

namespace RecordQuery.Text

/-- Whether a text is an identifier. An underscore alone is one. -/
def isIdentifier : List Char → Bool
  | [] => false
  | c :: rest =>
    (c == '_' || IdentifierTable.start.contains c) && rest.all IdentifierTable.continuing.contains

end RecordQuery.Text
