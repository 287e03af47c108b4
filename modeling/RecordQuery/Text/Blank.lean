import RecordQuery.Text.CodePointSet

/-!
Blank characters, and the two things done with them: `trim` removes them at both ends of a text,
`words` cuts a text into its runs of other characters.
-/

namespace RecordQuery.Text

/-- The characters with the property White_Space. -/
def blanks : CodePointSet where
  boundaries := [
    0x9, 0xE, 0x20, 0x21, 0x85, 0x86, 0xA0, 0xA1, 0x1680, 0x1681, 0x2000, 0x200B, 0x2028, 0x202A,
    0x202F, 0x2030, 0x205F, 0x2060, 0x3000, 0x3001]

/-- Whether a character is blank. -/
def isBlank (c : Char) : Bool := blanks.contains c

/-- The text without the blanks at its start. -/
def trimStart (s : List Char) : List Char := s.dropWhile isBlank

/-- The text without the blanks at its start and at its end. -/
def trim (s : List Char) : List Char := (trimStart (trimStart s).reverse).reverse

/-- The longest runs of characters that are not blank, in order. -/
def words (s : List Char) : List (List Char) := (s.splitOnP isBlank).filter (!·.isEmpty)

end RecordQuery.Text
