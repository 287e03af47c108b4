import RecordQuery.Text.PrintableTable

/-!
Quoted text for messages. A text is put between double quotes; quotes, backslashes and every
character that cannot be seen on its own are written as escapes, so a message stays on one line and
the text can be told from its quoted form.
-/

namespace RecordQuery.Text

/-- Whether a character is shown as it is between quotes. -/
def isPrintable (c : Char) : Bool :=
  !PrintableTable.unprintable.contains c && !PrintableTable.graphemeExtending.contains c &&
    !PrintableTable.fillers.contains c

/-- A character by the hexadecimal number of its code point. -/
def codePointEscape (c : Char) : List Char :=
  '\\' :: 'u' :: '\x7b' :: (Nat.toDigits 16 c.toNat ++ ['\x7d'])

/-- A character as it is written between quotes. -/
def escape : Char → List Char
  | '"' => ['\\', '"']
  | '\\' => ['\\', '\\']
  | '\n' => ['\\', 'n']
  | '\r' => ['\\', 'r']
  | '\t' => ['\\', 't']
  | '\x00' => ['\\', '0']
  | c => if isPrintable c then [c] else codePointEscape c

/-- A text between double quotes. -/
def quote (s : String) : String := String.ofList ('"' :: (s.toList.flatMap escape ++ ['"']))

end RecordQuery.Text
