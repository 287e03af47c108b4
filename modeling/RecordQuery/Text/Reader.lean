import RecordQuery.Text.Blank

/-!
Readers take a value off the front of a text, or fail. They run one after the other in `do` blocks,
each on what the one before left.
-/

namespace RecordQuery.Text

/-- Reads an `α` off the front of a text; the state is what is left of it. -/
abbrev Reader (α : Type) := StateT (List Char) Option α

namespace Reader

/-- Reads a whole text: the reader has to leave nothing. -/
def readAll? {α : Type} (r : Reader α) (s : List Char) : Option α :=
  match r.run s with
  | some (a, []) => some a
  | _ => none

/-- Takes one character of a class. -/
def satisfying (p : Char → Bool) : Reader Char := fun
  | c :: s => if p c then some (c, s) else none
  | [] => none

/-- Takes the given character. -/
def char (c : Char) : Reader Unit := do
  let _ ← satisfying (· == c)

/-- Skips the characters of a class, as many as there are. -/
def skipWhile (p : Char → Bool) : Reader Unit := fun s => some ((), s.dropWhile p)

/-- Skips blanks. -/
def blanks : Reader Unit := skipWhile isBlank

/-- Takes as many digits as there are, at least one. -/
def digits : Reader (List Char) := fun s =>
  match s.takeWhile Char.isDigit with
  | [] => none
  | d :: ds => some (d :: ds, s.dropWhile Char.isDigit)

/-- Takes a number of `least` to `most` digits, as many as there are. -/
def number (least most : Nat) : Reader Nat := fun s =>
  let ds := (s.take most).takeWhile Char.isDigit
  if ds.length < least then none
  else some (Nat.ofDigitChars 10 ds 0, s.drop ds.length)

/-- Takes the given character if it comes next, and tells whether it did. -/
def has (c : Char) : Reader Bool := fun
  | d :: s => if d = c then some (true, s) else some (false, d :: s)
  | [] => some (false, [])

end Reader

end RecordQuery.Text
