import RecordQuery.Text.CaseTable

/-!
Letter case. A text is put into lower case as a whole (`lower`), where a capital sigma takes its
final form at the end of a word, or character by character (`fold`), where it does not. Both leave
characters without case as they are, and both may lengthen a text: a capital I with a dot becomes
an i and a combining dot.
-/

namespace RecordQuery.Text

/-- The lower case of one character, on its own. -/
def lowerChar (c : Char) : List Char :=
  if c.toNat < 0x80 then [c.toLower]
  else if c = '\u0130' then ['i', '\u0307']
  else [Char.ofNat (CaseRun.shift c.toNat CaseTable.lowerRuns)]

/-- The upper case of one character, on its own. -/
def upperChar (c : Char) : List Char :=
  if c.toNat < 0x80 then [c.toUpper]
  else match CaseTable.upperSequences.lookup c.toNat with
    | some sequence => sequence.map Char.ofNat
    | none => [Char.ofNat (CaseRun.shift c.toNat CaseTable.upperRuns)]

def isUppercase (c : Char) : Bool := CaseTable.uppercase.contains c

def isCased (c : Char) : Bool := CaseTable.cased.contains c

def isCaseIgnorable (c : Char) : Bool := CaseTable.caseIgnorable.contains c

/-- Whether the first character that is not ignored for case is a cased one. -/
def startsCased (s : List Char) : Bool :=
  match s.dropWhile isCaseIgnorable with
  | [] => false
  | c :: _ => isCased c

/-- The lower case of `c`, where `afterCased` tells whether a cased character comes before it, with
ignored ones between, and `rest` is what follows it. -/
def lowerIn (afterCased : Bool) (c : Char) (rest : List Char) : List Char :=
  if c = 'Σ' then if afterCased && !startsCased rest then ['ς'] else ['σ']
  else lowerChar c

/-- Puts a text into lower case behind `done`, which holds the lower case of what precedes it, last
character first. -/
def lowerOnto (done : List Char) (afterCased : Bool) : List Char → List Char
  | [] => done.reverse
  | c :: rest =>
    lowerOnto ((lowerIn afterCased c rest).reverse ++ done)
      (if isCaseIgnorable c then afterCased else isCased c) rest

/-- The lower case of a text. A capital sigma becomes a final one if a cased character comes before
it and none after it, characters that are ignored for case aside. -/
def lower (s : List Char) : List Char := lowerOnto [] false s

/-- The lower case of a text's characters, each on its own. -/
def fold (s : List Char) : List Char := s.flatMap lowerChar

end RecordQuery.Text
