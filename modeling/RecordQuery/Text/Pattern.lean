import RecordQuery.Text.Case
import RecordQuery.Text.Search

/-!
Patterns for text. A needle without a star matches any text in which it occurs. A needle with stars
matches a text as a whole, and each star stands for any run of characters, also an empty one. Needle
and text are put into lower case first. A needle with stars that is too large to be prepared matches
nothing.

How large that is depends on how needles are prepared: as automata over bytes of UTF-8, of 10 MiB at most. The
size is not computed here but estimated, from what such automata measure: 32 bytes for each byte of the needle,
and 1004 for each star, which has to read any character. Near the limit this is right to about one percent, and
what every automaton takes beside its needle is left out. Results about patterns compare `preparedSize` with
`sizeLimit` and depend on neither number, so they hold for any other estimate as well.
-/

namespace RecordQuery

/-- A needle made ready for matching, in lower case. -/
inductive Pattern
  /-- Matches a text in which the needle occurs. -/
  | substring (needle : List Char)
  /-- Matches a text that starts with the opening, holds the inner pieces one after the other, and
  ends with the closing; the pieces are those between the stars. -/
  | wildcard (opening : List Char) (inner : List (List Char)) (closing : List Char)
  /-- A needle with stars that is too large; matches nothing. -/
  | oversized
  deriving DecidableEq

namespace Pattern

/-- The space in bytes that a prepared needle with stars may take: 10 MiB. -/
def sizeLimit : Nat := 10485760

/-- The space in bytes that one character of a needle takes, as measured. -/
def charSize (c : Char) : Nat := if c = '*' then 1004 else 32 * c.utf8Size

/-- The space in bytes that a needle with stars takes, to about one percent. -/
def preparedSize (needle : List Char) : Nat := needle.foldl (fun size c => size + charSize c) 0

/-- Prepares a needle that is in lower case already. -/
def ofLower (needle : List Char) : Pattern :=
  match needle.splitOn '*' with
  | opening :: piece :: pieces =>
    if preparedSize needle ≤ sizeLimit then
      .wildcard opening (piece :: pieces).dropLast
        ((piece :: pieces).getLast (List.cons_ne_nil piece pieces))
    else .oversized
  | _ => .substring needle

/-- Prepares a needle. -/
def compile (needle : String) : Pattern := ofLower (Text.lower needle.toList)

/-- Whether the needle has a star. -/
def isWildcard : Pattern → Bool
  | .substring _ => false
  | _ => true

/-- What is left of a text after each piece in turn is found at its first place. -/
def skipPieces? (s : List Char) (pieces : List (List Char)) : Option (List Char) :=
  pieces.foldlM (fun rest piece => (Text.cut? piece rest).map Prod.snd) s

/-- Whether a text in lower case is matched. -/
def acceptsLower (s : List Char) : Pattern → Bool
  | .substring needle => Text.occursIn needle s
  | .wildcard opening inner closing =>
    opening.isPrefixOf s &&
      ((skipPieces? (s.drop opening.length) inner).any closing.isSuffixOf)
  | .oversized => false

/-- Whether a text is matched, whatever its letter case. -/
def accepts (p : Pattern) (haystack : String) : Bool :=
  p.acceptsLower (Text.lower haystack.toList)

end Pattern

end RecordQuery
