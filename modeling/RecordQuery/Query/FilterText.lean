import RecordQuery.Query.Filter
import RecordQuery.Query.Rejection
import RecordQuery.Text.Blank

/-!
The text of a filter parameter: expressions `field=value` with ` OR ` between them, the whole with
or without double quotes around it. The field of an expression is a run of characters before an
equals sign, the first run that has a value behind it; the value ends at the end of its line.
-/

namespace RecordQuery

namespace Predicate

/-- The value behind an equals sign: the line there without the spaces and tabs in front, or the
last of these if there is nothing else. -/
def valueText? (s : List Char) : Option (List Char) :=
  let gap := s.takeWhile fun c => c == ' ' || c == '\t'
  let line := (s.drop gap.length).takeWhile (· != '\n')
  if line.isEmpty then gap.getLast?.map ([·]) else some line

/-- The first field with a value, and the value. `run` holds, last character first, what lies
between the last equals sign and `s`. -/
def partsFrom? (run : List Char) : List Char → Option (List Char × List Char)
  | [] => none
  | c :: s =>
    if c = '=' then
      match run, valueText? s with
      | _ :: _, some value => some (run.reverse, value)
      | _, _ => partsFrom? [] s
    else partsFrom? (c :: run) s

/-- Reads an expression. Blanks around field and value do not count. -/
def ofExpression (s : List Char) : Except Rejection Predicate :=
  match partsFrom? [] s with
  | some (field, value) =>
    .ok {
      field := String.ofList (Text.trim field)
      value := .text (String.ofList (Text.trim value)) }
  | none => .error (.filterExpression (String.ofList s))

end Predicate

namespace Filter

/-- Stands between two expressions. -/
def separator : List Char := [' ', 'O', 'R', ' ']

/-- The text without a pair of double quotes around it. -/
def unquoted : List Char → List Char
  | '"' :: s => if s.getLast? = some '"' then s.dropLast else '"' :: s
  | s => s

/-- Reads a filter parameter; the first expression that is amiss is reported. -/
def ofText (s : String) : Except Rejection Filter :=
  if s.isEmpty then .ok empty
  else
    ((Text.splitAround separator (unquoted s.toList) (List.cons_ne_nil _ _)).mapM
      Predicate.ofExpression).map Filter.mk

end Filter

end RecordQuery
