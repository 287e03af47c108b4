import RecordQuery.Text.Quoted

/-!
The reasons for which the parameters of a query are refused, and their messages. Text that a client
sent is quoted in a message, so the message names it exactly and stays on one line.
-/

namespace RecordQuery

/-- The parameters of a page. -/
inductive PageParameter
  | size
  | offset
  deriving DecidableEq

def PageParameter.name : PageParameter → String
  | .size => "page_size"
  | .offset => "offset"

/-- A bound that a parameter did not keep. -/
inductive Limit
  | atLeast (n : Int)
  | atMost (n : Int)
  deriving DecidableEq

def Limit.message : Limit → String
  | .atLeast n => "value must be greater than or equal to " ++ toString n
  | .atMost n => "value must be less than or equal to " ++ toString n

/-- Why the parameters of a query are refused. -/
inductive Rejection
  /-- A segment of the order has no field, or more than a field and a direction. -/
  | orderSegment (segment : String)
  /-- The word for a direction is none. -/
  | direction (word : String)
  /-- An expression of the filter has no field or no value. -/
  | filterExpression (expression : String)
  /-- A page parameter is out of its range. -/
  | page (parameter : PageParameter) (limit : Limit)
  deriving DecidableEq

namespace Rejection

/-- The full message. -/
def message : Rejection → String
  | .orderSegment segment => "invalid format for order by parameter: " ++ Text.quote segment
  | .direction word =>
    "invalid order direction " ++ Text.quote word ++ "; must be 'asc' or 'desc'"
  | .filterExpression expression => "invalid filter request: " ++ Text.quote expression
  | .page parameter limit => "validation error: " ++ parameter.name ++ ": " ++ limit.message

/-- The message for a reader who knows which parameter is meant. -/
def shortMessage : Rejection → String
  | .page _ limit => limit.message
  | r => r.message

end Rejection

end RecordQuery
