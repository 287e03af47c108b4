import RecordQuery.Text.Pattern
import RecordQuery.Time.Rfc3339

/-!
Field values. A value is a number, a text, a timestamp kept as text, or an instant. Values of one
kind are ordered (`Value.compare?`), and a value can contain another one of its kind
(`Value.contains`): a text contains the texts and patterns that match it, any other value those
that are equal in order.
-/

namespace RecordQuery

/-- The kinds of values. -/
inductive Kind
  | int
  | text
  | rfc3339
  | instant
  deriving DecidableEq

def Kind.name : Kind → String
  | .int => "int"
  | .text => "text"
  | .rfc3339 => "rfc3339"
  | .instant => "instant"

/-- The value of a field of a record. -/
inductive Value
  /-- A whole number of 64 bits. -/
  | int (n : Int64)
  /-- A text, whose letter case counts neither in order nor in matching. -/
  | text (s : String)
  /-- A timestamp in its written form, ordered by the instant it stands for. -/
  | rfc3339 (s : String)
  /-- An instant, ordered by whole seconds. -/
  | instant (t : Instant)
  deriving DecidableEq

namespace Value

def kind : Value → Kind
  | .int _ => .int
  | .text _ => .text
  | .rfc3339 _ => .rfc3339
  | .instant _ => .instant

/-- The number as a value, if it has at most 64 bits. -/
def ofInt? (n : Int) : Option Value :=
  if Int64.minValue.toInt ≤ n ∧ n ≤ Int64.maxValue.toInt then some (.int (Int64.ofInt n)) else none

theorem ofInt?_eq_some_iff {n : Int} {v : Value} :
    ofInt? n = some v ↔ ∃ k : Int64, k.toInt = n ∧ v = .int k := by
  constructor
  · intro fits
    obtain ⟨⟨lower, upper⟩, ⟨⟩⟩ := Option.ite_none_right_eq_some.1 fits
    rw [Int64.toInt_minValue] at lower
    rw [Int64.toInt_maxValue] at upper
    exact ⟨_, Int64.toInt_ofInt_of_le lower (Int.lt_of_le_sub_one upper), rfl⟩
  · intro isInt
    obtain ⟨k, rfl, rfl⟩ := isInt
    rw [ofInt?, if_pos ⟨k.minValue_le_toInt, k.toInt_le⟩, Int64.ofInt_toInt]

/-- The number that a value is. -/
def int? : Value → Option Int64
  | .int n => some n
  | _ => none

/-- The string that a value is kept as. -/
def string? : Value → Option String
  | .text s => some s
  | .rfc3339 s => some s
  | _ => none

/-- The instant that a value is. -/
def instant? : Value → Option Instant
  | .instant t => some t
  | _ => none

/-- Texts are in the order of their characters, each in lower case. -/
def compareText (a b : String) : Ordering := compare (Text.fold a.toList) (Text.fold b.toList)

/-- Written timestamps are in the order of their seconds if both can be read, else in that of their
characters. -/
def compareTimestamp (a b : String) : Ordering :=
  match Rfc3339.read? a.toList, Rfc3339.read? b.toList with
  | some s, some t => compare s.seconds t.seconds
  | _, _ => compare a b

/-- The order of two values of one kind; values of different kinds have none. -/
def compare? : Value → Value → Option Ordering
  | .int m, .int n => some (compare m.toInt n.toInt)
  | .text a, .text b => some (compareText a b)
  | .rfc3339 a, .rfc3339 b => some (compareTimestamp a b)
  | .instant s, .instant t => some (compare s.seconds t.seconds)
  | _, _ => none

/-- Whether a value contains a needle, by way of a test for values that are no texts. Values of different
kinds are not tested. `answer` takes what is known without that test. -/
def containsBy {α : Type} (answer : Bool → α) (test : Value → Value → α) : Value → Value → α
  | .text haystack, .text needle => answer ((Pattern.compile needle).accepts haystack)
  | v, needle => if v.kind = needle.kind then test v needle else answer false

/-- Whether a value contains a needle. -/
def contains : Value → Value → Bool := containsBy id fun v needle => v.compare? needle == some .eq

/-- A value as text. -/
def toText : Value → String
  | .int n => toString n.toInt
  | .text s => s
  | .rfc3339 s => s
  | .instant t => String.ofList (t.toText .offset)

end Value

/-- Reads a text as a value of a kind. Blanks around numbers and instants do not count. -/
def Kind.read? (k : Kind) (raw : String) : Option Value :=
  match k with
  | .int => (Text.readInt? (Text.trim raw.toList)).bind Value.ofInt?
  | .text => some (.text raw)
  | .rfc3339 => some (.rfc3339 raw)
  | .instant => (Rfc3339.read? (Text.trim raw.toList)).map Value.instant

end RecordQuery
