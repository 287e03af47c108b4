/-!
Data on the wire, and how typed values are read from it. A structure comes as an object, or as an
array of its members in the order of their declaration. Members that are missing take their
default, and unknown members of an object do not count.
-/

namespace RecordQuery

/-- Data on the wire. -/
inductive Wire
  | null
  | bool (b : Bool)
  /-- A number that is written without a fraction. -/
  | integer (n : Int)
  /-- A number that is written with a fraction: a count of 10 to the minus `places`. -/
  | decimal (mantissa : Int) (places : Nat)
  | text (s : String)
  | array (items : List Wire)
  | object (members : List (String × Wire))

namespace Wire

instance : Inhabited Wire := ⟨.null⟩

def string? : Wire → Option String
  | .text s => some s
  | _ => none

/-- A whole number of 32 bits. -/
def int32? : Wire → Option Int32
  | .integer n =>
    if Int32.minValue.toInt ≤ n ∧ n ≤ Int32.maxValue.toInt then some (Int32.ofInt n) else none
  | _ => none

/-- The members of a structure whose members have the given names. -/
def members? (names : List String) : Wire → Option (String → Option Wire)
  | .object members => some fun name => members.lookup name
  | .array items =>
    if items.length ≤ names.length then some fun name => (names.zip items).lookup name else none
  | _ => none

/-- Reads a member, and takes the default for a missing one. -/
def memberOr? {α : Type u} (default : α) (read? : Wire → Option α) : Option Wire → Option α
  | none => some default
  | some w => read? w

/-- A whole number of 32 bits on the wire. -/
def ofInt32 (n : Int32) : Wire := .integer n.toInt

end Wire

end RecordQuery
