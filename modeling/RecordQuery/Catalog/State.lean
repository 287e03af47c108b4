import RecordQuery.Wire.Basic

/-!
The states in the life of a deployment or a cluster. On the wire and in queries a state is its
label.
-/

namespace RecordQuery

inductive State
  | unknown
  | running
  | down
  | internalError
  | deploying
  | updating
  | terminating
  | error
  | noTargetClusters
  deriving DecidableEq

namespace State

instance : Inhabited State := ⟨.unknown⟩

/-- All states in order. -/
def all : List State :=
  [.unknown, .running, .down, .internalError, .deploying, .updating, .terminating, .error,
    .noTargetClusters]

def label : State → String
  | .unknown => "UNKNOWN"
  | .running => "RUNNING"
  | .down => "DOWN"
  | .internalError => "INTERNAL_ERROR"
  | .deploying => "DEPLOYING"
  | .updating => "UPDATING"
  | .terminating => "TERMINATING"
  | .error => "ERROR"
  | .noTargetClusters => "NO_TARGET_CLUSTERS"

/-- The state with a label. -/
def ofLabel? (s : String) : Option State := all.find? (·.label == s)

/-- The place of a state among all states. -/
def ordinal (s : State) : Nat := all.idxOf s

def toWire (s : State) : Wire := .text s.label

/-- Reads a state from its label, or from an object with the label as its only member's name. -/
def ofWire? : Wire → Option State
  | .text s => ofLabel? s
  | .object [(s, .null)] => ofLabel? s
  | _ => none

end State

end RecordQuery
