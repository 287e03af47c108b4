import RecordQuery.Catalog.Labels
import RecordQuery.Catalog.State
import RecordQuery.Record.Layout

/-!
Clusters, with their states, and what is told about clusters apart from that.
-/

namespace RecordQuery

/-- The state of a cluster. -/
structure ClusterStatus where
  state : State := .unknown
  deriving DecidableEq

namespace ClusterStatus

def toWire (s : ClusterStatus) : Wire := .object [("state", s.state.toWire)]

def ofWire? (w : Wire) : Option ClusterStatus := do
  let member ← w.members? ["state"]
  return { state := ← Wire.memberOr? .unknown State.ofWire? (member "state") }

end ClusterStatus

structure Cluster where
  id : String := ""
  name : String := ""
  status : ClusterStatus := {}
  deriving DecidableEq

namespace Cluster

def ofState (id name : String) (state : State) : Cluster := { id, name, status := { state } }

/-- The fields that queries may name. -/
def layout : Layout where
  fields := [⟨"id", "id", .text⟩, ⟨"name", "name", .text⟩, ⟨"status", "status", .label⟩]

def member (c : Cluster) : String → Member
  | "id" => .text c.id
  | "name" => .text c.name
  | "status" => .label c.status.state.label
  | _ => .unset

instance : Record Cluster := ⟨layout, member⟩

def toWire (c : Cluster) : Wire :=
  .object [("id", .text c.id), ("name", .text c.name), ("status", c.status.toWire)]

def ofWire? (w : Wire) : Option Cluster := do
  let member ← w.members? ["id", "name", "status"]
  return {
    id := ← Wire.memberOr? "" Wire.string? (member "id")
    name := ← Wire.memberOr? "" Wire.string? (member "name")
    status := ← Wire.memberOr? {} ClusterStatus.ofWire? (member "status") }

end Cluster

/-- A cluster's name and labels. Queries may not name the labels. -/
structure ClusterInfo where
  id : String := ""
  name : String := ""
  labels : Labels := .empty

namespace ClusterInfo

/-- Puts a label on a cluster. -/
def withLabel (c : ClusterInfo) (key value : String) : ClusterInfo :=
  { c with labels := c.labels.insert key value }

/-- The fields that queries may name. -/
def layout : Layout where
  fields := [⟨"id", "id", .text⟩, ⟨"name", "name", .text⟩]

def member (c : ClusterInfo) : String → Member
  | "id" => .text c.id
  | "name" => .text c.name
  | _ => .unset

instance : Record ClusterInfo := ⟨layout, member⟩

def toWire (c : ClusterInfo) : Wire :=
  .object [("id", .text c.id), ("name", .text c.name), ("labels", c.labels.toWire)]

def ofWire? (w : Wire) : Option ClusterInfo := do
  let member ← w.members? ["id", "name", "labels"]
  return {
    id := ← Wire.memberOr? "" Wire.string? (member "id")
    name := ← Wire.memberOr? "" Wire.string? (member "name")
    labels := ← Wire.memberOr? .empty Labels.ofWire? (member "labels") }

end ClusterInfo

end RecordQuery
