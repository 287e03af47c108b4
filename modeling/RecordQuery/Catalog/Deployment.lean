import RecordQuery.Catalog.State
import RecordQuery.Record.Layout
import RecordQuery.Time.Lenient

/-!
Deployments: versions of applications, their states and the times of their creation.
-/

namespace RecordQuery

/-- The state of a deployment, with a message about it. -/
structure DeploymentStatus where
  state : State := .unknown
  message : String := ""
  deriving DecidableEq

namespace DeploymentStatus

/-- A status without a message. -/
def ofState (state : State) : DeploymentStatus := { state }

def toWire (s : DeploymentStatus) : Wire :=
  .object [("state", s.state.toWire), ("message", .text s.message)]

def ofWire? (w : Wire) : Option DeploymentStatus := do
  let member ← w.members? ["state", "message"]
  return {
    state := ← Wire.memberOr? .unknown State.ofWire? (member "state")
    message := ← Wire.memberOr? "" Wire.string? (member "message") }

end DeploymentStatus

structure Deployment where
  name : String := ""
  displayName : String := ""
  appName : String := ""
  appVersion : String := ""
  deployId : String := ""
  status : DeploymentStatus := {}
  createTime : Option Instant := none
  deriving DecidableEq

namespace Deployment

/-- A deployment of a version of an application, shown under its own name. -/
def ofApp (name appName appVersion : String) : Deployment :=
  { name, displayName := name, appName, appVersion }

/-- The deployment in a state, about which there is no message yet. -/
def inState (d : Deployment) (state : State) : Deployment := { d with status := .ofState state }

/-- The fields that queries may name. -/
def layout : Layout where
  fields := [
    ⟨"name", "name", .text⟩, ⟨"displayName", "display_name", .text⟩,
    ⟨"appName", "app_name", .text⟩, ⟨"appVersion", "app_version", .text⟩,
    ⟨"deployId", "deploy_id", .text⟩, ⟨"status", "status", .label⟩,
    ⟨"createTime", "create_time", .instant⟩]

def member (d : Deployment) : String → Member
  | "name" => .text d.name
  | "display_name" => .text d.displayName
  | "app_name" => .text d.appName
  | "app_version" => .text d.appVersion
  | "deploy_id" => .text d.deployId
  | "status" => .label d.status.state.label
  | "create_time" => d.createTime.elim .unset .instant
  | _ => .unset

instance : Record Deployment := ⟨layout, member⟩

/-- An instant on the wire; an unset one is null. -/
def timeToWire (t : Option Instant) : Wire :=
  t.elim .null fun t => .text (String.ofList (t.toText .letter))

def timeOfWire? : Wire → Option (Option Instant)
  | .null => some none
  | .text s => (Lenient.read? s.toList).map some
  | _ => none

def toWire (d : Deployment) : Wire :=
  .object [("name", .text d.name), ("displayName", .text d.displayName),
    ("appName", .text d.appName), ("appVersion", .text d.appVersion),
    ("deployId", .text d.deployId), ("status", d.status.toWire),
    ("createTime", timeToWire d.createTime)]

def ofWire? (w : Wire) : Option Deployment := do
  let member ← w.members?
    ["name", "displayName", "appName", "appVersion", "deployId", "status", "createTime"]
  return {
    name := ← Wire.memberOr? "" Wire.string? (member "name")
    displayName := ← Wire.memberOr? "" Wire.string? (member "displayName")
    appName := ← Wire.memberOr? "" Wire.string? (member "appName")
    appVersion := ← Wire.memberOr? "" Wire.string? (member "appVersion")
    deployId := ← Wire.memberOr? "" Wire.string? (member "deployId")
    status := ← Wire.memberOr? {} DeploymentStatus.ofWire? (member "status")
    createTime := ← Wire.memberOr? none timeOfWire? (member "createTime") }

end Deployment

end RecordQuery
