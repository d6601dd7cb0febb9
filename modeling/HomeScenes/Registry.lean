import HomeScenes.Controller.Scene
import HomeScenes.Files.Disk
import HomeScenes.Json.Writer
import HomeScenes.Script

/-!
# The registry of automations

  The registry installs automations as scenes of a controller and keeps a record of each, in the
  order in which they were first installed.  After every change the records are saved to a file, so
  that they survive a restart.

  An install or uninstall has three parts: a request to the controller, the change of the record,
  and the save.  If the request fails nothing is changed; if the save fails the record has changed
  already.
-/

namespace HomeScenes

open Condition (Error)
open Controller (Machine Operation)

variable [Stack]

/-- **The registry**: the room for new scenes, the records by the ids of their automations, and the
    file that they are saved to. -/
structure Registry where
  roomId : Int
  path : String
  records : List (String × Deployment)
  disk : Disk

namespace Registry

/-- Why an operation of the registry fails. -/
inductive Failure where
  | rejected (why : Error)
  | invalid (id : String) (errors : List String)
  | controller (why : Controller.Failure)
  | unsaved (path : String) (obstacle : Obstacle)

/-- The message about an automation whose conditions are invalid. -/
def invalidMessage (id : String) (errors : List String) : String :=
  "Automation '" ++ id ++ "' is invalid: " ++ "; ".intercalate errors

/-- The message about records that could not be saved. -/
def unsavedMessage (path : String) (obstacle : Obstacle) : String :=
  "Failed to save models to " ++ path ++ ": " ++ obstacle.text path

/-! ## Records -/

/-- The deployments, in order. -/
def deployments (registry : Registry) : List Deployment :=
  registry.records.map Prod.snd

/-- The deployment of an automation. -/
def get? (registry : Registry) (id : String) : Option Deployment :=
  Keyed.get? id registry.records

/-- The registry with a deployment recorded. -/
def record (registry : Registry) (deployment : Deployment) : Registry :=
  { registry with records := Keyed.put deployment.automation.id deployment registry.records }

/-- The registry without an automation. -/
def forget (registry : Registry) (id : String) : Registry :=
  { registry with records := Keyed.erase id registry.records }

/-! ## Saving and loading -/

/-- The text that the records are saved as. -/
def savedText (registry : Registry) : String :=
  Json.indented 0 (.list (registry.deployments.map Deployment.dump))

/-- **Saving** the records.  Only the file can make a save fail: that the records have a document
    and the document a text is taken for granted.  Records with free-form parts that are nested
    too deep to be written, or with an integer that has too many digits to be written, are outside
    of this. -/
def save (registry : Registry) : Except Failure Unit × Registry :=
  let (obstacle, disk) := registry.disk.save registry.savedText
  let saved := { registry with disk := disk }
  match obstacle with
  | none => (.ok (), saved)
  | some obstacle => (.error (.unsaved registry.path obstacle), saved)

/-- Why a file cannot be loaded. -/
inductive LoadFailure where
  | undecodable
  | unreadable (why : Json.Error)
  | notIterable (got : Value)

/-- The values in a file, as far as there are any: none in a file that is missing or is no JSON.  A
    file that is refused although it is well formed does not pass for an empty one. -/
def savedValues (disk : Disk) : Except LoadFailure (List Value) :=
  match disk.contents with
  | none => .ok []
  | some .undecodable => .error .undecodable
  | some (.text s) =>
    match Json.read s with
    | .error .malformed => .ok []
    | .error why => .error (.unreadable why)
    | .ok v =>
      match Controller.iterate v with
      | .error got => .error (.notIterable got)
      | .ok items => .ok items

/-- The deployments among values; others are passed over. -/
def deploymentsIn (values : List Value) : List Deployment :=
  values.filterMap fun v =>
    match Deployment.read v with
    | .good deployment => some deployment
    | .bad _ => none

/-- **The deployments saved** in a file. -/
def savedDeployments (disk : Disk) : Except LoadFailure (List Deployment) :=
  (savedValues disk).map deploymentsIn

/-- **Loading** what was saved, on top of what is recorded. -/
def load (registry : Registry) : Except LoadFailure Registry :=
  (savedDeployments registry.disk).map fun deployments => deployments.foldl record registry

/-- The registry after a restart, before anything is loaded. -/
def restarted (registry : Registry) : Registry :=
  { registry with records := [] }

/-! ## Installing -/

/-- The deployment that an install would make, on no controller yet. -/
def draft (a : Automation) (statements : List String) : Except Failure Deployment :=
  match a.generate statements with
  | .error why => .error (.rejected why)
  | .ok deployment =>
    if deployment.validation.valid then .ok deployment
    else .error (.invalid a.id deployment.validation.errors)

/-- The scene that an automation is deployed as already. -/
def sceneOf? (registry : Registry) (id : String) : Option Int :=
  (registry.get? id).bind Deployment.sceneId

/-- The operation that deploys a draft: its scene is updated if it has one, and else created. -/
def deployOperation (registry : Registry) (draft : Deployment) : Operation :=
  match registry.sceneOf? draft.automation.id with
  | some scene => .update scene (some draft.automation.name) none (some draft.luaCode)
  | none =>
    .create draft.automation.name registry.roomId draft.luaCode Controller.Scene.luaType

/-- The scene that holds a draft, given how its operation ended. -/
def deployedScene (registry : Registry) (draft : Deployment) :
    Controller.Outcome → Option Int
  | .scene scene => some scene.id
  | _ => registry.sceneOf? draft.automation.id

/-- **Installing** an automation.  The conditions are checked before the controller is asked. -/
def install {σ : Type} (controller : Machine σ) (a : Automation) (statements : List String)
    (registry : Registry) (state : σ) : Except Failure Deployment × Registry × σ :=
  match draft a statements with
  | .error why => (.error why, registry, state)
  | .ok draft =>
    match (registry.deployOperation draft).perform controller state with
    | (.error why, state) => (.error (.controller why), registry, state)
    | (.ok outcome, state) =>
      let deployment := { draft with sceneId := registry.deployedScene draft outcome }
      match (registry.record deployment).save with
      | (.error why, registry) => (.error why, registry, state)
      | (.ok (), registry) => (.ok deployment, registry, state)

/-! ## Uninstalling -/

/-- The controller without a scene: nothing is asked of it when there is none. -/
def withdraw {σ : Type} (controller : Machine σ) (scene : Option Int) (state : σ) :
    Except Controller.Failure Unit × σ :=
  match scene with
  | none => (.ok (), state)
  | some id =>
    match (Operation.delete id).perform controller state with
    | (.error why, state) => (.error why, state)
    | (.ok _, state) => (.ok (), state)

/-- **Uninstalling** an automation; the result says whether it was installed. -/
def uninstall {σ : Type} (controller : Machine σ) (id : String) (registry : Registry)
    (state : σ) : Except Failure Bool × Registry × σ :=
  match registry.get? id with
  | none => (.ok false, registry, state)
  | some deployment =>
    match withdraw controller deployment.sceneId state with
    | (.error why, state) => (.error (.controller why), registry, state)
    | (.ok (), state) =>
      match (registry.forget id).save with
      | (.error why, registry) => (.error why, registry, state)
      | (.ok (), registry) => (.ok true, registry, state)

end Registry
end HomeScenes
