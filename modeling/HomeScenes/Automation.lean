import HomeScenes.Condition.Check
import HomeScenes.Condition.Dump

/-!
# Automations

  An automation pairs a condition tree with actions and an optional schedule.  Actions are carried
  along as they are; only their kind is required.  A *deployment* is an automation with the scene
  code made from it, the report of its conditions, and the scene of the controller that holds it.

  As in a condition tree, the limit on the nesting of free-form parts that are written (here what an
  action has beside its kind) is not modelled.
-/

namespace HomeScenes

open Condition (Group Report)

/-! ## Actions -/

/-- An action: its kind and whatever else the document says of it. -/
structure Action where
  kind : String
  extra : List (String × Value)

namespace Action

/-- The name of an action in messages. -/
def title : String := "Action"

/-- **An action** from a document. -/
def read : Value → Reading Action :=
  Read.record title fun fields =>
    Action.mk <$> (Field.named "type").required Read.text fields
      <*> .good (fields.filter fun (key, _) => key ≠ "type")

/-- An action as a document. -/
def dump (a : Action) : Value :=
  .object (("type", .text a.kind) :: Value.finitizedFields a.extra)

end Action

/-! ## Automations -/

/-- **An automation.** -/
structure Automation where
  id : String
  name : String
  description : Option String
  conditions : Group
  actions : List Action
  schedule : Option String
  enabled : Bool

namespace Automation

def idField : Field := .named "id"
def nameField : Field := .named "name"
def descriptionField : Field := .named "description"
def conditionsField : Field := .named "conditions"
def actionsField : Field := .named "actions"
def scheduleField : Field := .named "schedule"
def enabledField : Field := .named "enabled"

/-- The fields of an automation, in their order. -/
def fields : List Field :=
  [idField, nameField, descriptionField, conditionsField, actionsField, scheduleField,
    enabledField]

/-- The name of an automation in messages. -/
def title : String := "Automation"

/-- **An automation** from a document. -/
def read : Value → Reading Automation :=
  Read.record title fun fields =>
    Automation.mk <$> idField.required Read.text fields
      <*> nameField.required Read.text fields
      <*> descriptionField.optional Read.text fields
      <*> conditionsField.required Group.readPart fields
      <*> actionsField.defaulted [] (Read.list Action.read) fields
      <*> scheduleField.optional Read.text fields
      <*> enabledField.defaulted true Read.bool fields

/-- An automation as a document. -/
def dump (a : Automation) : Value :=
  .object [("id", .text a.id), ("name", .text a.name), ("description", .ofText? a.description),
    ("conditions", a.conditions.dump), ("actions", .list (a.actions.map Action.dump)),
    ("schedule", .ofText? a.schedule), ("enabled", .bool a.enabled)]

end Automation

/-! ## Reports as documents -/

namespace Condition.Report

def validField : Field := .named "valid"
def errorsField : Field := .named "errors"
def warningsField : Field := .named "warnings"

/-- The fields of a report, in their order. -/
def fields : List Field := [validField, errorsField, warningsField]

/-- The name of a report in messages. -/
def title : String := "ValidationResult"

/-- **A report** from a document. -/
def read : Value → Reading Report :=
  Read.record title fun fields =>
    Report.mk <$> validField.required Read.bool fields
      <*> errorsField.defaulted [] (Read.list Read.text) fields
      <*> warningsField.defaulted [] (Read.list Read.text) fields

/-- A report as a document. -/
def dump (r : Report) : Value :=
  .object [("valid", .bool r.valid), ("errors", .ofTexts r.errors),
    ("warnings", .ofTexts r.warnings)]

end Condition.Report

/-! ## Deployments -/

/-- **A deployment.**  The scene code is empty when the report is not valid; there is no scene
    until the controller has one. -/
structure Deployment where
  automation : Automation
  luaCode : String
  sceneId : Option Int
  validation : Report

namespace Deployment

def automationField : Field := .named "automation"
def luaCodeField : Field := ⟨"luaCode", "lua_code"⟩
def sceneIdField : Field := ⟨"sceneId", "scene_id"⟩
def validationField : Field := .named "validation"

/-- The fields of a deployment, in their order. -/
def fields : List Field := [automationField, luaCodeField, sceneIdField, validationField]

/-- The name of a deployment in messages. -/
def title : String := "AutomationResult"

/-- **A deployment** from a document. -/
def read : Value → Reading Deployment :=
  Read.record title fun fields =>
    Deployment.mk <$> automationField.required Automation.read fields
      <*> luaCodeField.required Read.text fields
      <*> sceneIdField.optional Read.int fields
      <*> validationField.required Report.read fields

/-- A deployment as a document, at any depth of its free-form parts. -/
def dump (d : Deployment) : Value :=
  .object [("automation", d.automation.dump), ("luaCode", .text d.luaCode),
    ("sceneId", .ofInt? d.sceneId), ("validation", d.validation.dump)]

end Deployment

/-! ## Requests to install -/

/-- A request to install an automation that runs some statements. -/
structure InstallOrder where
  automation : Automation
  statements : List String

namespace InstallOrder

def automationField : Field := .named "automation"
def statementsField : Field := .named "statements"

/-- The fields of a request to install, in their order. -/
def fields : List Field := [automationField, statementsField]

/-- The name of a request to install in messages. -/
def title : String := "InstallRequest"

/-- **A request to install** from a document. -/
def read : Value → Reading InstallOrder :=
  Read.record title fun fields =>
    InstallOrder.mk <$> automationField.required Automation.read fields
      <*> statementsField.defaulted [] (Read.list Read.text) fields

/-- A request to install as a document. -/
def dump (order : InstallOrder) : Value :=
  .object [("automation", order.automation.dump), ("statements", .ofTexts order.statements)]

end InstallOrder
end HomeScenes
