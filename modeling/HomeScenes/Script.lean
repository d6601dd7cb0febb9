import HomeScenes.Automation
import HomeScenes.Text.Lines

/-!
# Scene code

  The code of a scene has a comment line for the name of its automation, one for the description
  and one for the schedule if there are any, and a conditional that runs the statements when the
  conditions hold.  Every line of a statement is indented by four blanks.
-/

namespace HomeScenes

open Condition (Error)

namespace Automation

/-- One comment line: a heading and display text that was checked. -/
def commentLine (heading context text : String) : Except Error String :=
  match Lua.displayName context (.text text) with
  | .ok text => .ok (heading ++ text)
  | .error failure => .error (.ofFailure failure)

/-- A comment line for a text that may be missing; an empty one counts as missing. -/
def optionalLine (heading context : String) (text? : Option String) :
    Except Error (List String) :=
  match text?.filter fun text => !text.isEmpty with
  | none => .ok []
  | some text => do
    let line ← commentLine heading context text
    return [line]

/-- The comment lines of an automation. -/
def header (a : Automation) : Except Error (List String) := do
  let name ← commentLine "-- Automation: " "automation name" a.name
  let description ← optionalLine "-- " "automation description" a.description
  let schedule ← optionalLine "-- Schedule: " "schedule" a.schedule
  return name :: description ++ schedule

/-- The lines that run the statements. -/
def body (statements : List String) : List String :=
  statements.flatMap fun statement => (Text.lines statement).map fun line => "    " ++ line

/-- **The scene code** of an automation.  The comment lines are checked before the conditions. -/
def script (a : Automation) (statements : List String) : Except Error String := do
  let header ← a.header
  let condition ← a.conditions.compile Condition.defaultLimit
  return "\n".intercalate
    (header ++ ["if " ++ condition ++ " then"] ++ body statements ++ ["end", ""])

/-- **Generating** a deployment that is on no controller yet.  The conditions are checked first;
    only an automation whose conditions are valid gets scene code. -/
def generate [Stack] (a : Automation) (statements : List String) : Except Error Deployment :=
  match a.conditions.check Condition.defaultLimit with
  | .error why => .error (.stopped why)
  | .ok report =>
    if report.valid then
      (a.script statements).map fun code => ⟨a, code, none, report⟩
    else
      .ok ⟨a, "", none, report⟩

end Automation
end HomeScenes
