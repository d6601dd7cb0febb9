import HomeScenes.Controller.Settings
import HomeScenes.Files.Path
import HomeScenes.Text.Upper

/-!
# Launching

  Everything that a start of the service needs is read from the environment before anything runs:
  how much to log, the room for new scenes, the connection to the controller, the file of records
  and the port to listen on.
-/

namespace HomeScenes

/-- The levels of logging. -/
inductive LogLevel where
  | notSet
  | debug
  | info
  | warning
  | error
  | critical
deriving DecidableEq

namespace LogLevel

/-- The name of a level. -/
def name : LogLevel → String
  | .notSet => "NOTSET"
  | .debug => "DEBUG"
  | .info => "INFO"
  | .warning => "WARNING"
  | .error => "ERROR"
  | .critical => "CRITICAL"

/-- The level of a name; two have a second name. -/
def ofName? : String → Option LogLevel
  | "NOTSET" => some .notSet
  | "DEBUG" => some .debug
  | "INFO" => some .info
  | "WARNING" => some .warning
  | "WARN" => some .warning
  | "ERROR" => some .error
  | "CRITICAL" => some .critical
  | "FATAL" => some .critical
  | _ => none

/-- **The level of a setting**, in either case. -/
def ofSetting (text : String) : Except SettingError LogLevel :=
  let name := Text.upper text
  match ofName? name with
  | some level => .ok level
  | none => .error (.unknownLevel name)

end LogLevel

/-- **A plan** to serve. -/
structure LaunchPlan where
  level : LogLevel
  settings : Controller.Settings
  roomId : Int
  host : String
  port : Int

namespace LaunchPlan

/-- **The plan** that the environment sets.  Faults are found in the order: level, connection, room,
    port. -/
def ofEnvironment (env : Environment) : Except SettingError LaunchPlan := do
  let level ← LogLevel.ofSetting ((env.setting? "LOG_LEVEL").getD "INFO")
  let settings ← Controller.Settings.ofEnvironment env
  let roomId ← Environment.integerOr 0 (env.setting? "FIBARO_ROOM_ID")
  let port ← Environment.integerOr 8080 (env.setting? "PORT")
  return ⟨level, settings, roomId, "0.0.0.0", port⟩

/-- **The file of records**: the one that is given, else the one that is set, else one in the
    project root. -/
def recordsFile (given : Option String) (env : Environment) (root : String) : String :=
  match given, env.setting? "AUTOMATIONS_FILE" with
  | some path, _ => path
  | none, some path => path
  | none, none => Path.join root "automations.json"

end LaunchPlan
end HomeScenes
