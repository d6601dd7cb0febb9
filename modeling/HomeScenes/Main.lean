import HomeScenes.Launch

/-!
# The command line

  The program takes no arguments: all settings come from the environment.  It works out the plan to
  serve and prints it, or prints what is wrong with a setting and fails.
-/

namespace HomeScenes

/-- The settings that a launch looks at. -/
def settingNames : List String :=
  ["LOG_LEVEL", "FIBARO_HOST", "FIBARO_USERNAME", "FIBARO_PASSWORD", "FIBARO_PORT",
    "FIBARO_HTTPS", "FIBARO_ROOM_ID", "PORT"]

/-- The environment, as far as a launch looks at it. -/
def readEnvironment : IO Environment := do
  let entries ← settingNames.mapM fun name => do
    let text ← IO.getEnv name
    return text.map fun text => (name, text)
  return entries.filterMap id

/-- A plan in one line. -/
def LaunchPlan.summary (plan : LaunchPlan) : String :=
  "Serving on " ++ plan.host ++ ":" ++ plan.port.repr ++ " for " ++ plan.settings.baseUrl ++
    ", room " ++ plan.roomId.repr ++ ", log level " ++ plan.level.name

end HomeScenes

/-- Prints the plan to serve. -/
def main : IO UInt32 := do
  let env ← HomeScenes.readEnvironment
  match HomeScenes.LaunchPlan.ofEnvironment env with
  | .ok plan =>
    IO.println plan.summary
    return 0
  | .error why =>
    IO.eprintln why.message
    return 1
