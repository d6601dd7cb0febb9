import HomeScenes.Files.Path

/-!
# The project root

  The root of a project is the nearest directory, from a starting path upwards, that holds the file
  `app.py`.  The search ends at the path that is its own parent, which is not looked at any more.
-/

namespace HomeScenes.Path

/-- The file that marks a project root. -/
def marker : String := "app.py"

/-- **The search** for the project root. -/
def findRoot? (hasPath : String → Bool) (path : List Char) : Option (List Char) :=
  if parent path = path then none
  else if hasPath (join (String.ofList path) marker) then some path
  else findRoot? hasPath (parent path)
termination_by path.length
decreasing_by exact length_parent_lt (by assumption)

/-- The message when there is no project root. -/
def noRootMessage : String :=
  "Could not find project root (directory containing app.py)"

/-- **The project root** from a starting path. -/
def projectRoot (hasPath : String → Bool) (start : String) : Except String String :=
  match findRoot? hasPath start.toList with
  | some path => .ok (String.ofList path)
  | none => .error noRootMessage

end HomeScenes.Path
