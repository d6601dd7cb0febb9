/-!
# Issues of a document

  A document that does not fit is answered with all of its issues, each at its place: a path of
  field names and list positions from the outside in.
-/

namespace HomeScenes

/-- One step of a path into a document. -/
inductive Step where
  | key (name : String)
  | index (i : Nat)
deriving DecidableEq

/-- The text of a step. -/
def Step.text : Step → String
  | .key name => name
  | .index i => i.repr

/-- What is wrong at a place. -/
inductive Fault where
  | missing
  | notText
  | notList
  | notRecord (title : String)
  | wrongTag (tag : String)
  | notInteger
  | unreadableInteger
  | oversizedInteger
  | fractional
  | notFinite
  | notBoolean
  | unreadableBoolean
  | notNumber
  | tooDeep
deriving DecidableEq

/-- **The message** of a fault. -/
def Fault.message : Fault → String
  | .missing => "Field required"
  | .notText => "Input should be a valid string"
  | .notList => "Input should be a valid list"
  | .notRecord title => "Input should be a valid dictionary or instance of " ++ title
  | .wrongTag tag => "Input should be '" ++ tag ++ "'"
  | .notInteger => "Input should be a valid integer"
  | .unreadableInteger => "Input should be a valid integer, unable to parse string as an integer"
  | .oversizedInteger => "Unable to parse input string as an integer, exceeded maximum size"
  | .fractional => "Input should be a valid integer, got a number with a fractional part"
  | .notFinite => "Input should be a finite number"
  | .notBoolean => "Input should be a valid boolean"
  | .unreadableBoolean => "Input should be a valid boolean, unable to interpret input"
  | .notNumber => "Input should be a valid number"
  | .tooDeep => "Recursion error - cyclic reference detected"

/-- A fault and its place. -/
structure Issue where
  path : List Step
  fault : Fault
deriving DecidableEq

/-- An issue as one line: its place, if it has one, and its message. -/
def Issue.line (issue : Issue) : String :=
  let place := ".".intercalate (issue.path.map Step.text)
  if place.isEmpty then issue.fault.message else place ++ ": " ++ issue.fault.message

/-- The heading over the issues of a record. -/
def Issue.heading (title : String) (issues : List Issue) : String :=
  let n := issues.length
  n.repr ++ (if n = 1 then " validation error for " else " validation errors for ") ++ title

end HomeScenes
