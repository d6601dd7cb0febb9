import HomeScenes.Condition.Basic
import HomeScenes.Condition.Operator

/-!
# Compiling condition trees

  A tree becomes one boolean expression of the scene language.  Compiling stops at the first thing
  that is wrong: part of an expression could make an automation fire at the wrong time.

  Nested groups are put between parentheses, so each keeps its own connective; a leaf is written as
  it is.
-/

namespace HomeScenes.Condition

/-- The deepest nesting of groups that is accepted unless another limit is given. -/
def defaultLimit : Int := 32

/-! ## Checked values -/

/-- A finite number, by its text. -/
def numberText (context : String) (v : Value) : Except Error String :=
  match Lua.finite context v with
  | .ok n => .ok n.text
  | .error failure => .error (.ofFailure failure)

/-- An identifier. -/
def identifierText (context : String) (s : String) : Except Error String :=
  match Lua.identifier context (.text s) with
  | .ok name => .ok name
  | .error failure => .error (.ofFailure failure)

/-- A literal. -/
def literalText (v : Value) : Except Error String :=
  match Lua.literal v with
  | .ok text => .ok text
  | .error failure => .error (.ofFailure failure)

/-- What a slot holds, unless that is an empty text. -/
def nonEmpty? (slot : Slot String) : Option String :=
  slot.toOption.filter fun s => !s.isEmpty

/-! ## Leaves -/

/-- Stops with a defect unless the document has a value for the leaf. -/
def Leaf.requireValue (leaf : Leaf) (defect : Defect) : Except Error Unit :=
  if leaf.value.isSupplied then .ok () else .error (.malformed defect)

/-- The operator of a leaf, as a token. -/
def Leaf.operatorText (leaf : Leaf) : Except Error String := do
  let comparison ← Comparison.read (leaf.operator.toValue .text)
  return comparison.lua

/-- The property of a device against a literal. -/
def Leaf.compileDevice (leaf : Leaf) (deviceId : Slot Int) (property : Slot String) :
    Except Error String :=
  match deviceId.toOption, nonEmpty? property with
  | some id, some name => do
    leaf.requireValue .deviceWithoutValue
    let operator ← leaf.operatorText
    let device ← numberText "deviceId" (.int id)
    let name ← identifierText "device property" name
    let literal ← literalText leaf.valueOf
    return "fibaro.getValue(" ++ device ++ ", " ++ Lua.quote name ++ ") " ++ operator ++ " " ++
      literal
  | _, _ => .error (.malformed .deviceIncomplete)

/-- A global variable against a literal.  The controller keeps variables as texts, so the literal
    decides how they are compared. -/
def Leaf.compileVariable (leaf : Leaf) (name : Slot String) : Except Error String :=
  match nonEmpty? name with
  | some name => do
    leaf.requireValue .variableWithoutValue
    let operator ← leaf.operatorText
    let name ← identifierText "variable name" name
    let getter := "fibaro.getGlobalVariable(" ++ Lua.quote name ++ ")"
    match leaf.value with
    | .given (.bool b) =>
      return "(" ++ getter ++ " " ++ operator ++ " \"" ++ Lua.boolText b ++ "\")"
    | .given (.number n) => do
      let literal ← literalText n.toValue
      return "tonumber(" ++ getter ++ ") " ++ operator ++ " " ++ literal
    | _ => do
      let literal ← literalText leaf.valueOf
      return getter ++ " " ++ operator ++ " " ++ literal
  | none => .error (.malformed .variableWithoutName)

/-- The clock against a time stamp. -/
def Leaf.compileTime (leaf : Leaf) : Except Error String := do
  leaf.requireValue .timeWithoutValue
  let operator ← leaf.operatorText
  let stamp ← numberText "time value" leaf.valueOf
  return "os.time() " ++ operator ++ " " ++ stamp

/-- The property of the controller that holds the time of a position of the sun. -/
def sunProperty? : String → Option String
  | "sunrise" => some "sunriseHour"
  | "sunset" => some "sunsetHour"
  | _ => none

/-- The offset of a leaf about the sun, none counting as zero. -/
def sunOffset (offset : Slot Number) : Except Error Number :=
  match offset.toOption with
  | none => .ok (.int 0)
  | some n =>
    match Lua.finite "timeOffset" n.toValue with
    | .ok n => .ok n
    | .error failure => .error (.ofFailure failure)

/-- The time of day, in minutes, against sunrise or sunset and an offset. -/
def Leaf.compileSun (leaf : Leaf) (position : Slot String) (offset : Slot Number) :
    Except Error String :=
  match nonEmpty? position with
  | none => .error (.malformed .sunWithoutPosition)
  | some position =>
    match sunProperty? position with
    | none => .error (.malformed .sunPositionUnknown)
    | some property => do
      let operator ← leaf.operatorText
      let offset ← sunOffset offset
      let sign := if offset.isNegative then "-" else "+"
      return "(os.date(\"*t\").hour * 60 + os.date(\"*t\").min) " ++ operator ++
        " (function() local h,m = string.match(fibaro.getValue(1, \"" ++ property ++
        "\"), \"(%d+):(%d+)\") return tonumber(h)*60 + tonumber(m) " ++ sign ++ " " ++
        offset.abs.text ++ " end)()"

/-- A fragment of scene code, embedded as it is. -/
def Leaf.compileCustom (leaf : Leaf) (code : Slot String) : Except Error String :=
  match nonEmpty? code with
  | none => .error (.malformed .customWithoutCode)
  | some code => do
    let _ ← leaf.operatorText
    return code

/-- **A leaf** as a boolean expression. -/
def Leaf.compile (leaf : Leaf) : Except Error String :=
  match leaf.subject with
  | .deviceState deviceId property => leaf.compileDevice deviceId property
  | .globalVariable name => leaf.compileVariable name
  | .time => leaf.compileTime
  | .sunPosition position offset => leaf.compileSun position offset
  | .custom code => leaf.compileCustom code
  | .unknown tag _ => .error (.malformed (.unknownKind tag))

/-- What a message calls a thing that is not a leaf. -/
def Candidate.kindValue : Candidate → Value
  | .leaf l =>
    match l.subject with
    | .unknown tag _ => tag
    | subject => .text subject.kind.tag
  | .group _ => .text "ConditionGroup"
  | .other v => .text v.kindName

/-- Whatever is offered as a leaf; only a leaf compiles. -/
def Candidate.compile : Candidate → Except Error String
  | .leaf l => l.compile
  | candidate => .error (.malformed (.unknownKind candidate.kindValue))

/-! ## Groups -/

/-- What stands between the parts of a group at some depth, once the group itself is known to be in
    order: its depth is checked first, then its operator, then that it has children. -/
def openGroup (limit : Int) (depth : Nat) (operator : Slot String) (children : List Node) :
    Except Error String :=
  if limit < depth then .error (.malformed (.tooDeep limit))
  else
    match Connective.ofSlot? operator with
    | none => .error (.malformed (.wrongConnective (operator.toValue .text)))
    | some connective =>
      if children.isEmpty then .error (.malformed .noConditions) else .ok connective.joiner

mutual

/-- **A node** as a part of a group; `depth` is the depth of a group in its place. -/
def Node.compile (limit : Int) (depth : Nat) : Node → Except Error String
  | .leaf l => l.compile
  | .group operator children => do
    let joiner ← openGroup limit depth operator children
    let parts ← compileNodes limit (depth + 1) children
    return "(" ++ joiner.intercalate parts ++ ")"

/-- The parts of a group, up to the first that does not compile. -/
def compileNodes (limit : Int) (depth : Nat) : List Node → Except Error (List String)
  | [] => .ok []
  | node :: rest => do
    let part ← node.compile limit depth
    let parts ← compileNodes limit depth rest
    return part :: parts

end

/-- **A condition tree** as a boolean expression. -/
def Group.compile (limit : Int) (g : Group) : Except Error String := do
  let joiner ← openGroup limit 1 g.operator g.children
  let parts ← compileNodes limit 2 g.children
  return joiner.intercalate parts

end HomeScenes.Condition
