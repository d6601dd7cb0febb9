import HomeScenes.Lua.Embed

/-!
# Defects of condition trees

  What can be wrong with a tree apart from the values in it, and the wording of each defect.
-/

namespace HomeScenes.Condition

/-- A malformed part of a condition tree. -/
inductive Defect where
  | tooDeep (limit : Int)
  | wrongConnective (got : Value)
  | noConnective
  | noConditions
  | wrongOperator (got : Value)
  | unknownKind (got : Value)
  | deviceIncomplete
  | deviceWithoutId
  | deviceWithoutProperty
  | deviceWithoutValue
  | variableWithoutName
  | variableWithoutValue
  | timeWithoutValue
  | timeNotNumber
  | sunWithoutPosition
  | sunPositionUnknown
  | customWithoutCode

/-- What the message of a defect shows; null if it shows no value. -/
def Defect.shown : Defect → Value
  | .tooDeep limit => .int limit
  | .wrongConnective got | .wrongOperator got | .unknownKind got => got
  | _ => .null

/-- The wording of a defect. -/
def Defect.wording : Defect → String
  | .tooDeep limit => "ConditionGroup nesting exceeds maximum depth of " ++ limit.repr
  | .wrongConnective got =>
    "ConditionGroup must have operator 'AND' or 'OR', got " ++ got.quoted
  | .noConnective => "ConditionGroup must have operator 'AND' or 'OR'"
  | .noConditions => "ConditionGroup must have at least one condition"
  | .wrongOperator got => "Invalid operator: " ++ got.display
  | .unknownKind got => "Unknown condition type: " ++ got.display
  | .deviceIncomplete => "device_state condition requires deviceId and property"
  | .deviceWithoutId => "device_state condition requires deviceId"
  | .deviceWithoutProperty => "device_state condition requires property"
  | .deviceWithoutValue => "device_state condition requires value"
  | .variableWithoutName => "variable condition requires variableName"
  | .variableWithoutValue => "variable condition requires value"
  | .timeWithoutValue => "time condition requires value (timestamp)"
  | .timeNotNumber => "time condition value must be a number (Unix timestamp)"
  | .sunWithoutPosition => "sun_position condition requires sunPosition field"
  | .sunPositionUnknown => "sunPosition must be \"sunrise\" or \"sunset\""
  | .customWithoutCode => "custom condition requires customLua field"

/-- **The message** of a defect, unless it cannot be made. -/
def Defect.message [Stack] (defect : Defect) : Except Value.Unshown String :=
  match defect.shown.unshown? with
  | some why => .error why
  | none => .ok defect.wording

/-- What stops the work on a tree: an integer too large to be checked, or a message that would show
    what cannot be shown. -/
inductive Stop where
  | tooLarge (what : Lua.TooLarge)
  | unshown (why : Value.Unshown)
deriving DecidableEq

/-- The message of a stop. -/
def Stop.message : Stop → String
  | .tooLarge what => what.message
  | .unshown why => why.message

/-- Why a tree does not compile: a defect of the tree, a value that is refused, or a stop. -/
inductive Error where
  | malformed (defect : Defect)
  | refused (refusal : Lua.Refusal)
  | stopped (why : Stop)

/-- **The message** of an error; an error whose message cannot be made turns into a stop. -/
def Error.message [Stack] : Error → Except Stop String
  | .malformed defect => defect.message.mapError .unshown
  | .refused refusal => refusal.message.mapError .unshown
  | .stopped why => .error why

/-- A failed embedding as an error of the tree. -/
def Error.ofFailure : Lua.Failure → Error
  | .refused refusal => .refused refusal
  | .tooLarge what => .stopped (.tooLarge what)

end HomeScenes.Condition
