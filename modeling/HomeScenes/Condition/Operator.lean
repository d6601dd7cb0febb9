import HomeScenes.Condition.Defect
import HomeScenes.Document.Reading

/-!
# Operators

  A leaf compares with one of six operators, a group connects its children with one of two.
-/

namespace HomeScenes.Condition

/-- The comparisons. -/
inductive Comparison where
  | equal
  | unequal
  | greater
  | less
  | atLeast
  | atMost
deriving DecidableEq

namespace Comparison

/-- The comparison that an operator of a document stands for. -/
def ofText? : String → Option Comparison
  | "==" => some .equal
  | "!=" => some .unequal
  | ">" => some .greater
  | "<" => some .less
  | ">=" => some .atLeast
  | "<=" => some .atMost
  | _ => none

/-- **The token** of the scene language. -/
def lua : Comparison → String
  | .equal => "=="
  | .unequal => "~="
  | .greater => ">"
  | .less => "<"
  | .atLeast => ">="
  | .atMost => "<="

/-- The comparison that a value stands for. -/
def ofValue? : Value → Option Comparison
  | .text s => ofText? s
  | _ => none

/-- **The operator of a value**, or the defect that it is none. -/
def read (v : Value) : Except Error Comparison :=
  match ofValue? v with
  | some comparison => .ok comparison
  | none => .error (.malformed (.wrongOperator v))

end Comparison

/-- The connectives of groups. -/
inductive Connective where
  | and
  | or
deriving DecidableEq

namespace Connective

/-- The connective that the operator of a group stands for. -/
def ofSlot? : Slot String → Option Connective
  | .given "AND" => some .and
  | .given "OR" => some .or
  | _ => none

/-- What stands between the parts of a group. -/
def joiner : Connective → String
  | .and => " and "
  | .or => " or "

end Connective
end HomeScenes.Condition
