import HomeScenes.Number.Shortest
import HomeScenes.Value

/-!
# Numbers

  A number of a document is an integer of any size or a double-precision number.
-/

namespace HomeScenes

/-- An integer or a double-precision number. -/
inductive Number where
  | int (n : Int)
  | float (x : Binary64)
deriving DecidableEq, Inhabited

namespace Number

/-- **The text** of a number, which is also a numeric literal of the scene language. -/
def text : Number → String
  | .int n => n.repr
  | .float x => x.text

/-- The number as a value of a document. -/
def toValue : Number → Value
  | .int n => .int n
  | .float x => .float x

/-- Strictly below zero. -/
def isNegative : Number → Bool
  | .int n => n < 0
  | .float x => x.isNegative

/-- The number without its sign. -/
def abs : Number → Number
  | .int n => .int n.natAbs
  | .float x => .float x.abs

end Number

/-- The least magnitude of an integer whose nearest double-precision number would be infinite. -/
def oversize : Nat := Nat.pow 2 1024 - Nat.pow 2 970

end HomeScenes
