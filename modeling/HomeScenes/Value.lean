import HomeScenes.Keyed
import HomeScenes.Number.Binary64

/-!
# Values of a document

  A document is a tree of values.  Integers and double-precision numbers are different kinds, and
  so are truth values and numbers; an object keeps the order of its keys.
-/

namespace HomeScenes

/-- A value of a document.  The keys of an object are distinct; `Keyed.ofList` makes them so. -/
inductive Value where
  | null
  | bool (b : Bool)
  | int (n : Int)
  | float (x : Binary64)
  | text (s : String)
  | list (items : List Value)
  | object (fields : List (String × Value))
deriving Inhabited

namespace Value

/-- The word for the kind of a value in messages. -/
def kindName : Value → String
  | .null => "NoneType"
  | .bool _ => "bool"
  | .int _ => "int"
  | .float _ => "float"
  | .text _ => "str"
  | .list _ => "list"
  | .object _ => "dict"

/-- The text of an optional string: absent texts are null. -/
def ofText? : Option String → Value
  | none => .null
  | some s => .text s

/-- An optional integer. -/
def ofInt? : Option Int → Value
  | none => .null
  | some n => .int n

/-- A list of texts. -/
def ofTexts (texts : List String) : Value :=
  .list (texts.map .text)

/-! ## Numbers that no document can hold

  Free-form parts of a document are passed on with null in place of a NaN or an infinity. -/

mutual

/-- The value with null for every number that is not finite. -/
def finitized : Value → Value
  | .float x => if x.isFinite then .float x else .null
  | .list items => .list (finitizedItems items)
  | .object fields => .object (finitizedFields fields)
  | v => v

/-- The items, each finitized. -/
def finitizedItems : List Value → List Value
  | [] => []
  | v :: rest => v.finitized :: finitizedItems rest

/-- The fields, each finitized. -/
def finitizedFields : List (String × Value) → List (String × Value)
  | [] => []
  | (key, v) :: rest => (key, v.finitized) :: finitizedFields rest

end

end Value

/-- **The room on the stack**: `reading` says how many lists and objects may be open at once in a
    text that is read, and `showing` how many levels below a value a message can show.  The program
    fixes neither; both depend on what else is on the stack at the time. -/
class Stack where
  reading : Nat
  showing : Nat

namespace Stack

/-- Room for a thousand levels. -/
scoped instance thousand : Stack := ⟨1000, 1000⟩

end Stack

end HomeScenes
