import HomeScenes.Document.Reading

/-!
# Conditions

  The condition of an automation is a tree.  A group combines its children with AND or OR; a leaf
  compares something (the property of a device, a global variable, the clock, the sun) with a
  literal, or holds a fragment of scene code.

  A tree may be incomplete: what a document leaves out is `Slot.absent`, so that an incomplete
  tree can be held and everything wrong with it reported.
-/

namespace HomeScenes.Condition

/-- The kinds of leaves.  An *unknown* leaf has a tag that is none of the others. -/
inductive Kind where
  | deviceState
  | globalVariable
  | time
  | sunPosition
  | custom
  | unknown
deriving DecidableEq

/-- The tag of a kind. -/
def Kind.tag : Kind → String
  | .deviceState => "device_state"
  | .globalVariable => "variable"
  | .time => "time"
  | .sunPosition => "sun_position"
  | .custom => "custom"
  | .unknown => "unknown"

/-- The name of a kind's record in messages. -/
def Kind.title : Kind → String
  | .deviceState => "DeviceStateCondition"
  | .globalVariable => "VariableCondition"
  | .time => "TimeCondition"
  | .sunPosition => "SunPositionCondition"
  | .custom => "CustomCondition"
  | .unknown => "UnknownCondition"

/-- The kind that a tag names. -/
def Kind.ofTag : Value → Kind
  | .text "device_state" => .deviceState
  | .text "variable" => .globalVariable
  | .text "time" => .time
  | .text "sun_position" => .sunPosition
  | .text "custom" => .custom
  | _ => .unknown

/-- What a leaf compares with, other than null. -/
inductive Literal where
  | bool (b : Bool)
  | number (n : Number)
  | text (s : String)
deriving DecidableEq

/-- The literal as a value. -/
def Literal.toValue : Literal → Value
  | .bool b => .bool b
  | .number n => n.toValue
  | .text s => .text s

/-- **What a leaf looks at**, with the fields of its kind. -/
inductive Subject where
  | deviceState (deviceId : Slot Int) (property : Slot String)
  | globalVariable (name : Slot String)
  | time
  | sunPosition (position : Slot String) (offset : Slot Number)
  | custom (code : Slot String)
  | unknown (tag : Value) (extra : List (String × Value))

/-- The kind of a subject. -/
def Subject.kind : Subject → Kind
  | .deviceState .. => .deviceState
  | .globalVariable _ => .globalVariable
  | .time => .time
  | .sunPosition .. => .sunPosition
  | .custom _ => .custom
  | .unknown .. => .unknown

/-- **A leaf**: a comparison.  `tagged` says whether the document names the kind. -/
structure Leaf where
  operator : Slot String
  value : Slot Literal
  tagged : Bool
  subject : Subject

/-- The value of a leaf as a value of a document. -/
def Leaf.valueOf (leaf : Leaf) : Value :=
  leaf.value.toValue Literal.toValue

/-- The names of the fields of a subject that the document has. -/
def Subject.supplied : Subject → List String
  | .deviceState deviceId property =>
    (if deviceId.isSupplied then ["device_id"] else []) ++
      (if property.isSupplied then ["property"] else [])
  | .globalVariable name => if name.isSupplied then ["variable_name"] else []
  | .time => []
  | .sunPosition position offset =>
    (if position.isSupplied then ["sun_position"] else []) ++
      (if offset.isSupplied then ["time_offset"] else [])
  | .custom code => if code.isSupplied then ["custom_lua"] else []
  | .unknown _ extra => extra.map Prod.fst

/-- **The names of the fields** of a leaf that the document has. -/
def Leaf.supplied (leaf : Leaf) : List String :=
  (if leaf.operator.isSupplied then ["operator"] else []) ++
    (if leaf.value.isSupplied then ["value"] else []) ++
    (if leaf.tagged then ["type"] else []) ++ leaf.subject.supplied

/-- **A node** of a condition tree. -/
inductive Node where
  | leaf (leaf : Leaf)
  | group (operator : Slot String) (children : List Node)

/-- **A condition tree**: the group at its root, whose list of conditions may be left out. -/
structure Group where
  operator : Slot String
  conditions : Option (List Node)

/-- The children of the root; a list left out is empty. -/
def Group.children (g : Group) : List Node :=
  g.conditions.getD []

/-- The names of the fields of the root that the document has. -/
def Group.supplied (g : Group) : List String :=
  (if g.operator.isSupplied then ["operator"] else []) ++
    (if g.conditions.isSome then ["conditions"] else [])

/-- Anything that may be offered where a leaf is expected. -/
inductive Candidate where
  | leaf (leaf : Leaf)
  | group (group : Group)
  | other (value : Value)

end HomeScenes.Condition
