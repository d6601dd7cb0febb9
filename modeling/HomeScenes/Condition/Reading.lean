import HomeScenes.Condition.Basic

/-!
# Reading condition trees

  An object with a field `conditions` is a group; any other is a leaf of the kind that its field
  `type` names.  The place of an issue within a list of conditions is the position followed by the
  tag of what stands there.

  A tree is read down to a fixed depth.  Whatever stands below that, be it a leaf, a group or
  neither, is an issue of its own and is not looked at.
-/

namespace HomeScenes.Condition

/-! ## Fields -/

def operatorField : Field := .named "operator"
def valueField : Field := .named "value"
def typeField : Field := .named "type"
def deviceIdField : Field := ⟨"deviceId", "device_id"⟩
def propertyField : Field := .named "property"
def variableNameField : Field := ⟨"variableName", "variable_name"⟩
def sunPositionField : Field := ⟨"sunPosition", "sun_position"⟩
def timeOffsetField : Field := ⟨"timeOffset", "time_offset"⟩
def customLuaField : Field := ⟨"customLua", "custom_lua"⟩

/-! ## Leaves -/

/-- A literal keeps the kind that it came with. -/
def Literal.read : Value → Reading Literal
  | .bool b => .good (.bool b)
  | .int n => .good (.number (.int n))
  | .float x => .good (.number (.float x))
  | .text s => .good (.text s)
  | _ => .bad [⟨[.key "bool"], .notBoolean⟩, ⟨[.key "int"], .notInteger⟩,
      ⟨[.key "float"], .notNumber⟩, ⟨[.key "str"], .notText⟩]

/-- The tag of a leaf of a known kind: it may be left out, and is right otherwise. -/
def readTag (kind : Kind) (fields : List (String × Value)) : Reading Bool :=
  match typeField.find? fields with
  | none => .good false
  | some (_, .text s) =>
    if s = kind.tag then .good true else (Reading.fault (.wrongTag kind.tag)).under (.key "type")
  | some _ => (Reading.fault (.wrongTag kind.tag)).under (.key "type")

/-- The subject of a leaf of some kind. -/
def Subject.read (fields : List (String × Value)) : Kind → Reading Subject
  | .deviceState =>
    Subject.deviceState <$> deviceIdField.slot Read.strictInt fields
      <*> propertyField.slot Read.text fields
  | .globalVariable => Subject.globalVariable <$> variableNameField.slot Read.text fields
  | .time => .good .time
  | .sunPosition =>
    Subject.sunPosition <$> sunPositionField.slot Read.text fields
      <*> timeOffsetField.slot Read.number fields
  | .custom => Subject.custom <$> customLuaField.slot Read.text fields
  | .unknown =>
    .good (.unknown ((Keyed.get? "type" fields).getD .null)
      (fields.filter fun (key, _) => ["operator", "value", "type"].all (· ≠ key)))

/-- The fields of a leaf of some kind. -/
def Leaf.readFields (kind : Kind) (fields : List (String × Value)) : Reading Leaf :=
  Leaf.mk <$> operatorField.slot Read.text fields
    <*> valueField.slot Literal.read fields
    <*> (if kind = .unknown then .good (typeField.isSupplied fields) else readTag kind fields)
    <*> Subject.read fields kind

/-- **A leaf** of some kind. -/
def Leaf.read (kind : Kind) : Value → Reading Leaf :=
  Read.record kind.title (Leaf.readFields kind)

/-- The kind of an object that is a leaf. -/
def kindOf (fields : List (String × Value)) : Kind :=
  Kind.ofTag ((Keyed.get? "type" fields).getD .null)

/-- The tag that the place of an issue shows for a node. -/
def nodeTag : Value → String
  | .object fields =>
    if (Keyed.get? "conditions" fields).isSome then "group" else (kindOf fields).tag
  | _ => Kind.unknown.tag

/-! ## Trees -/

mutual

/-- **A node**, with room for so many levels, its own included. -/
def Node.read : Nat → Value → Reading Node
  | 0, _ => .fault .tooDeep
  | room + 1, .object fields =>
    match readChildren room fields with
    | some children => Node.group <$> operatorField.slot Read.text fields <*> children
    | none => Node.leaf <$> Leaf.readFields (kindOf fields) fields
  | _ + 1, _ => .fault (.notRecord Kind.unknown.title)

/-- The children of an object, if it is a group. -/
def readChildren (room : Nat) : List (String × Value) → Option (Reading (List Node))
  | [] => none
  | (key, v) :: rest =>
    if key = "conditions" then some ((readNodes room v).under (.key "conditions"))
    else readChildren room rest

/-- A list of nodes. -/
def readNodes (room : Nat) : Value → Reading (List Node)
  | .list items => readItems room 0 items
  | _ => .fault .notList

/-- The nodes of a list from position `i` on. -/
def readItems (room i : Nat) : List Value → Reading (List Node)
  | [] => .good []
  | v :: rest =>
    List.cons <$> ((Node.read room v).under (.key (nodeTag v))).under (.index i)
      <*> readItems room (i + 1) rest

end

/-- The fields of a condition tree, with room for so many levels below its root. -/
def Group.readFields (room : Nat) (fields : List (String × Value)) : Reading Group :=
  Group.mk <$> operatorField.slot Read.text fields
    <*> (match readChildren room fields with
      | some children => some <$> children
      | none => .good none)

/-- The name of a condition tree in messages. -/
def Group.title : String := "ConditionGroup"

/-- How many levels below its root a condition tree is read. -/
def maxLevels : Nat := 254

/-- **A condition tree.** -/
def Group.read : Value → Reading Group :=
  Read.record Group.title (Group.readFields maxLevels)

/-- A condition tree that is a part of another document; there its root counts as a level too. -/
def Group.readPart : Value → Reading Group :=
  Read.record Group.title (Group.readFields (maxLevels - 1))

end HomeScenes.Condition
