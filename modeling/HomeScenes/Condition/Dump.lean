import HomeScenes.Condition.Reading

/-!
# Condition trees as documents

  A tree is written with every field of its kind, under its wire name; what was left out is null.
  In free-form parts (the tag of an unknown leaf and the fields kept with it) null stands for
  numbers that are not finite.

  Free-form parts are taken as documents already, however deep they are nested.  Writing them as
  documents is limited in practice, to about 250 lists and objects around each other, and fails
  beyond.  That failure is not modelled: every tree has a document here.
-/

namespace HomeScenes.Condition

/-- The fields of a subject, the tag first. -/
def Subject.dump : Subject → List (String × Value)
  | .deviceState deviceId property =>
    [("type", .text Kind.deviceState.tag),
      ("deviceId", deviceId.toValue .int), ("property", property.toValue .text)]
  | .globalVariable name =>
    [("type", .text Kind.globalVariable.tag), ("variableName", name.toValue .text)]
  | .time => [("type", .text Kind.time.tag)]
  | .sunPosition position offset =>
    [("type", .text Kind.sunPosition.tag),
      ("sunPosition", position.toValue .text), ("timeOffset", offset.toValue Number.toValue)]
  | .custom code => [("type", .text Kind.custom.tag), ("customLua", code.toValue .text)]
  | .unknown tag extra => ("type", tag.finitized) :: Value.finitizedFields extra

/-- **A leaf** as a document. -/
def Leaf.dump (leaf : Leaf) : Value :=
  .object (("operator", leaf.operator.toValue .text) :: ("value", leaf.valueOf) ::
    leaf.subject.dump)

mutual

/-- **A node** as a document. -/
def Node.dump : Node → Value
  | .leaf l => l.dump
  | .group operator children =>
    .object [("operator", operator.toValue .text), ("conditions", .list (dumpNodes children))]

/-- Each node as a document. -/
def dumpNodes : List Node → List Value
  | [] => []
  | node :: rest => node.dump :: dumpNodes rest

end

/-- **A condition tree** as a document, at any depth of its free-form parts. -/
def Group.dump (g : Group) : Value :=
  .object [("operator", g.operator.toValue .text), ("conditions", .list (dumpNodes g.children))]

end HomeScenes.Condition
