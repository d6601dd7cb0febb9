import HomeScenes.Condition.Compile

/-!
# Checking condition trees

  The check walks the same tree as the compiler and collects everything that is wrong with it, so
  that the whole report can be shown at once.  Findings are in the order of the tree, a group before
  its children, and each has the place of its node: the positions that lead to it.

  A custom fragment that is in order is a finding too, as a warning: it is embedded as it is.

  Two things stop the check without a report: an integer too large to be checked, and a note that
  would show what cannot be shown.
-/

namespace HomeScenes.Condition

variable [Stack]

/-- What can be said about a node. -/
inductive Note where
  | defect (defect : Defect)
  | refusal (refusal : Lua.Refusal)
  | embeddedCode

/-- What the message of a note shows; null if it shows no value. -/
def Note.shown : Note → Value
  | .defect d => d.shown
  | .refusal r => r.shown
  | .embeddedCode => .null

/-- The wording of a note. -/
def Note.wording : Note → String
  | .defect d => d.wording
  | .refusal r => r.wording
  | .embeddedCode => "custom condition Lua is embedded verbatim without sanitization"

/-- Whether a note makes a tree invalid. -/
def Note.isProblem : Note → Bool
  | .embeddedCode => false
  | _ => true

/-- A note and the positions that lead to its node. -/
structure Finding where
  path : List Nat
  note : Note

/-- The place of a node: `conditions[2].conditions[0]`. -/
def placeText (path : List Nat) : String :=
  ".".intercalate (path.map fun i => "conditions[" ++ i.repr ++ "]")

/-- **A finding** as one line; at the root there is no place to name. -/
def Finding.line (finding : Finding) : String :=
  if finding.path.isEmpty then finding.note.wording
  else placeText finding.path ++ ": " ++ finding.note.wording

/-! ## Reports -/

/-- **A report**: the problems of a tree and what to be warned of. -/
structure Report where
  valid : Bool
  errors : List String
  warnings : List String
deriving DecidableEq

/-- The report of some lines; a tree is valid when there are no errors. -/
def Report.of (errors warnings : List String) : Report :=
  ⟨errors.isEmpty, errors, warnings⟩

/-- The report of the findings. -/
def Report.ofFindings (findings : List Finding) : Report :=
  .of ((findings.filter fun finding => finding.note.isProblem).map Finding.line)
    ((findings.filter fun finding => !finding.note.isProblem).map Finding.line)

/-! ## Leaves -/

/-- The notes of a node, or what stops the check altogether. -/
abbrev Notes := Except Stop (List Note)

/-- A note, once its message can be made.  Only a tag and a limit need this: what the other notes
    show of a document is text or null, a truth value, or a number that is not finite. -/
def noted (note : Note) : Notes :=
  match note.shown.unshown? with
  | some why => .error (.unshown why)
  | none => .ok [note]

/-- A refusal is noted. -/
def noteRefusal {α : Type} : Except Lua.Failure α → Notes
  | .ok _ => .ok []
  | .error (.refused refusal) => .ok [.refusal refusal]
  | .error (.tooLarge what) => .error (.tooLarge what)

/-- A single defect, if a test fails. -/
def noteUnless (test : Bool) (defect : Defect) : List Note :=
  if test then [] else [.defect defect]

/-- The notes on the value of a leaf that has to have one. -/
def Leaf.noteValue (leaf : Leaf) (missing : Defect) : Notes :=
  if leaf.value.isSupplied then noteRefusal (Lua.literal leaf.valueOf) else .ok [.defect missing]

/-- The notes on a name that has to be there. -/
def noteName (context : String) (name : Slot String) (missing : Defect) : Notes :=
  match nonEmpty? name with
  | none => .ok [.defect missing]
  | some name => noteRefusal (Lua.identifier context (.text name))

/-- The notes on the value of a leaf about the clock. -/
def Leaf.noteStamp (leaf : Leaf) : Notes :=
  if leaf.value.isSupplied then
    match Lua.finite "time value" leaf.valueOf with
    | .ok _ => .ok []
    | .error (.refused _) => .ok [.defect .timeNotNumber]
    | .error (.tooLarge what) => .error (.tooLarge what)
  else .ok [.defect .timeWithoutValue]

/-- The notes on the position of the sun. -/
def notePosition (position : Slot String) : List Note :=
  match nonEmpty? position with
  | none => [.defect .sunWithoutPosition]
  | some position => noteUnless (sunProperty? position).isSome .sunPositionUnknown

/-- The notes on what a leaf looks at and compares with. -/
def Leaf.noteSubject (leaf : Leaf) : Notes :=
  match leaf.subject with
  | .deviceState deviceId property => do
    let id ← match deviceId.toOption with
      | none => .ok [.defect .deviceWithoutId]
      | some id => noteRefusal (Lua.finite "deviceId" (.int id))
    let name ← noteName "device property" property .deviceWithoutProperty
    let value ← leaf.noteValue .deviceWithoutValue
    return id ++ name ++ value
  | .globalVariable name => do
    let name ← noteName "variable name" name .variableWithoutName
    let value ← leaf.noteValue .variableWithoutValue
    return name ++ value
  | .time => leaf.noteStamp
  | .sunPosition position offset => do
    let offset ← match offset.toOption with
      | none => .ok []
      | some n => noteRefusal (Lua.finite "timeOffset" n.toValue)
    return notePosition position ++ offset
  | .custom code =>
    match nonEmpty? code with
    | none => .ok [.defect .customWithoutCode]
    | some _ => .ok [.embeddedCode]
  | .unknown tag _ => noted (.defect (.unknownKind tag))

/-- The note on an operator. -/
def noteOperator (operator : Value) : List Note :=
  noteUnless (Comparison.ofValue? operator).isSome (.wrongOperator operator)

/-- **The notes of a leaf**, the operator first. -/
def Leaf.notes (leaf : Leaf) : Notes := do
  let subject ← leaf.noteSubject
  return noteOperator (leaf.operator.toValue .text) ++ subject

/-- What serves as the operator of a candidate. -/
def Candidate.operatorValue : Candidate → Value
  | .leaf l => l.operator.toValue .text
  | .group g => g.operator.toValue .text
  | .other _ => .null

/-- The notes of whatever is offered as a leaf. -/
def Candidate.notes : Candidate → Notes
  | .leaf l => l.notes
  | candidate =>
    .ok (noteOperator candidate.operatorValue ++ [.defect (.unknownKind candidate.kindValue)])

/-- **The report of a leaf** on its own. -/
def Candidate.check (candidate : Candidate) : Except Stop Report := do
  let notes ← candidate.notes
  return .ofFindings (notes.map fun note => ⟨[], note⟩)

/-! ## Trees -/

/-- The notes on a group itself: beyond the limit only that, and otherwise its operator and
    whether it has children. -/
def groupNotes (operator : Slot String) (children : List Node) : List Note :=
  noteUnless (Connective.ofSlot? operator).isSome .noConnective ++
    noteUnless (!children.isEmpty) .noConditions

mutual

/-- **The findings of a node** at some place. -/
def Node.findings (limit : Int) (depth : Nat) (path : List Nat) :
    Node → Except Stop (List Finding)
  | .leaf l => do
    let notes ← l.notes
    return notes.map fun note => ⟨path, note⟩
  | .group operator children =>
    if limit < depth then do
      let notes ← noted (.defect (.tooDeep limit))
      return notes.map fun note => ⟨path, note⟩
    else do
      let below ← findingsFrom limit (depth + 1) path 0 children
      return (groupNotes operator children).map (fun note => ⟨path, note⟩) ++ below

/-- The findings of the children from position `i` on of the node at `path`. -/
def findingsFrom (limit : Int) (depth : Nat) (path : List Nat) (i : Nat) :
    List Node → Except Stop (List Finding)
  | [] => .ok []
  | node :: rest => do
    let here ← node.findings limit depth (path ++ [i])
    let further ← findingsFrom limit depth path (i + 1) rest
    return here ++ further

end

/-- The findings of a condition tree. -/
def Group.findings (limit : Int) (g : Group) : Except Stop (List Finding) :=
  (Node.group g.operator g.children).findings limit 1 []

/-- **The report of a condition tree.** -/
def Group.check (limit : Int) (g : Group) : Except Stop Report := do
  let findings ← g.findings limit
  return .ofFindings findings

end HomeScenes.Condition
