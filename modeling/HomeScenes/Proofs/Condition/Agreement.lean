import HomeScenes.Condition.Source
import HomeScenes.Proofs.Condition.Leaf

/-!
# Checking agrees with compiling

  The compiler stops at the first thing that is wrong, the check collects everything that is wrong,
  and the two look at the parts of a tree in different orders.  They agree all the same: a source
  compiles exactly when its report is valid (`check_agrees_with_compile`), and so does whatever is
  offered as a leaf.

  The check is followed through the predicate `Clear`: it came to its end and none of what it
  found is a problem.  A step of the check is clear exactly when the matching check of the
  compiler passes, and two steps are clear together exactly when each is, so the order of the
  steps does not matter.

  A document that cannot be read at all never compiles; that its report is invalid needs
  `Explained`: no reading fails without naming an issue.
-/

namespace HomeScenes

/-! ## No reading fails without an issue -/

namespace Reading

variable {α β : Type}

/-- **A failure is explained**: it names at least one issue. -/
def Explained : Reading α → Prop
  | .good _ => True
  | .bad issues => issues ≠ []

/-- A fault is an issue. -/
theorem explained_fault (f : Fault) : (fault f : Reading α).Explained := by
  rw [fault]; exact List.cons_ne_nil _ _

/-- Changing the result explains nothing away. -/
theorem Explained.map {r : Reading α} (h : r.Explained) (f : α → β) : (f <$> r).Explained := by
  cases r with
  | good a => exact trivial
  | bad issues => exact h

/-- Of two readings, the one that failed explains the failure of both. -/
theorem Explained.seq {first : Reading (α → β)} {second : Reading α} (h1 : first.Explained)
    (h2 : second.Explained) : (first <*> second).Explained := by
  cases first with
  | good f =>
    cases second with
    | good a => exact trivial
    | bad issues => exact h2
  | bad issues =>
    cases second with
    | good a => exact h1
    | bad more =>
      show issues ++ more ≠ []
      exact List.append_ne_nil_of_left_ne_nil h1 more

/-- Placing issues elsewhere loses none. -/
theorem Explained.under {r : Reading α} (h : r.Explained) (step : Step) :
    (r.under step).Explained := by
  cases r with
  | good a => exact trivial
  | bad issues =>
    show issues.map _ ≠ []
    exact fun he => h (List.map_eq_nil_iff.mp he)

end Reading

open Reading (Explained explained_fault)

theorem Read.explained_text : ∀ v : Value, (Read.text v).Explained
  | .text _ => trivial
  | .null | .bool _ | .int _ | .float _ | .list _ | .object _ => explained_fault _

theorem Read.explained_strictInt : ∀ v : Value, (Read.strictInt v).Explained
  | .int _ => trivial
  | .null | .bool _ | .float _ | .text _ | .list _ | .object _ => explained_fault _

theorem Read.explained_number : ∀ v : Value, (Read.number v).Explained
  | .int _ | .float _ => trivial
  | .null | .bool _ | .text _ | .list _ | .object _ => List.cons_ne_nil _ _

/-- A field is explained if its reader is, and one left out or null has nothing to explain. -/
theorem Field.explained_slot {α : Type} (field : Field) {reader : Value → Reading α}
    (h : ∀ v, (reader v).Explained) (fields : List (String × Value)) :
    (field.slot reader fields).Explained := by
  rw [Field.slot]
  split
  · exact trivial
  · exact trivial
  · exact ((h _).map _).under _

namespace Condition

theorem Literal.explained_read : ∀ v : Value, (Literal.read v).Explained
  | .bool _ | .int _ | .float _ | .text _ => trivial
  | .null | .list _ | .object _ => List.cons_ne_nil _ _

/-- The tag of a leaf, for every kind. -/
theorem explained_readTag (kind : Kind) (fields : List (String × Value)) :
    (readTag kind fields).Explained := by
  rw [readTag]
  split
  · exact trivial
  · split
    · exact trivial
    · exact (explained_fault _).under _
  · exact (explained_fault _).under _

/-- The fields that belong to a kind. -/
theorem Subject.explained_read (fields : List (String × Value)) (kind : Kind) :
    (Subject.read fields kind).Explained := by
  cases kind with
  | deviceState =>
    exact ((deviceIdField.explained_slot Read.explained_strictInt fields).map _).seq
      (propertyField.explained_slot Read.explained_text fields)
  | globalVariable => exact (variableNameField.explained_slot Read.explained_text fields).map _
  | time => exact trivial
  | sunPosition =>
    exact ((sunPositionField.explained_slot Read.explained_text fields).map _).seq
      (timeOffsetField.explained_slot Read.explained_number fields)
  | custom => exact (customLuaField.explained_slot Read.explained_text fields).map _
  | unknown => exact trivial

/-- A whole leaf, field after field. -/
theorem Leaf.explained_readFields (kind : Kind) (fields : List (String × Value)) :
    (Leaf.readFields kind fields).Explained := by
  have htag : (if kind = .unknown then Reading.good (typeField.isSupplied fields)
      else readTag kind fields).Explained := by
    split
    · exact trivial
    · exact explained_readTag kind fields
  exact ((((operatorField.explained_slot Read.explained_text fields).map _).seq
    (valueField.explained_slot Literal.explained_read fields)).seq htag).seq
    (Subject.explained_read fields kind)

mutual

/-- **A node that is not read** is explained.  By induction on the document, along the functions
    that read it. -/
theorem Node.explained_read : ∀ (room : Nat) (v : Value), (Node.read room v).Explained
  | 0, v => by rw [Node.read]; exact explained_fault _
  | room + 1, .object fields => by
    rw [Node.read]
    cases h : readChildren room fields with
    | none => exact (Leaf.explained_readFields _ fields).map _
    | some children =>
      exact ((operatorField.explained_slot Read.explained_text fields).map _).seq
        (explained_readChildren room fields children h)
  | _ + 1, .null | _ + 1, .bool _ | _ + 1, .int _ | _ + 1, .float _ | _ + 1, .text _
  | _ + 1, .list _ => explained_fault _

/-- The children of a group. -/
theorem explained_readChildren : ∀ (room : Nat) (fields : List (String × Value))
    (children : Reading (List Node)), readChildren room fields = some children → children.Explained
  | _, [], _, h => by rw [readChildren] at h; exact nomatch h
  | room, (key, v) :: rest, children, h => by
    rw [readChildren] at h
    split at h
    · injection h with h
      rw [← h]
      exact (explained_readNodes room v).under _
    · exact explained_readChildren room rest children h

theorem explained_readNodes : ∀ (room : Nat) (v : Value), (readNodes room v).Explained
  | room, .list items => by rw [readNodes]; exact explained_readItems room 0 items
  | _, .null | _, .bool _ | _, .int _ | _, .float _ | _, .text _ | _, .object _ => explained_fault _

theorem explained_readItems :
    ∀ (room i : Nat) (items : List Value), (readItems room i items).Explained
  | _, _, [] => trivial
  | room, i, v :: rest => by
    rw [readItems]
    exact ((((Node.explained_read room v).under _).under _).map _).seq
      (explained_readItems room (i + 1) rest)

end

/-- **No document is turned away without an issue.** -/
theorem Group.explained_read (fields : List (String × Value)) :
    (Group.read (.object fields)).Explained := by
  show (Group.readFields maxLevels fields).Explained
  rw [Group.readFields]
  refine ((operatorField.explained_slot Read.explained_text fields).map _).seq ?_
  cases h : readChildren maxLevels fields with
  | none => exact trivial
  | some children => exact (explained_readChildren maxLevels fields children h).map _

/-! ## A check that finds no problem -/

/-- **Clear**: the check came to its end and nothing that it found is a problem. -/
def Clear {α : Type} (isProblem : α → Bool) (found : Except Stop (List α)) : Prop :=
  ∃ all, found = .ok all ∧ ∀ a ∈ all, isProblem a = false

section Clear

variable {α β : Type} {isProblem : α → Bool} {x y : Except Stop (List α)}

/-- A check that gave its notes is clear if none of them is a problem. -/
theorem clear_ok_iff {all : List α} :
    Clear isProblem (.ok all) ↔ ∀ a ∈ all, isProblem a = false := by
  constructor
  · rintro ⟨all', h, hall⟩
    injection h with h
    rw [h]
    exact hall
  · intro hall; exact ⟨all, rfl, hall⟩

/-- A check that was stopped is never clear. -/
theorem not_clear_error {why : Stop} : ¬ Clear isProblem (.error why) := by
  rintro ⟨all, h, _⟩; exact nomatch h

/-- **Two steps** are clear together exactly when each is. -/
theorem clear_append_iff :
    Clear isProblem (do let a ← x; let b ← y; return a ++ b) ↔
      Clear isProblem x ∧ Clear isProblem y := by
  cases x with
  | error what => exact ⟨fun h => absurd h not_clear_error, fun h => absurd h.1 not_clear_error⟩
  | ok a =>
    cases y with
    | error what => exact ⟨fun h => absurd h not_clear_error, fun h => absurd h.2 not_clear_error⟩
    | ok b =>
      show Clear isProblem (.ok (a ++ b)) ↔ _
      rw [clear_ok_iff, clear_ok_iff, clear_ok_iff]
      exact List.forall_mem_append

/-- What is found already and a step are clear together exactly when each is. -/
theorem clear_prepend_iff {all : List α} :
    Clear isProblem (do let b ← y; return all ++ b) ↔
      (∀ a ∈ all, isProblem a = false) ∧ Clear isProblem y := by
  rw [← clear_ok_iff]
  exact clear_append_iff (x := .ok all)

/-- Three checks in a row. -/
theorem clear_append_three_iff {z : Except Stop (List α)} :
    Clear isProblem (do let a ← x; let b ← y; let c ← z; return a ++ b ++ c) ↔
      Clear isProblem x ∧ Clear isProblem y ∧ Clear isProblem z := by
  rw [← and_assoc, ← clear_append_iff, ← clear_append_iff]
  cases x <;> cases y <;> exact Iff.rfl

/-- Notes that are placed somewhere else. -/
theorem clear_map_iff {f : β → α} {z : Except Stop (List β)} :
    Clear isProblem (do let found ← z; return found.map f) ↔
      Clear (fun b => isProblem (f b)) z := by
  cases z with
  | error what => exact ⟨fun h => absurd h not_clear_error, fun h => absurd h not_clear_error⟩
  | ok found =>
    show Clear isProblem (.ok (found.map f)) ↔ _
    rw [clear_ok_iff, clear_ok_iff]
    exact List.forall_mem_map

end Clear

/-! ## Leaves -/

/-- A note that is there unless a test passes. -/
theorem noteUnless_clear_iff {test : Bool} {defect : Defect} :
    (∀ note ∈ noteUnless test defect, note.isProblem = false) ↔ test = true := by
  cases test <;> simp [noteUnless, Note.isProblem]

/-- A defect is always a problem. -/
theorem not_clear_defect {defect : Defect} : ¬ Clear Note.isProblem (.ok [.defect defect]) := by
  rw [clear_ok_iff]; simp [Note.isProblem]

/-- A defect is a problem, whether its message can be made or not. -/
theorem not_clear_noted [Stack] {defect : Defect} :
    ¬ Clear Note.isProblem (noted (.defect defect)) := by
  rw [noted]
  split
  · exact not_clear_error
  · exact not_clear_defect

/-- An embedding leaves no note exactly when it succeeds. -/
theorem clear_noteRefusal_iff {α : Type} {r : Except Lua.Failure α} :
    Clear Note.isProblem (noteRefusal r) ↔ ∃ a, r = .ok a := by
  rcases r with (refusal | what) | a
  · rw [noteRefusal, clear_ok_iff]; simp [Note.isProblem]
  · simp [noteRefusal, not_clear_error]
  · rw [noteRefusal, clear_ok_iff]; simp

/-- A name passes if it is there and is an identifier. -/
theorem clear_noteName_iff {context : String} {slot : Slot String} {missing : Defect} :
    Clear Note.isProblem (noteName context slot missing) ↔
      ∃ name, nonEmpty? slot = some name ∧ Lua.isIdentifier name.toList = true := by
  rw [noteName]
  cases h : nonEmpty? slot with
  | none => simp [not_clear_defect]
  | some name =>
    simp only [clear_noteRefusal_iff, Lua.identifier]
    by_cases hident : Lua.isIdentifier name.toList = true
    · rw [if_pos hident]; simp [hident]
    · rw [if_neg hident]; simp [hident]

namespace Leaf

variable {leaf : Leaf}

/-- A value passes if it is supplied and has a literal. -/
theorem clear_noteValue_iff {missing : Defect} :
    Clear Note.isProblem (leaf.noteValue missing) ↔
      leaf.value.isSupplied = true ∧ ∃ literal, Lua.literal leaf.valueOf = .ok literal := by
  rw [noteValue]
  by_cases h : leaf.value.isSupplied = true
  · rw [if_pos h, clear_noteRefusal_iff]; simp [h]
  · rw [if_neg h]; simp [h, not_clear_defect]

/-- A time stamp passes if it is supplied and is a finite number. -/
theorem clear_noteStamp_iff :
    Clear Note.isProblem leaf.noteStamp ↔
      leaf.value.isSupplied = true ∧ ∃ n, Lua.finite "time value" leaf.valueOf = .ok n := by
  rw [noteStamp]
  by_cases h : leaf.value.isSupplied = true
  · rw [if_pos h]
    rcases Lua.finite "time value" leaf.valueOf with (refusal | what) | n
    · simp [not_clear_defect]
    · simp [not_clear_error]
    · simp only [clear_ok_iff]; simp [h]
  · rw [if_neg h]; simp [h, not_clear_defect]

/-- A position passes if it is one of the two that the sun has. -/
theorem notePosition_clear_iff {slot : Slot String} :
    (∀ note ∈ notePosition slot, note.isProblem = false) ↔
      ∃ position property, nonEmpty? slot = some position ∧
        sunProperty? position = some property := by
  rw [notePosition]
  cases h : nonEmpty? slot with
  | none => simp [Note.isProblem]
  | some position => simp only [noteUnless_clear_iff]; simp [Option.isSome_iff_exists]

/-- The notes on the id of a device. -/
def noteId (deviceId : Slot Int) : Notes :=
  match deviceId.toOption with
  | none => .ok [.defect .deviceWithoutId]
  | some id => noteRefusal (Lua.finite "deviceId" (.int id))

/-- A device passes if its number is given and finite. -/
theorem clear_noteId_iff {deviceId : Slot Int} :
    Clear Note.isProblem (noteId deviceId) ↔
      ∃ id n, deviceId = .given id ∧ Lua.finite "deviceId" (.int id) = .ok n := by
  rcases deviceId with _ | _ | id
  · simp [noteId, Slot.toOption, not_clear_defect]
  · simp [noteId, Slot.toOption, not_clear_defect]
  · simp [noteId, Slot.toOption, clear_noteRefusal_iff]

/-- The notes on the offset of the sun. -/
def noteOffset (offset : Slot Number) : Notes :=
  match offset.toOption with
  | none => .ok []
  | some n => noteRefusal (Lua.finite "timeOffset" n.toValue)

/-- An offset passes exactly if it compiles. -/
theorem clear_noteOffset_iff {offset : Slot Number} :
    Clear Note.isProblem (noteOffset offset) ↔ ∃ n, sunOffset offset = .ok n := by
  rcases offset with _ | _ | given
  · simp [noteOffset, Slot.toOption, clear_ok_iff, sunOffset]
  · simp [noteOffset, Slot.toOption, clear_ok_iff, sunOffset]
  · simp only [noteOffset, Slot.toOption, clear_noteRefusal_iff, sunOffset]
    cases Lua.finite "timeOffset" given.toValue <;> simp

/-- An operator passes if it stands for a comparison. -/
theorem noteOperator_clear_iff :
    (∀ note ∈ noteOperator (leaf.operator.toValue .text), note.isProblem = false) ↔
      ∃ c, leaf.comparison? = some c := by
  rw [noteOperator, noteUnless_clear_iff, comparison?, Option.isSome_iff_exists]

/-- A device leaves three lots of notes: on its id, on its property and on its value. -/
theorem clear_noteDevice_iff [Stack] {deviceId : Slot Int} {property : Slot String}
    (hs : leaf.subject = .deviceState deviceId property) :
    Clear Note.isProblem leaf.noteSubject ↔
      Clear Note.isProblem (noteId deviceId) ∧
        Clear Note.isProblem (noteName "device property" property .deviceWithoutProperty) ∧
        Clear Note.isProblem (leaf.noteValue .deviceWithoutValue) := by
  rw [noteSubject, hs, ← clear_append_three_iff]
  cases deviceId <;> exact Iff.rfl

/-- The sun leaves notes on its position and on its offset. -/
theorem clear_noteSun_iff [Stack] {position : Slot String} {offset : Slot Number}
    (hs : leaf.subject = .sunPosition position offset) :
    Clear Note.isProblem leaf.noteSubject ↔
      (∀ note ∈ notePosition position, note.isProblem = false) ∧
        Clear Note.isProblem (noteOffset offset) := by
  rw [noteSubject, hs, ← clear_prepend_iff]
  cases offset <;> exact Iff.rfl

/-- **A leaf** leaves no problem exactly when it compiles.  The steps of the check are conjuncts
    here, and so are those of the compiler: only their order differs. -/
theorem clear_notes_iff [Stack] (leaf : Leaf) :
    Clear Note.isProblem leaf.notes ↔ ∃ text, leaf.compile = .ok text := by
  rw [notes, clear_prepend_iff, noteOperator_clear_iff, compile]
  cases hs : leaf.subject with
  | deviceState deviceId property =>
    rw [clear_noteDevice_iff hs, clear_noteId_iff, clear_noteName_iff, clear_noteValue_iff]
    simp only [compileDevice_eq_ok_iff]
    constructor
    · rintro ⟨⟨c, hc⟩, ⟨id, n, hid, hn⟩, ⟨name, hname, hident⟩, hvalue, literal, hliteral⟩
      exact ⟨_, id, name, c, n, literal, hid, hname, hvalue, hc, hn, hident, hliteral, rfl⟩
    · rintro ⟨_, id, name, c, n, literal, hid, hname, hvalue, hc, hn, hident, hliteral, _⟩
      exact ⟨⟨c, hc⟩, ⟨id, n, hid, hn⟩, ⟨name, hname, hident⟩, hvalue, literal, hliteral⟩
  | globalVariable slot =>
    simp only [noteSubject, hs, clear_append_iff, clear_noteName_iff, clear_noteValue_iff,
      compileVariable_eq_ok_iff]
    constructor
    · rintro ⟨⟨c, hc⟩, ⟨name, hname, hident⟩, hvalue, literal, hliteral⟩
      exact ⟨_, name, c, literal, hname, hvalue, hc, hident, hliteral, rfl⟩
    · rintro ⟨_, name, c, literal, hname, hvalue, hc, hident, hliteral, _⟩
      exact ⟨⟨c, hc⟩, ⟨name, hname, hident⟩, hvalue, literal, hliteral⟩
  | time =>
    simp only [noteSubject, hs, clear_noteStamp_iff, compileTime_eq_ok_iff]
    constructor
    · rintro ⟨⟨c, hc⟩, hvalue, n, hn⟩; exact ⟨_, c, n, hvalue, hc, hn, rfl⟩
    · rintro ⟨_, c, n, hvalue, hc, hn, _⟩; exact ⟨⟨c, hc⟩, hvalue, n, hn⟩
  | sunPosition slot offset =>
    rw [clear_noteSun_iff hs, notePosition_clear_iff, clear_noteOffset_iff]
    simp only [compileSun_eq_ok_iff]
    constructor
    · rintro ⟨⟨c, hc⟩, ⟨position, property, hposition, hproperty⟩, n, hn⟩
      exact ⟨_, position, property, c, n, hposition, hproperty, hc, hn, rfl⟩
    · rintro ⟨_, position, property, c, n, hposition, hproperty, hc, hn, _⟩
      exact ⟨⟨c, hc⟩, ⟨position, property, hposition, hproperty⟩, n, hn⟩
  | custom slot =>
    simp only [noteSubject, hs, compileCustom_eq_ok_iff]
    cases nonEmpty? slot with
    | none => simp [not_clear_defect]
    | some code => simp [clear_ok_iff, Note.isProblem]
  | unknown tag extra => simp [noteSubject, hs, not_clear_noted]

end Leaf

/-! ## Trees -/

/-- A group is in order, apart from its children, exactly when the check has nothing to note. -/
theorem openGroup_eq_ok_iff {limit : Int} {depth : Nat} {operator : Slot String}
    {children : List Node} {joiner : String} :
    openGroup limit depth operator children = .ok joiner ↔
      ¬ limit < depth ∧ children ≠ [] ∧
        ∃ connective, Connective.ofSlot? operator = some connective ∧
          joiner = connective.joiner := by
  rw [openGroup]
  by_cases hdepth : limit < depth
  · rw [if_pos hdepth]; simp [hdepth]
  · rw [if_neg hdepth]
    cases Connective.ofSlot? operator with
    | none => simp
    | some connective =>
      cases children with
      | nil => simp
      | cons node rest => simp [hdepth, eq_comm]

/-- **A group** compiles exactly when it is in order and all of its children compile. -/
theorem Node.compile_group_eq_ok_iff {limit : Int} {depth : Nat} {operator : Slot String}
    {children : List Node} {text : String} :
    (Node.group operator children).compile limit depth = .ok text ↔
      ∃ connective parts, ¬ limit < depth ∧ children ≠ [] ∧
        Connective.ofSlot? operator = some connective ∧
        compileNodes limit (depth + 1) children = .ok parts ∧
        text = "(" ++ connective.joiner.intercalate parts ++ ")" := by
  rw [Node.compile]
  simp only [bind_eq_ok_iff, openGroup_eq_ok_iff, pure_eq_ok_iff]
  constructor
  · rintro ⟨_, ⟨hdepth, hne, connective, hconnective, rfl⟩, parts, hparts, htext⟩
    exact ⟨connective, parts, hdepth, hne, hconnective, hparts, htext⟩
  · rintro ⟨connective, parts, hdepth, hne, hconnective, hparts, htext⟩
    exact ⟨_, ⟨hdepth, hne, connective, hconnective, rfl⟩, parts, hparts, htext⟩

/-- **A condition tree** compiles like the group at its root, with no parentheses around the
    whole. -/
theorem Group.compile_eq_ok_iff {limit : Int} {g : Group} {text : String} :
    g.compile limit = .ok text ↔
      ∃ connective parts, ¬ limit < (1 : Nat) ∧ g.children ≠ [] ∧
        Connective.ofSlot? g.operator = some connective ∧
        compileNodes limit 2 g.children = .ok parts ∧
        text = connective.joiner.intercalate parts := by
  rw [Group.compile]
  simp only [bind_eq_ok_iff, openGroup_eq_ok_iff, pure_eq_ok_iff]
  constructor
  · rintro ⟨_, ⟨hdepth, hne, connective, hconnective, rfl⟩, parts, hparts, htext⟩
    exact ⟨connective, parts, hdepth, hne, hconnective, hparts, htext⟩
  · rintro ⟨connective, parts, hdepth, hne, hconnective, hparts, htext⟩
    exact ⟨_, ⟨hdepth, hne, connective, hconnective, rfl⟩, parts, hparts, htext⟩

/-- The parts of a group are compiled in order, and one that fails fails them all. -/
theorem compileNodes_cons_eq_ok_iff {limit : Int} {depth : Nat} {node : Node} {rest : List Node}
    {parts : List String} :
    compileNodes limit depth (node :: rest) = .ok parts ↔
      ∃ part more, node.compile limit depth = .ok part ∧ compileNodes limit depth rest = .ok more ∧
        parts = part :: more := by
  rw [compileNodes]
  simp only [bind_eq_ok_iff, pure_eq_ok_iff]
  constructor
  · rintro ⟨part, hpart, more, hmore, h⟩; exact ⟨part, more, hpart, hmore, h⟩
  · rintro ⟨part, more, hpart, hmore, h⟩; exact ⟨part, hpart, more, hmore, h⟩

/-- A group passes on its own account if it has children and a connective. -/
theorem groupNotes_clear_iff {operator : Slot String} {children : List Node} :
    (∀ note ∈ groupNotes operator children, note.isProblem = false) ↔
      children ≠ [] ∧ ∃ connective, Connective.ofSlot? operator = some connective := by
  rw [groupNotes, List.forall_mem_append, noteUnless_clear_iff, noteUnless_clear_iff, and_comm,
    Option.isSome_iff_exists]
  cases children <;> simp

mutual

/-- **A node** leaves no problem exactly when it compiles, wherever it stands.  By induction on
    the tree: a group within the limit is clear when it is in order and all its children are
    clear, and a group beyond the limit is neither clear nor compiles, whatever is below it. -/
theorem Node.clear_findings_iff [Stack] (limit : Int) :
    ∀ (node : Node) (depth : Nat) (path : List Nat),
      Clear (fun finding => finding.note.isProblem) (node.findings limit depth path) ↔
      ∃ text, node.compile limit depth = .ok text
  | .leaf leaf, depth, path => by
    rw [Node.findings, clear_map_iff, Node.compile]
    exact leaf.clear_notes_iff
  | .group operator children, depth, path => by
    rw [Node.findings]
    simp only [Node.compile_group_eq_ok_iff]
    by_cases hdepth : limit < depth
    · rw [if_pos hdepth, clear_map_iff]
      simp [hdepth, not_clear_noted]
    · rw [if_neg hdepth, clear_prepend_iff, List.forall_mem_map, groupNotes_clear_iff,
        clear_findingsFrom_iff limit children (depth + 1) path 0]
      constructor
      · rintro ⟨⟨hne, connective, hconnective⟩, parts, hparts⟩
        exact ⟨_, connective, parts, hdepth, hne, hconnective, hparts, rfl⟩
      · rintro ⟨_, connective, parts, _, hne, hconnective, hparts, _⟩
        exact ⟨⟨hne, connective, hconnective⟩, parts, hparts⟩

/-- All children of a group, from position `i` on. -/
theorem clear_findingsFrom_iff [Stack] (limit : Int) :
    ∀ (nodes : List Node) (depth : Nat) (path : List Nat) (i : Nat),
      Clear (fun finding => finding.note.isProblem) (findingsFrom limit depth path i nodes) ↔
        ∃ parts, compileNodes limit depth nodes = .ok parts
  | [], depth, path, i => by
    rw [findingsFrom, clear_ok_iff, compileNodes]; simp
  | node :: rest, depth, path, i => by
    rw [findingsFrom, clear_append_iff, Node.clear_findings_iff limit node depth (path ++ [i]),
      clear_findingsFrom_iff limit rest depth path (i + 1)]
    simp only [compileNodes_cons_eq_ok_iff]
    constructor
    · rintro ⟨⟨part, hpart⟩, parts, hparts⟩; exact ⟨_, part, parts, hpart, hparts, rfl⟩
    · rintro ⟨_, part, parts, hpart, hparts, _⟩; exact ⟨⟨part, hpart⟩, parts, hparts⟩

end

/-- A condition tree compiles exactly when it does as the root of itself. -/
theorem Group.compile_ok_iff (limit : Int) (g : Group) :
    (∃ text, g.compile limit = .ok text) ↔
      ∃ text, (Node.group g.operator g.children).compile limit 1 = .ok text := by
  simp only [Group.compile_eq_ok_iff, Node.compile_group_eq_ok_iff]
  constructor
  · rintro ⟨_, connective, parts, hdepth, hne, hconnective, hparts, _⟩
    exact ⟨_, connective, parts, hdepth, hne, hconnective, hparts, rfl⟩
  · rintro ⟨_, connective, parts, hdepth, hne, hconnective, hparts, _⟩
    exact ⟨_, connective, parts, hdepth, hne, hconnective, hparts, rfl⟩

/-! ## Reports -/

/-- A report is valid exactly if no finding is a problem. -/
theorem Report.ofFindings_valid_iff {findings : List Finding} :
    (Report.ofFindings findings).valid = true ↔
      ∀ finding ∈ findings, finding.note.isProblem = false := by
  show ((findings.filter _).map _).isEmpty = true ↔ _
  rw [List.isEmpty_iff, List.map_eq_nil_iff, List.filter_eq_nil_iff]
  simp

/-- The report of a check is valid exactly when the check is clear. -/
theorem valid_iff_clear {found : Except Stop (List Finding)} :
    (∃ report, (do let findings ← found; return Report.ofFindings findings) = .ok report ∧
      report.valid = true) ↔ Clear (fun finding => finding.note.isProblem) found := by
  cases found with
  | error what =>
    constructor
    · rintro ⟨report, h, _⟩; exact nomatch h
    · intro h; exact absurd h not_clear_error
  | ok findings =>
    rw [clear_ok_iff, ← Report.ofFindings_valid_iff]
    constructor
    · rintro ⟨report, h, hvalid⟩; injection h with h; rw [h]; exact hvalid
    · intro hvalid; exact ⟨_, rfl, hvalid⟩

/-- **Agreement** of compiling and checking: one succeeds exactly when the other reports a valid
    result; so whenever errors are reported, or the check itself stops, compiling fails, and
    whenever compiling fails no valid result is reported. -/
structure Agree {ε : Type} (compiled : Except ε String) (checked : Except Stop Report) : Prop where
  compiles_iff : (∃ text, compiled = .ok text) ↔ ∃ report,
    checked = .ok report ∧ report.valid = true
  fails_of_errors : ∀ report, checked = .ok report → report.errors ≠ [] → ∃ why,
    compiled = .error why
  fails_of_stop : ∀ what, checked = .error what → ∃ why, compiled = .error why
  invalid_of_fails : ∀ why report, compiled = .error why → checked = .ok report →
    report.valid = false

/-- The consequences follow from the equivalence, for reports that are valid exactly when they list
    no errors. -/
theorem Agree.of_iff {ε : Type} {compiled : Except ε String} {checked : Except Stop Report}
    (h : (∃ text, compiled = .ok text) ↔ ∃ report, checked = .ok report ∧ report.valid = true)
    (herrors : ∀ report, checked = .ok report → report.valid = report.errors.isEmpty) :
    Agree compiled checked := by
  have hfail : (¬ ∃ report, checked = .ok report ∧ report.valid = true) →
      ∃ why, compiled = .error why := by
    intro hno
    cases compiled with
    | error why => exact ⟨why, rfl⟩
    | ok text => exact absurd (h.mp ⟨text, rfl⟩) hno
  refine ⟨h, ?_, ?_, ?_⟩
  · intro report hr hne
    refine hfail ?_
    rintro ⟨report', hr', hvalid⟩
    rw [hr] at hr'
    injection hr' with hr'
    rw [← hr', herrors report hr, List.isEmpty_iff] at hvalid
    exact hne hvalid
  · intro what hw
    refine hfail ?_
    rintro ⟨report, hr, _⟩
    rw [hw] at hr
    exact nomatch hr
  · intro why report hw hr
    cases hvalid : report.valid with
    | false => rfl
    | true =>
      obtain ⟨text, ht⟩ := h.mpr ⟨report, hr, hvalid⟩
      rw [hw] at ht
      exact nomatch ht

/-- **A tree compiles exactly if it is found valid.** -/
theorem Group.compiles_iff_valid [Stack] (limit : Int) (g : Group) :
    (∃ text, g.compile limit = .ok text) ↔
      ∃ report, g.check limit = .ok report ∧ report.valid = true := by
  rw [Group.check, valid_iff_clear, Group.findings, Node.clear_findings_iff, Group.compile_ok_iff]

/-- The same for a single leaf. -/
theorem Candidate.compiles_iff_valid [Stack] (candidate : Candidate) :
    (∃ text, candidate.compile = .ok text) ↔
      ∃ report, candidate.check = .ok report ∧ report.valid = true := by
  have hreport : candidate.check = (do
      let findings ← (do let notes ← candidate.notes; return notes.map fun note => ⟨[], note⟩)
      return Report.ofFindings findings) := by
    rw [Candidate.check]
    cases candidate.notes <;> rfl
  rw [hreport, valid_iff_clear, clear_map_iff]
  cases candidate with
  | leaf l => exact l.clear_notes_iff.symm
  | group g => simp [Candidate.compile, Candidate.notes, clear_ok_iff, Note.isProblem]
  | other v => simp [Candidate.compile, Candidate.notes, clear_ok_iff, Note.isProblem]

/-- The report on a document without a tree lists at least one error. -/
theorem Source.lines_ne_nil_of_unreadable [Stack] {limit? : Option Int} {source : Source}
    {why : Unreadable} {lines : List String} (h : source.parse limit? = .error why)
    (hlines : why.lines = .ok lines) : lines ≠ [] := by
  cases why with
  | notGroup got => rw [← Except.ok.inj hlines]; exact List.cons_ne_nil _ _
  | tooDeep limit =>
    rw [Unreadable.lines] at hlines
    split at hlines
    · rw [← Except.ok.inj hlines]; exact List.cons_ne_nil _ _
    · exact nomatch hlines
  | invalid issues =>
    -- only the reader finds issues, and it never fails without one
    have hexplained : (Reading.bad issues : Reading Group).Explained := by
      rcases source with g | v
      · exact nomatch h
      · cases v with
        | object fields =>
          simp only [Source.parse] at h
          split at h
          · exact nomatch h
          · split at h
            · exact nomatch h
            · rename_i found hread
              injection h with h
              injection h with h
              rw [← h, ← hread]
              exact Group.explained_read fields
        | null | bool | int | float | text | list => exact nomatch h
    rw [← Except.ok.inj hlines]
    exact fun hnil => hexplained (List.map_eq_nil_iff.mp hnil)

/-- The same for a document, which may fail to be read. -/
theorem Source.compiles_iff_valid [Stack] (limit : Int) (source : Source) :
    (∃ text, source.compile limit = .ok text) ↔
      ∃ report, source.check limit = .ok report ∧ report.valid = true := by
  rw [Source.compile, Source.check]
  cases h : source.parse (some limit) with
  | error why =>
    simp only [bind_eq_ok_iff, pure_eq_ok_iff]
    constructor
    · rintro ⟨text, htext⟩
      cases htext
    · rintro ⟨report, ⟨lines, hlines, rfl⟩, hvalid⟩
      have hne := Source.lines_ne_nil_of_unreadable h hlines
      exact absurd (List.isEmpty_iff.mp hvalid) hne
  | ok g =>
    simp only [← g.compiles_iff_valid limit]
    cases g.compile limit <;> simp

/-! ## The main result -/

/-- Validity is the absence of errors, in every report that a check returns. -/
theorem Report.valid_eq_of_return {found : Except Stop (List Finding)} {report : Report}
    (h : (do let findings ← found; return Report.ofFindings findings) = .ok report) :
    report.valid = report.errors.isEmpty := by
  obtain ⟨findings, _, hr⟩ := bind_eq_ok_iff.mp h
  rw [pure_eq_ok_iff.mp hr]
  rfl

/-- **Checking agrees with compiling**: on every condition tree and every document, whatever the
    limit, and on everything that can be offered as a leaf. -/
theorem check_agrees_with_compile [Stack] :
    (∀ (limit : Int) (source : Source), Agree (source.compile limit) (source.check limit)) ∧
      ∀ candidate : Candidate, Agree candidate.compile candidate.check := by
  constructor
  · intro limit source
    refine Agree.of_iff (source.compiles_iff_valid limit) ?_
    intro report h
    rw [Source.check] at h
    split at h
    · obtain ⟨lines, _, hr⟩ := bind_eq_ok_iff.mp h
      rw [pure_eq_ok_iff.mp hr]
      rfl
    · exact Report.valid_eq_of_return h
  · intro candidate
    refine Agree.of_iff candidate.compiles_iff_valid ?_
    intro report h
    obtain ⟨notes, _, hr⟩ := bind_eq_ok_iff.mp h
    rw [pure_eq_ok_iff.mp hr]
    rfl

end Condition
end HomeScenes
