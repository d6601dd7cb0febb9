import HomeScenes.Condition.Reading
import HomeScenes.Proofs.Document.Fields

/-!
# The grammar of condition documents

  Which documents describe a condition tree, and which tree?  The grammar is stated on documents
  alone: every node is an object; one with a field `conditions` is a group, any other a leaf of
  the kind that its field `type` names; and each field of a node is left out, null or of its kind
  (`IsNode`, `IsTree`).  The tree that is read *mirrors* the document: it has the same shape, and
  every slot holds exactly what the document says (`Node.Mirrors`).

  A document of the grammar is read only down to a fixed level (`LevelOf`); one with a node below
  that is turned away (`deep_document_turned_away`).

  The crux is `Node.read_eq_good_iff`: reading gives a node exactly when the node mirrors the
  document and there is room for its height.  That there is such a node exactly for the documents
  of the grammar is then a matter of slots, one field at a time (`exists_leaf_iff`).
-/

namespace HomeScenes

/-! ## Kinds of values -/

namespace Value

/-- Whether a value is text. -/
def isText : Value → Bool
  | .text _ => true
  | _ => false

/-- Whether a value is an integer; a truth value is none. -/
def isInt : Value → Bool
  | .int _ => true
  | _ => false

/-- Whether a value is an integer or a double-precision number. -/
def isNumber : Value → Bool
  | .int _ | .float _ => true
  | _ => false

/-- Whether a leaf may compare with a value, other than null. -/
def isLiteral : Value → Bool
  | .bool _ | .int _ | .float _ | .text _ => true
  | _ => false

theorem isText_iff (v : Value) : v.isText = true ↔ ∃ s, v = .text s := by
  cases v <;> simp [isText]

theorem isInt_iff (v : Value) : v.isInt = true ↔ ∃ n, v = .int n := by
  cases v <;> simp [isInt]

theorem isNumber_iff (v : Value) : v.isNumber = true ↔ ∃ n : Number, v = n.toValue := by
  constructor
  · intro h
    cases v with
    | int n => exact ⟨.int n, rfl⟩
    | float x => exact ⟨.float x, rfl⟩
    | null | bool | text | list | object => cases h
  · rintro ⟨n, rfl⟩
    cases n <;> rfl

end Value

namespace Condition

/-- A literal is read from a truth value, a number or text alone, and is kept. -/
theorem Literal.exact_read : Read.Exact Literal.read Literal.toValue where
  good_iff v literal := by
    cases v <;> rcases literal with b | (n | x) | s <;>
      simp [Literal.read, Literal.toValue, Number.toValue]
  ne_null literal := by
    intro h
    rcases literal with b | (n | x) | s <;> cases h

theorem isLiteral_iff (v : Value) :
    v.isLiteral = true ↔ ∃ literal : Literal, v = literal.toValue := by
  constructor
  · intro h
    cases v with
    | bool b => exact ⟨.bool b, rfl⟩
    | int n => exact ⟨.number (.int n), rfl⟩
    | float x => exact ⟨.number (.float x), rfl⟩
    | text s => exact ⟨.text s, rfl⟩
    | null | list | object => cases h
  · rintro ⟨literal, rfl⟩
    rcases literal with b | (n | x) | s <;> rfl

/-! ## The grammar -/

/-- **The kind that a document names**: one of the five known kinds by its tag, and the unknown kind
    when there is no tag or it is none of these. -/
def TaggedAs (fields : List (String × Value)) : Kind → Prop
  | .unknown => ∀ known : Kind, known ≠ .unknown → Keyed.get? "type" fields ≠ some (.text known.tag)
  | known => Keyed.get? "type" fields = some (.text known.tag)

/-- The fields that a kind of leaf has of its own, each with the values that it may hold. -/
def Kind.ownFields : Kind → List (Field × (Value → Bool))
  | .deviceState => [(deviceIdField, Value.isInt), (propertyField, Value.isText)]
  | .globalVariable => [(variableNameField, Value.isText)]
  | .time => []
  | .sunPosition => [(sunPositionField, Value.isText), (timeOffsetField, Value.isNumber)]
  | .custom => [(customLuaField, Value.isText)]
  | .unknown => []

/-- **The fields of a leaf**: its operator, its value, and those of the kind that it names. -/
structure FitsLeaf (fields : List (String × Value)) : Prop where
  operator : operatorField.fits Value.isText fields = true
  value : valueField.fits Value.isLiteral fields = true
  own : ∀ kind, TaggedAs fields kind →
    ∀ entry ∈ kind.ownFields, entry.1.fits entry.2 fields = true

/-- **The documents of nodes.** -/
inductive IsNode : Value → Prop where
  | leaf {fields : List (String × Value)} (hconditions : Keyed.get? "conditions" fields = none)
    (hfields : FitsLeaf fields) : IsNode (.object fields)
  | group {fields : List (String × Value)} {items : List Value}
    (hconditions : Keyed.get? "conditions" fields = some (.list items))
    (hoperator : operatorField.fits Value.isText fields = true)
    (hitems : ∀ item ∈ items, IsNode item) : IsNode (.object fields)

/-- **The level of a node** below the items of a list: that of an item is one, and that of a node in
    the conditions of an item one more than it is there. -/
inductive LevelOf : List Value → Nat → Value → Prop where
  | item {items : List Value} {v : Value} (hitem : v ∈ items) : LevelOf items 1 v
  | inner {items more : List Value} {fields : List (String × Value)} {level : Nat} {v : Value}
    (hitem : .object fields ∈ items) (hconditions : Keyed.get? "conditions" fields =
      some (.list more))
    (hlevel : LevelOf more level v) : LevelOf items (level + 1) v

/-- **What a subject keeps**: the fields of its kind as they were given, and for an unknown kind
    the tag and every field that leaves do not share. -/
def Subject.Keeps (fields : List (String × Value)) : Subject → Prop
  | .deviceState deviceId property =>
    deviceId.asGiven .int = deviceIdField.given? fields ∧
      property.asGiven .text = propertyField.given? fields
  | .globalVariable name => name.asGiven .text = variableNameField.given? fields
  | .time => True
  | .sunPosition position offset =>
    position.asGiven .text = sunPositionField.given? fields ∧
      offset.asGiven Number.toValue = timeOffsetField.given? fields
  | .custom code => code.asGiven .text = customLuaField.given? fields
  | .unknown tag extra =>
    tag = (Keyed.get? "type" fields).getD .null ∧
      extra = fields.filter fun (key, _) => ["operator", "value", "type"].all (· ≠ key)

/-- **A leaf mirrors a document**: it is of the kind that the document names, its operator and its
    value are those of the document, it has a value exactly when the document has the field, and
    it keeps the fields of its kind. -/
structure Leaf.Mirrors (leaf : Leaf) (fields : List (String × Value)) : Prop where
  kind : TaggedAs fields leaf.subject.kind
  operator : leaf.operator.asGiven .text = Keyed.get? "operator" fields
  value : leaf.value.asGiven Literal.toValue = Keyed.get? "value" fields
  hasValue : leaf.value.isSupplied = (Keyed.get? "value" fields).isSome
  tagged : leaf.tagged = (Keyed.get? "type" fields).isSome
  own : leaf.subject.Keeps fields

mutual

/-- **A node mirrors a document**: a leaf one without conditions, and a group one whose conditions
    its children mirror one by one. -/
def Node.Mirrors : Node → Value → Prop
  | .leaf l, v =>
    ∃ fields, v = .object fields ∧ Keyed.get? "conditions" fields = none ∧ l.Mirrors fields
  | .group operator children, v =>
    ∃ fields items, v = .object fields ∧ Keyed.get? "conditions" fields = some (.list items) ∧
      operator.asGiven .text = Keyed.get? "operator" fields ∧ MirrorEach children items

/-- Nodes mirror documents, in order. -/
def MirrorEach : List Node → List Value → Prop
  | [], [] => True
  | node :: nodes, v :: items => node.Mirrors v ∧ MirrorEach nodes items
  | _, _ => False

end

/-- **A condition tree mirrors a document.** -/
structure Group.Mirrors (g : Group) (fields : List (String × Value)) : Prop where
  operator : g.operator.asGiven .text = Keyed.get? "operator" fields
  conditions : match g.conditions with
    | none => Keyed.get? "conditions" fields = none
    | some nodes =>
      ∃ items, Keyed.get? "conditions" fields = some (.list items) ∧ MirrorEach nodes items

/-! ## Heights -/

mutual

/-- **The height of a node**: how many levels it takes, its own included. -/
def Node.height : Node → Nat
  | .leaf _ => 1
  | .group _ children => tallest children + 1

/-- The greatest height among nodes. -/
def tallest : List Node → Nat
  | [] => 0
  | node :: rest => max node.height (tallest rest)

end

/-- **The height of a condition tree**: how many levels it takes below its root. -/
def Group.height (g : Group) : Nat :=
  tallest g.children

/-- Every node takes a level. -/
theorem Node.height_pos (node : Node) : 0 < node.height := by
  cases node with
  | leaf l => rw [Node.height]; exact Nat.one_pos
  | group operator children => rw [Node.height]; exact Nat.succ_pos _

/-- Levels are counted from the list, so they stay in a longer one. -/
theorem LevelOf.mono {items more : List Value} {level : Nat} {v : Value} (h : LevelOf items level v)
    (hsub : ∀ item ∈ items, item ∈ more) : LevelOf more level v := by
  cases h with
  | item hitem => exact .item (hsub v hitem)
  | inner hitem hconditions hlevel => exact .inner (hsub _ hitem) hconditions hlevel

mutual

/-- The height of a node is the level of some node of the document that it mirrors. -/
theorem Node.exists_level : ∀ (node : Node) (v : Value), node.Mirrors v →
    ∃ w, LevelOf [v] node.height w
  | .leaf l, v, _ => ⟨v, by rw [Node.height]; exact .item List.mem_cons_self⟩
  | .group operator children, v, h => by
    obtain ⟨fields, items, rfl, hconditions, _, heach⟩ := h
    rw [Node.height]
    cases children with
    | nil => exact ⟨_, .item List.mem_cons_self⟩
    | cons child rest =>
      obtain ⟨w, hw⟩ := exists_level_tallest (child :: rest) items heach (List.cons_ne_nil _ _)
      exact ⟨w, .inner List.mem_cons_self hconditions hw⟩

theorem exists_level_tallest : ∀ (nodes : List Node) (items : List Value), MirrorEach nodes items →
    nodes ≠ [] → ∃ w, LevelOf items (tallest nodes) w
  | [], _, _, hne => absurd rfl hne
  | node :: nodes, v :: items, heach, _ => by
    rw [MirrorEach] at heach
    obtain ⟨w, hw⟩ := node.exists_level v heach.1
    have hfirst : LevelOf (v :: items) node.height w :=
      hw.mono fun item hitem => List.mem_cons.mpr (Or.inl (List.mem_singleton.mp hitem))
    rw [tallest]
    rcases Nat.le_total (tallest nodes) node.height with hle | hle
    · rw [Nat.max_eq_left hle]
      exact ⟨w, hfirst⟩
    · rw [Nat.max_eq_right hle]
      cases nodes with
      | nil =>
        have hpos := node.height_pos
        rw [tallest] at hle
        omega
      | cons next rest =>
        obtain ⟨w', hw'⟩ :=
          exists_level_tallest (next :: rest) items heach.2 (List.cons_ne_nil _ _)
        exact ⟨w', hw'.mono fun item hitem => List.mem_cons_of_mem _ hitem⟩
  | _ :: _, [], heach, _ => heach.elim

end

/-- Each tag but the unknown ones stands for one kind. -/
theorem Kind.ofTag_eq_iff {v : Value} {kind : Kind} (h : kind ≠ .unknown) :
    Kind.ofTag v = kind ↔ v = .text kind.tag := by
  constructor
  · rintro rfl
    revert h
    rw [Kind.ofTag.eq_def]
    split
    · intro _; rfl
    · intro _; rfl
    · intro _; rfl
    · intro _; rfl
    · intro _; rfl
    · intro h; exact absurd rfl h
  · rintro rfl
    cases kind with
    | unknown => exact absurd rfl h
    | deviceState | globalVariable | time | sunPosition | custom => rfl

theorem taggedAs_of_ne {fields : List (String × Value)} {kind : Kind} (h : kind ≠ .unknown) :
    TaggedAs fields kind ↔ Keyed.get? "type" fields = some (.text kind.tag) := by
  cases kind with
  | unknown => exact absurd rfl h
  | deviceState | globalVariable | time | sunPosition | custom => exact Iff.rfl

/-- The kind that is read is the kind that the document names. -/
theorem kindOf_eq_iff {fields : List (String × Value)} {kind : Kind} :
    kindOf fields = kind ↔ TaggedAs fields kind := by
  have hknown : ∀ known : Kind, known ≠ .unknown →
      (kindOf fields = known ↔ Keyed.get? "type" fields = some (.text known.tag)) := by
    intro known h
    rw [kindOf, Kind.ofTag_eq_iff h]
    cases Keyed.get? "type" fields with
    | none => simp
    | some tag => simp
  by_cases h : kind = .unknown
  · subst h
    constructor
    · intro hkind known hne htype
      exact hne (((hknown known hne).mpr htype).symm.trans hkind)
    · intro hnone
      refine Decidable.byContradiction fun hne => ?_
      exact hnone (kindOf fields) hne ((hknown _ hne).mp rfl)
  · rw [taggedAs_of_ne h]
    exact hknown kind h

/-- **A subject is read** exactly when it is of the kind and keeps the fields of the kind. -/
theorem Subject.read_eq_good_iff (fields : List (String × Value)) (kind : Kind)
    (subject : Subject) :
    Subject.read fields kind = .good subject ↔ subject.kind = kind ∧ subject.Keeps fields := by
  cases kind with
  | deviceState =>
    simp only [Subject.read, Reading.map_seq_eq_good_iff,
      Field.slot_eq_good_iff Read.exact_strictInt, Field.slot_eq_good_iff Read.exact_text]
    constructor
    · rintro ⟨deviceId, property, hid, hproperty, rfl⟩; exact ⟨rfl, hid, hproperty⟩
    · rintro ⟨hkind, hkeeps⟩
      cases subject with
      | deviceState deviceId property => exact ⟨deviceId, property, hkeeps.1, hkeeps.2, rfl⟩
      | globalVariable | time | sunPosition | custom | unknown => cases hkind
  | globalVariable =>
    simp only [Subject.read, Reading.map_eq_good_iff, Field.slot_eq_good_iff Read.exact_text]
    constructor
    · rintro ⟨name, hname, rfl⟩; exact ⟨rfl, hname⟩
    · rintro ⟨hkind, hkeeps⟩
      cases subject with
      | globalVariable name => exact ⟨name, hkeeps, rfl⟩
      | deviceState | time | sunPosition | custom | unknown => cases hkind
  | time =>
    simp only [Subject.read]
    constructor
    · intro h; injection h with h; subst h; exact ⟨rfl, trivial⟩
    · rintro ⟨hkind, _⟩
      cases subject with
      | time => rfl
      | deviceState | globalVariable | sunPosition | custom | unknown => cases hkind
  | sunPosition =>
    simp only [Subject.read, Reading.map_seq_eq_good_iff, Field.slot_eq_good_iff Read.exact_number,
      Field.slot_eq_good_iff Read.exact_text]
    constructor
    · rintro ⟨position, offset, hposition, hoffset, rfl⟩; exact ⟨rfl, hposition, hoffset⟩
    · rintro ⟨hkind, hkeeps⟩
      cases subject with
      | sunPosition position offset => exact ⟨position, offset, hkeeps.1, hkeeps.2, rfl⟩
      | deviceState | globalVariable | time | custom | unknown => cases hkind
  | custom =>
    simp only [Subject.read, Reading.map_eq_good_iff, Field.slot_eq_good_iff Read.exact_text]
    constructor
    · rintro ⟨code, hcode, rfl⟩; exact ⟨rfl, hcode⟩
    · rintro ⟨hkind, hkeeps⟩
      cases subject with
      | custom code => exact ⟨code, hkeeps, rfl⟩
      | deviceState | globalVariable | time | sunPosition | unknown => cases hkind
  | unknown =>
    simp only [Subject.read]
    constructor
    · intro h; injection h with h; subst h; exact ⟨rfl, rfl, rfl⟩
    · rintro ⟨hkind, hkeeps⟩
      cases subject with
      | unknown tag extra => rw [hkeeps.1, hkeeps.2]
      | deviceState | globalVariable | time | sunPosition | custom => cases hkind

/-- The tag of the kind that a document names is never wrong. -/
theorem readTag_of_taggedAs {fields : List (String × Value)} {kind : Kind}
    (h : TaggedAs fields kind) :
    (if kind = .unknown then .good (typeField.isSupplied fields) else readTag kind fields) =
      .good (Keyed.get? "type" fields).isSome := by
  by_cases hkind : kind = .unknown
  · rw [if_pos hkind, Field.isSupplied_eq, typeField, Field.given?_named]
  · rw [if_neg hkind]
    have htype := (taggedAs_of_ne hkind).mp h
    have hfind : typeField.find? fields = some ("type", .text kind.tag) := by
      rw [Field.find?, typeField, Field.named, htype]
    rw [readTag, hfind, htype]
    simp

/-- **A leaf is read** exactly when it mirrors the document. -/
theorem Leaf.readFields_eq_good_iff (fields : List (String × Value)) (leaf : Leaf) :
    Leaf.readFields (kindOf fields) fields = .good leaf ↔ leaf.Mirrors fields := by
  have hkind : TaggedAs fields (kindOf fields) := kindOf_eq_iff.mp rfl
  have hoperator := Field.slot_eq_good_iff Read.exact_text operatorField fields leaf.operator
  have hvalue := Field.slot_eq_good_iff Literal.exact_read valueField fields leaf.value
  rw [operatorField, Field.given?_named] at hoperator
  rw [valueField, Field.given?_named] at hvalue
  rw [Leaf.readFields, readTag_of_taggedAs hkind]
  simp only [Reading.seq_eq_good_iff, Reading.map_eq_good_iff]
  constructor
  · rintro ⟨_, subject, ⟨_, _, ⟨_, value, ⟨operator, ho, rfl⟩, hv, rfl⟩, ht, rfl⟩, hs, rfl⟩
    injection ht with ht
    obtain ⟨hsubject, hkeeps⟩ := (Subject.read_eq_good_iff fields _ subject).mp hs
    have hgiven := hvalue.mp hv
    refine ⟨?_, hoperator.mp ho, hgiven, ?_, ht.symm, hkeeps⟩
    · rw [hsubject]; exact hkind
    · rw [← hgiven, Slot.isSupplied_eq_asGiven Literal.toValue]
  · intro h
    have hsubject := (Subject.read_eq_good_iff fields (kindOf fields) leaf.subject).mpr
      ⟨(kindOf_eq_iff.mpr h.kind).symm, h.own⟩
    refine ⟨_, leaf.subject,
      ⟨_, leaf.tagged, ⟨_, leaf.value, ⟨leaf.operator, hoperator.mpr h.operator, rfl⟩,
      hvalue.mpr h.value, rfl⟩, by rw [h.tagged], rfl⟩, hsubject, rfl⟩

/-! ## Trees -/

/-- The children of an object are those in its field `conditions`. -/
theorem readChildren_eq (room : Nat) (fields : List (String × Value)) :
    readChildren room fields =
      (Keyed.get? "conditions" fields).map fun v =>
        (readNodes room v).under (.key "conditions") := by
  induction fields with
  | nil => rfl
  | cons entry rest ih =>
    obtain ⟨key, v⟩ := entry
    rw [readChildren, Keyed.get?, ih]
    split
    · rfl
    · rfl

mutual

/-- **A node is read** exactly when it mirrors the document and there is room for its height.  By
    induction on the document, along the functions that read it. -/
theorem Node.read_eq_good_iff : ∀ (room : Nat) (v : Value) (node : Node),
    Node.read room v = .good node ↔ node.Mirrors v ∧ node.height ≤ room
  | 0, v, node => by
    have hpos := node.height_pos
    rw [Node.read]
    constructor
    · intro h; cases h
    · rintro ⟨_, hheight⟩
      omega
  | room + 1, .object fields, node => by
    have hoperator := fun slot => Field.slot_eq_good_iff Read.exact_text operatorField fields slot
    rw [operatorField, Field.given?_named] at hoperator
    have hchildren := readChildren_good_iff room fields
    rw [Node.read]
    cases hread : readChildren room fields with
    | none =>
      have hconditions : Keyed.get? "conditions" fields = none := by
        rw [readChildren_eq] at hread
        exact Option.map_eq_none_iff.mp hread
      simp only [Reading.map_eq_good_iff, Leaf.readFields_eq_good_iff]
      constructor
      · rintro ⟨leaf, hleaf, rfl⟩
        exact ⟨⟨fields, rfl, hconditions, hleaf⟩, by rw [Node.height]; omega⟩
      · rintro ⟨h, _⟩
        cases node with
        | leaf l =>
          obtain ⟨_, hfields, _, hleaf⟩ := h
          injection hfields with hfields
          exact ⟨l, hfields ▸ hleaf, rfl⟩
        | group operator children =>
          obtain ⟨_, items, hfields, hlist, _⟩ := h
          injection hfields with hfields
          rw [← hfields, hconditions] at hlist
          cases hlist
    | some children =>
      simp only [Reading.map_seq_eq_good_iff]
      constructor
      · rintro ⟨operator, nodes, ho, hn, rfl⟩
        obtain ⟨⟨items, hlist, heach⟩, hheight⟩ := (hchildren nodes).mp (by rw [hread, hn])
        refine ⟨⟨fields, items, rfl, hlist, (hoperator operator).mp ho, heach⟩, ?_⟩
        rw [Node.height]
        exact Nat.succ_le_succ hheight
      · rintro ⟨h, hheight⟩
        cases node with
        | leaf l =>
          obtain ⟨_, hfields, hnone, _⟩ := h
          injection hfields with hfields
          rw [readChildren_eq, hfields, hnone] at hread
          cases hread
        | group operator nodes =>
          obtain ⟨_, items, hfields, hlist, ho, heach⟩ := h
          injection hfields with hfields
          subst hfields
          rw [Node.height] at hheight
          have hgood := (hchildren nodes).mpr ⟨⟨items, hlist, heach⟩,
            Nat.le_of_succ_le_succ hheight⟩
          rw [hread] at hgood
          exact ⟨operator, nodes, (hoperator operator).mpr ho, Option.some.inj hgood, rfl⟩
  | _ + 1, .null, node | _ + 1, .bool _, node | _ + 1, .int _, node | _ + 1, .float _, node
  | _ + 1, .text _, node | _ + 1, .list _, node => by
    constructor
    · intro h; cases h
    · rintro ⟨h, _⟩
      cases node with
      | leaf l => obtain ⟨_, hfields, _⟩ := h; cases hfields
      | group operator nodes => obtain ⟨_, _, hfields, _⟩ := h; cases hfields

theorem readChildren_good_iff : ∀ (room : Nat) (fields : List (String × Value)) (nodes : List Node),
    readChildren room fields = some (.good nodes) ↔
      (∃ items, Keyed.get? "conditions" fields = some (.list items) ∧ MirrorEach nodes items) ∧
        tallest nodes ≤ room
  | room, [], nodes => by simp [readChildren]
  | room, (key, v) :: rest, nodes => by
    rw [readChildren, Keyed.get?]
    split
    · rw [Option.some.injEq, Reading.under_eq_good_iff, readNodes_good_iff room v nodes]
      refine and_congr_left fun _ => ?_
      constructor
      · rintro ⟨items, rfl, heach⟩; exact ⟨items, rfl, heach⟩
      · rintro ⟨items, hv, heach⟩; exact ⟨items, Option.some.inj hv, heach⟩
    · exact readChildren_good_iff room rest nodes

/-- The children of a group are read from a list alone. -/
theorem readNodes_good_iff : ∀ (room : Nat) (v : Value) (nodes : List Node),
    readNodes room v = .good nodes ↔
      (∃ items, v = .list items ∧ MirrorEach nodes items) ∧ tallest nodes ≤ room
  | room, .list items, nodes => by
    rw [readNodes, readItems_good_iff room 0 items nodes]
    refine and_congr_left fun _ => ?_
    constructor
    · intro h; exact ⟨items, rfl, h⟩
    · rintro ⟨_, hitems, h⟩; injection hitems with hitems; rw [hitems]; exact h
  | _, .null, nodes | _, .bool _, nodes | _, .int _, nodes | _, .float _, nodes | _, .text _, nodes
  | _, .object _, nodes => by
    constructor
    · intro h; cases h
    · rintro ⟨⟨_, hv, _⟩, _⟩; cases hv

/-- Item by item, all with the same room. -/
theorem readItems_good_iff : ∀ (room i : Nat) (items : List Value) (nodes : List Node),
    readItems room i items = .good nodes ↔ MirrorEach nodes items ∧ tallest nodes ≤ room
  | room, _, [], nodes => by
    rw [readItems]
    cases nodes with
    | nil => simp [MirrorEach, tallest]
    | cons node rest => simp [MirrorEach]
  | room, i, v :: rest, nodes => by
    rw [readItems, Reading.map_seq_eq_good_iff]
    simp only [Reading.under_eq_good_iff, Node.read_eq_good_iff room v,
      readItems_good_iff room (i + 1) rest]
    constructor
    · rintro ⟨node, more, hnode, hmore, rfl⟩
      rw [MirrorEach, tallest]
      exact ⟨⟨hnode.1, hmore.1⟩, Nat.max_le.mpr ⟨hnode.2, hmore.2⟩⟩
    · rintro ⟨h, hheight⟩
      cases nodes with
      | nil => exact h.elim
      | cons node more =>
        rw [MirrorEach] at h
        rw [tallest] at hheight
        obtain ⟨hnode, hmore⟩ := Nat.max_le.mp hheight
        exact ⟨node, more, ⟨h.1, hnode⟩, ⟨h.2, hmore⟩, rfl⟩

end

/-- **A condition tree is read** exactly when it mirrors the document and there is room for its
    height. -/
theorem Group.readFields_eq_good_iff (room : Nat) (fields : List (String × Value)) (g : Group) :
    Group.readFields room fields = .good g ↔ g.Mirrors fields ∧ g.height ≤ room := by
  have hoperator := Field.slot_eq_good_iff Read.exact_text operatorField fields g.operator
  rw [operatorField, Field.given?_named] at hoperator
  have hchildren := readChildren_good_iff room fields
  rw [Group.readFields, Reading.map_seq_eq_good_iff]
  cases hread : readChildren room fields with
  | none =>
    have hconditions : Keyed.get? "conditions" fields = none := by
      rw [readChildren_eq] at hread
      exact Option.map_eq_none_iff.mp hread
    constructor
    · rintro ⟨operator, _, ho, hc, rfl⟩
      injection hc with hc
      subst hc
      exact ⟨⟨hoperator.mp ho, hconditions⟩, Nat.zero_le _⟩
    · rintro ⟨⟨ho, hc⟩, _⟩
      refine ⟨g.operator, none, hoperator.mpr ho, rfl, ?_⟩
      split at hc
      · rename_i hnone; rw [← hnone]
      · obtain ⟨items, hlist, _⟩ := hc
        rw [hconditions] at hlist
        cases hlist
  | some children =>
    simp only [Reading.map_eq_good_iff]
    constructor
    · rintro ⟨operator, _, ho, ⟨nodes, hn, rfl⟩, rfl⟩
      obtain ⟨hlist, hheight⟩ := (hchildren nodes).mp (by rw [hread, hn])
      exact ⟨⟨hoperator.mp ho, hlist⟩, hheight⟩
    · rintro ⟨⟨ho, hc⟩, hheight⟩
      rw [Group.height, Group.children] at hheight
      split at hc
      · rw [readChildren_eq, hc] at hread
        cases hread
      · rename_i nodes hnodes
        rw [hnodes] at hheight
        have hgood := (hchildren nodes).mpr ⟨hc, hheight⟩
        rw [hread] at hgood
        exact ⟨g.operator, some nodes, hoperator.mpr ho, ⟨nodes, Option.some.inj hgood, rfl⟩,
          by rw [← hnodes]⟩

/-- A condition tree on its own is read down to the last level. -/
theorem Group.read_eq_good_iff (fields : List (String × Value)) (g : Group) :
    Group.read (.object fields) = .good g ↔ g.Mirrors fields ∧ g.height ≤ maxLevels :=
  Group.readFields_eq_good_iff maxLevels fields g

/-- A condition tree in another document has one level less. -/
theorem Group.readPart_eq_good_iff (fields : List (String × Value)) (g : Group) :
    Group.readPart (.object fields) = .good g ↔ g.Mirrors fields ∧ g.height ≤ maxLevels - 1 :=
  Group.readFields_eq_good_iff (maxLevels - 1) fields g

/-! ## The documents that are read -/

/-- There is a subject of a kind exactly when the fields of the kind fit. -/
theorem Subject.exists_keeps_iff (fields : List (String × Value)) (kind : Kind) :
    (∃ subject : Subject, subject.kind = kind ∧ subject.Keeps fields) ↔
      ∀ entry ∈ kind.ownFields, entry.1.fits entry.2 fields = true := by
  cases kind with
  | deviceState =>
    simp only [Kind.ownFields, List.forall_mem_cons, ← Field.exists_slot_iff Value.isInt_iff,
      ← Field.exists_slot_iff Value.isText_iff]
    constructor
    · rintro ⟨subject, hkind, hkeeps⟩
      cases subject with
      | deviceState deviceId property =>
        exact ⟨⟨deviceId, hkeeps.1⟩, ⟨property, hkeeps.2⟩, List.forall_mem_nil _⟩
      | globalVariable | time | sunPosition | custom | unknown => cases hkind
    · rintro ⟨⟨deviceId, hid⟩, ⟨property, hproperty⟩, _⟩
      exact ⟨.deviceState deviceId property, rfl, hid, hproperty⟩
  | globalVariable =>
    simp only [Kind.ownFields, List.forall_mem_cons, ← Field.exists_slot_iff Value.isText_iff]
    constructor
    · rintro ⟨subject, hkind, hkeeps⟩
      cases subject with
      | globalVariable name => exact ⟨⟨name, hkeeps⟩, List.forall_mem_nil _⟩
      | deviceState | time | sunPosition | custom | unknown => cases hkind
    · rintro ⟨⟨name, hname⟩, _⟩
      exact ⟨.globalVariable name, rfl, hname⟩
  | time => exact ⟨fun _ => List.forall_mem_nil _, fun _ => ⟨.time, rfl, trivial⟩⟩
  | sunPosition =>
    simp only [Kind.ownFields, List.forall_mem_cons, ← Field.exists_slot_iff Value.isText_iff,
      ← Field.exists_slot_iff Value.isNumber_iff]
    constructor
    · rintro ⟨subject, hkind, hkeeps⟩
      cases subject with
      | sunPosition position offset =>
        exact ⟨⟨position, hkeeps.1⟩, ⟨offset, hkeeps.2⟩, List.forall_mem_nil _⟩
      | deviceState | globalVariable | time | custom | unknown => cases hkind
    · rintro ⟨⟨position, hposition⟩, ⟨offset, hoffset⟩, _⟩
      exact ⟨.sunPosition position offset, rfl, hposition, hoffset⟩
  | custom =>
    simp only [Kind.ownFields, List.forall_mem_cons, ← Field.exists_slot_iff Value.isText_iff]
    constructor
    · rintro ⟨subject, hkind, hkeeps⟩
      cases subject with
      | custom code => exact ⟨⟨code, hkeeps⟩, List.forall_mem_nil _⟩
      | deviceState | globalVariable | time | sunPosition | unknown => cases hkind
    · rintro ⟨⟨code, hcode⟩, _⟩
      exact ⟨.custom code, rfl, hcode⟩
  | unknown => exact ⟨fun _ => List.forall_mem_nil _, fun _ => ⟨.unknown _ _, rfl, rfl, rfl⟩⟩

/-- The operator of a group or leaf is absent, null or text. -/
theorem exists_operator_iff (fields : List (String × Value)) :
    (∃ operator : Slot String, operator.asGiven .text = Keyed.get? "operator" fields) ↔
      operatorField.fits Value.isText fields = true := by
  rw [← Field.exists_slot_iff Value.isText_iff, operatorField, Field.given?_named]

/-- **There is a leaf** exactly when the fields of the document fit. -/
theorem exists_leaf_iff (fields : List (String × Value)) :
    (∃ leaf : Leaf, leaf.Mirrors fields) ↔ FitsLeaf fields := by
  have hvalue : (∃ value : Slot Literal,
      value.asGiven Literal.toValue = Keyed.get? "value" fields) ↔
      valueField.fits Value.isLiteral fields = true := by
    rw [← Field.exists_slot_iff isLiteral_iff, valueField, Field.given?_named]
  constructor
  · rintro ⟨leaf, h⟩
    refine ⟨(exists_operator_iff fields).mp ⟨_, h.operator⟩, hvalue.mp ⟨_, h.value⟩, ?_⟩
    intro kind hkind
    have hsame : leaf.subject.kind = kind :=
      (kindOf_eq_iff.mpr h.kind).symm.trans (kindOf_eq_iff.mpr hkind)
    exact (Subject.exists_keeps_iff fields kind).mp ⟨leaf.subject, hsame, h.own⟩
  · intro h
    have hkind : TaggedAs fields (kindOf fields) := kindOf_eq_iff.mp rfl
    obtain ⟨operator, hoperator⟩ := (exists_operator_iff fields).mpr h.operator
    obtain ⟨value, hvalue⟩ := hvalue.mpr h.value
    obtain ⟨subject, hsubject, hkeeps⟩ :=
      (Subject.exists_keeps_iff fields (kindOf fields)).mpr (h.own _ hkind)
    refine ⟨⟨operator, value, _, subject⟩, ?_, hoperator, hvalue, ?_, rfl, hkeeps⟩
    · rw [hsubject]; exact hkind
    · rw [← hvalue, Slot.isSupplied_eq_asGiven Literal.toValue]

mutual

/-- What a node mirrors is a document of the grammar. -/
theorem Node.isNode_of_mirrors : ∀ (node : Node) (v : Value), node.Mirrors v → IsNode v
  | .leaf l, v, h => by
    obtain ⟨fields, rfl, hconditions, hleaf⟩ := h
    exact .leaf hconditions ((exists_leaf_iff fields).mp ⟨l, hleaf⟩)
  | .group operator children, v, h => by
    obtain ⟨fields, items, rfl, hconditions, hoperator, heach⟩ := h
    exact .group hconditions ((exists_operator_iff fields).mp ⟨operator, hoperator⟩)
      (isNode_of_mirrorEach children items heach)

theorem isNode_of_mirrorEach : ∀ (nodes : List Node) (items : List Value),
    MirrorEach nodes items → ∀ item ∈ items, IsNode item
  | [], [], _ => List.forall_mem_nil _
  | node :: nodes, v :: items, h => by
    rw [MirrorEach] at h
    exact List.forall_mem_cons.mpr
      ⟨node.isNode_of_mirrors v h.1, isNode_of_mirrorEach nodes items h.2⟩
  | [], _ :: _, h => h.elim
  | _ :: _, [], h => h.elim

end

end Condition
end HomeScenes
