import HomeScenes.Condition.Dump
import HomeScenes.Proofs.Condition.Agreement
import HomeScenes.Proofs.Condition.Grammar

/-!
# Condition trees there and back

  A tree that is written as a document and read again comes back almost as it was.  What was left
  out is null now, the kind of every leaf is named, and in free-form parts null stands for numbers
  that are not finite: this is the tree *restored* (`Group.restored`), and it is written as the
  same document.

  One kind of leaf needs a condition.  The unknown kind keeps whatever fields it was given, and
  they must not be taken for something else when they are read (`Subject.Writable`).  A tree that
  comes from a document has no such fields (`Group.writable_of_read`), and neither has one that
  compiles (`Group.writable_of_compile`).

  The crux is `Node.mirrors_dump`: the restored node mirrors the document of the node.  What is
  read is settled by that.
-/

namespace HomeScenes

/-! ## Free-form values -/

namespace Value

mutual

/-- There is no number left to be replaced the second time. -/
theorem finitized_finitized : ∀ v : Value, v.finitized.finitized = v.finitized
  | .float x => by
    rw [finitized]
    split
    · rename_i hfinite
      rw [finitized, if_pos hfinite]
    · rfl
  | .list items => by
    rw [finitized, finitized, finitizedItems_finitizedItems items]
  | .object fields => by
    rw [finitized, finitized, finitizedFields_finitizedFields fields]
  | .null | .bool _ | .int _ | .text _ => rfl

theorem finitizedItems_finitizedItems : ∀ items : List Value,
    finitizedItems (finitizedItems items) = finitizedItems items
  | [] => rfl
  | v :: rest => by
    rw [finitizedItems, finitizedItems, finitized_finitized v, finitizedItems_finitizedItems rest]

theorem finitizedFields_finitizedFields : ∀ fields : List (String × Value),
    finitizedFields (finitizedFields fields) = finitizedFields fields
  | [] => rfl
  | (key, v) :: rest => by
    rw [finitizedFields, finitizedFields, finitized_finitized v,
      finitizedFields_finitizedFields rest]

end

/-- The names of the fields stay as they are. -/
theorem mem_finitizedFields {fields : List (String × Value)} {entry : String × Value}
    (h : entry ∈ finitizedFields fields) : ∃ v, (entry.1, v) ∈ fields := by
  induction fields with
  | nil => cases h
  | cons first rest ih =>
    obtain ⟨key, v⟩ := first
    rw [finitizedFields] at h
    rcases List.mem_cons.mp h with rfl | h
    · exact ⟨v, List.mem_cons_self ..⟩
    · obtain ⟨v', hv'⟩ := ih h
      exact ⟨v', List.mem_cons_of_mem _ hv'⟩

/-- A text is finite, and nothing else becomes one. -/
theorem finitized_eq_text_iff {v : Value} {s : String} : v.finitized = .text s ↔ v = .text s := by
  cases v with
  | float x =>
    rw [finitized]
    split <;> simp
  | null | bool | int | text | list | object => simp [finitized]

end Value

/-- A key is missing exactly if no entry has it. -/
theorem Keyed.get?_eq_none_iff {α : Type} {key : String} {entries : List (String × α)} :
    get? key entries = none ↔ ∀ entry ∈ entries, entry.1 ≠ key := by
  induction entries with
  | nil => simp
  | cons entry rest ih =>
    obtain ⟨k, a⟩ := entry
    rw [get?, List.forall_mem_cons]
    by_cases hk : k = key
    · simp [hk]
    · rw [if_neg hk, ih]
      exact ⟨fun h => ⟨hk, h⟩, fun h => h.2⟩

/-! ## Slots -/

namespace Slot

variable {α : Type}

/-- A slot as it comes back: what was left out is null. -/
def restored : Slot α → Slot α
  | .absent => .null
  | slot => slot

/-- After a round trip a field is always there, null if it was left out. -/
theorem asGiven_restored (toValue : α → Value) (slot : Slot α) :
    slot.restored.asGiven toValue = some (slot.toValue toValue) := by
  cases slot <;> rfl

@[simp] theorem toValue_restored (toValue : α → Value) (slot : Slot α) :
    slot.restored.toValue toValue = slot.toValue toValue := by
  cases slot <;> rfl

end Slot

namespace Condition

/-! ## Leaves -/

/-- The fields that mean something for every node. -/
def reservedNames : List String := ["operator", "value", "type", "conditions"]

/-- **A subject that can be written**: the tag of an unknown kind is none of the known ones, and the
    fields kept with it have no name that means something else. -/
def Subject.Writable : Subject → Prop
  | .unknown tag extra =>
    (∀ known : Kind, known ≠ .unknown → tag ≠ .text known.tag) ∧
      ∀ entry ∈ extra, entry.1 ∉ reservedNames
  | _ => True

/-- A subject as it comes back. -/
def Subject.restored : Subject → Subject
  | .deviceState deviceId property => .deviceState deviceId.restored property.restored
  | .globalVariable name => .globalVariable name.restored
  | .time => .time
  | .sunPosition position offset => .sunPosition position.restored offset.restored
  | .custom code => .custom code.restored
  | .unknown tag extra => .unknown tag.finitized (Value.finitizedFields extra)

/-- A leaf as it comes back: its kind is named. -/
def Leaf.restored (leaf : Leaf) : Leaf :=
  ⟨leaf.operator.restored, leaf.value.restored, true, leaf.subject.restored⟩

/-- The fields of a leaf in its document. -/
def Leaf.dumpFields (leaf : Leaf) : List (String × Value) :=
  ("operator", leaf.operator.toValue .text) :: ("value", leaf.valueOf) :: leaf.subject.dump

/-- The fields of a kind are written alike after a round trip. -/
theorem Subject.dump_restored (subject : Subject) : subject.restored.dump = subject.dump := by
  cases subject with
  | unknown tag extra =>
    simp only [restored, dump, Value.finitized_finitized, Value.finitizedFields_finitizedFields]
  | deviceState | globalVariable | time | sunPosition | custom => simp [restored, dump]

/-- So is a leaf. -/
theorem Leaf.dump_restored (leaf : Leaf) : leaf.restored.dump = leaf.dump := by
  simp only [Leaf.dump, Leaf.valueOf, Leaf.restored, Slot.toValue_restored, Subject.dump_restored]

/-- A round trip keeps the kind. -/
theorem Subject.kind_restored (subject : Subject) : subject.restored.kind = subject.kind := by
  cases subject <;> rfl

section Fields

variable {leaf : Leaf} (h : leaf.subject.Writable)
include h

/-- No leaf writes the field by which groups are told apart. -/
theorem Leaf.conditions_dumpFields : Keyed.get? "conditions" leaf.dumpFields = none := by
  obtain ⟨operator, value, tagged, subject⟩ := leaf
  cases subject with
  | unknown tag extra =>
    refine Keyed.get?_eq_none_iff.mpr fun entry hentry => ?_
    simp only [dumpFields, Subject.dump, List.mem_cons] at hentry
    rcases hentry with rfl | rfl | rfl | hentry
    · simp
    · simp
    · simp
    · obtain ⟨v, hv⟩ := Value.mem_finitizedFields hentry
      intro hname
      exact h.2 _ hv (by rw [hname]; decide)
  | deviceState | globalVariable | time | sunPosition | custom =>
    simp [dumpFields, Subject.dump, Keyed.get?]

/-- **The tag that a leaf writes** is the one of its kind. -/
theorem Leaf.taggedAs_dumpFields : TaggedAs leaf.dumpFields leaf.subject.kind := by
  obtain ⟨operator, value, tagged, subject⟩ := leaf
  cases subject with
  | unknown tag extra =>
    intro known hknown htype
    simp only [dumpFields, Subject.dump, Keyed.get?] at htype
    have htag := Value.finitized_eq_text_iff.mp (Option.some.inj htype)
    exact h.1 known hknown htag
  | deviceState | globalVariable | time | sunPosition | custom => rfl

/-- What a leaf writes holds its own fields. -/
theorem Leaf.keeps_dumpFields : leaf.subject.restored.Keeps leaf.dumpFields := by
  obtain ⟨operator, value, tagged, subject⟩ := leaf
  cases subject with
  | unknown tag extra =>
    have hkept : ∀ entry ∈ Value.finitizedFields extra,
        (["operator", "value", "type"].all (· ≠ entry.1)) = true := by
      intro entry hentry
      obtain ⟨v, hv⟩ := Value.mem_finitizedFields hentry
      refine List.all_eq_true.mpr fun name hname => decide_eq_true fun heq => h.2 _ hv ?_
      rw [← heq]
      exact List.mem_append_left ["conditions"] hname
    refine ⟨rfl, ?_⟩
    simp only [dumpFields, Subject.dump]
    rw [List.filter_cons_of_neg (by simp), List.filter_cons_of_neg (by simp),
      List.filter_cons_of_neg (by simp), List.filter_eq_self.mpr hkept]
  | deviceState deviceId property =>
    exact ⟨Slot.asGiven_restored _ deviceId, Slot.asGiven_restored _ property⟩
  | globalVariable name => exact Slot.asGiven_restored _ name
  | time => trivial
  | sunPosition position offset =>
    exact ⟨Slot.asGiven_restored _ position, Slot.asGiven_restored _ offset⟩
  | custom code => exact Slot.asGiven_restored _ code

/-- **The restored leaf mirrors** the document of the leaf. -/
theorem Leaf.mirrors_dumpFields : leaf.restored.Mirrors leaf.dumpFields where
  kind := by
    rw [Leaf.restored, Subject.kind_restored]
    exact Leaf.taggedAs_dumpFields h
  operator := Slot.asGiven_restored _ leaf.operator
  value := Slot.asGiven_restored _ leaf.value
  hasValue := by
    rw [Slot.isSupplied_eq_asGiven Literal.toValue]
    exact congrArg Option.isSome (Slot.asGiven_restored _ leaf.value)
  tagged := by
    obtain ⟨operator, value, tagged, subject⟩ := leaf
    cases subject <;> rfl
  own := Leaf.keeps_dumpFields h

end Fields

/-! ## Trees -/

mutual

/-- A node as it comes back. -/
def Node.restored : Node → Node
  | .leaf l => .leaf l.restored
  | .group operator children => .group operator.restored (restoredNodes children)

/-- Each node as it comes back. -/
def restoredNodes : List Node → List Node
  | [] => []
  | node :: rest => node.restored :: restoredNodes rest

end

/-- **A condition tree as it comes back**: its list of conditions is there. -/
def Group.restored (g : Group) : Group :=
  ⟨g.operator.restored, some (restoredNodes g.children)⟩

mutual

/-- A node is written alike after a round trip, by recursion over the tree. -/
theorem Node.dump_restored : ∀ node : Node, node.restored.dump = node.dump
  | .leaf l => by rw [Node.restored, Node.dump, Node.dump, Leaf.dump_restored]
  | .group operator children => by
    rw [Node.restored, Node.dump, Node.dump, Slot.toValue_restored,
      dumpNodes_restoredNodes children]

theorem dumpNodes_restoredNodes :
    ∀ nodes : List Node, dumpNodes (restoredNodes nodes) = dumpNodes nodes
  | [] => rfl
  | node :: rest => by
    rw [restoredNodes, dumpNodes, dumpNodes, Node.dump_restored node, dumpNodes_restoredNodes rest]

end

/-- **The restored tree** is written as the same document. -/
theorem Group.dump_restored (g : Group) : g.restored.dump = g.dump := by
  rw [Group.dump, Group.dump, Group.restored, Slot.toValue_restored]
  exact congrArg (fun items => Value.object [_, ("conditions", .list items)])
    (dumpNodes_restoredNodes g.children)

/-- **Leaves that can be written.** -/
def Writable (leaves : List Leaf) : Prop :=
  ∀ leaf ∈ leaves, leaf.subject.Writable

mutual

/-- **The restored node mirrors** the document of the node. -/
theorem Node.mirrors_dump : ∀ node : Node, Writable node.leaves → node.restored.Mirrors node.dump
  | .leaf l, h => by
    have hleaf : l.subject.Writable := h l (List.mem_singleton.mpr rfl)
    exact ⟨l.dumpFields, rfl, Leaf.conditions_dumpFields hleaf, Leaf.mirrors_dumpFields hleaf⟩
  | .group operator children, h =>
    ⟨_, dumpNodes children, rfl, rfl, Slot.asGiven_restored _ operator,
      mirrorEach_dumpNodes children h⟩

/-- All children of a group, in their order. -/
theorem mirrorEach_dumpNodes : ∀ nodes : List Node, Writable (leavesOf nodes) →
    MirrorEach (restoredNodes nodes) (dumpNodes nodes)
  | [], _ => trivial
  | node :: rest, h => by
    obtain ⟨hnode, hrest⟩ := List.forall_mem_append.mp h
    exact ⟨Node.mirrors_dump node hnode, mirrorEach_dumpNodes rest hrest⟩

end

/-- **The restored tree mirrors** the document of the tree. -/
theorem Group.mirrors_dump {g : Group} (h : Writable g.leaves) :
    g.restored.Mirrors [("operator", g.operator.toValue .text),
      ("conditions", .list (dumpNodes g.children))] :=
  ⟨Slot.asGiven_restored _ g.operator, dumpNodes g.children, rfl, mirrorEach_dumpNodes _ h⟩

mutual

/-- What comes back is as high as before. -/
theorem Node.height_restored : ∀ node : Node, node.restored.height = node.height
  | .leaf l => by rw [Node.restored, Node.height, Node.height]
  | .group operator children => by
    rw [Node.restored, Node.height, Node.height, tallest_restoredNodes children]

theorem tallest_restoredNodes : ∀ nodes : List Node, tallest (restoredNodes nodes) = tallest nodes
  | [] => rfl
  | node :: rest => by
    rw [restoredNodes, tallest, tallest, Node.height_restored node, tallest_restoredNodes rest]

end

/-- A round trip keeps the height. -/
theorem Group.height_restored (g : Group) : g.restored.height = g.height :=
  tallest_restoredNodes g.children

/-- **There and back**: the document of a condition tree is read as the tree restored, if there is
    room for its height. -/
theorem Group.read_dump {g : Group} (h : Writable g.leaves) (hheight : g.height ≤ maxLevels) :
    Group.read g.dump = .good g.restored :=
  (Group.read_eq_good_iff _ _).mpr
    ⟨Group.mirrors_dump h, g.height_restored ▸ hheight⟩

/-- The same for a tree that is a part of another document. -/
theorem Group.readPart_dump {g : Group} (h : Writable g.leaves)
    (hheight : g.height ≤ maxLevels - 1) :
    Group.readPart g.dump = .good g.restored :=
  (Group.readPart_eq_good_iff _ _).mpr
    ⟨Group.mirrors_dump h, g.height_restored ▸ hheight⟩

/-! ## Which trees can be written -/

/-- A leaf that was read can be written: its extra fields do not clash with its own. -/
theorem Leaf.writable_of_mirrors {leaf : Leaf} {fields : List (String × Value)}
    (h : leaf.Mirrors fields) (hconditions : Keyed.get? "conditions" fields = none) :
    leaf.subject.Writable := by
  have hkind := h.kind
  have hkeeps := h.own
  cases hsubject : leaf.subject with
  | unknown tag extra =>
    rw [hsubject] at hkind hkeeps
    obtain ⟨htag, hextra⟩ := hkeeps
    constructor
    · intro known hknown hnamed
      rw [htag] at hnamed
      cases htype : Keyed.get? "type" fields with
      | none =>
        rw [htype] at hnamed
        cases hnamed
      | some given =>
        rw [htype] at hnamed
        exact hkind known hknown (htype.trans (congrArg some hnamed))
    · intro entry hentry hreserved
      rw [hextra] at hentry
      obtain ⟨hmem, hall⟩ := List.mem_filter.mp hentry
      -- The reader itself leaves out the first three; with `conditions` it would have been a group.
      have hother : entry.1 ≠ "conditions" := Keyed.get?_eq_none_iff.mp hconditions entry hmem
      have hsplit : entry.1 ∈ ["operator", "value", "type"] ++ ["conditions"] := hreserved
      rcases List.mem_append.mp hsplit with hshared | hlast
      · exact of_decide_eq_true (List.all_eq_true.mp hall entry.1 hshared) rfl
      · exact hother (List.mem_singleton.mp hlast)
  | deviceState | globalVariable | time | sunPosition | custom => exact trivial

mutual

/-- The same for every leaf of a node. -/
theorem Node.writable_of_mirrors :
    ∀ (node : Node) (v : Value), node.Mirrors v → Writable node.leaves
  | .leaf l, v, h => by
    obtain ⟨fields, rfl, hconditions, hleaf⟩ := h
    exact List.forall_mem_singleton.mpr (Leaf.writable_of_mirrors hleaf hconditions)
  | .group operator children, v, h => by
    obtain ⟨fields, items, rfl, _, _, heach⟩ := h
    exact writable_of_mirrorEach children items heach

theorem writable_of_mirrorEach :
    ∀ (nodes : List Node) (items : List Value), MirrorEach nodes items →
    Writable (leavesOf nodes)
  | [], [], _ => List.forall_mem_nil _
  | node :: nodes, v :: items, h =>
    List.forall_mem_append.mpr
      ⟨Node.writable_of_mirrors node v h.1, writable_of_mirrorEach nodes items h.2⟩
  | [], _ :: _, h => h.elim
  | _ :: _, [], h => h.elim

end

/-- **A tree that mirrors a document** can be written. -/
theorem Group.writable_of_mirrors {g : Group} {fields : List (String × Value)}
    (h : g.Mirrors fields) :
    Writable g.leaves := by
  have hconditions := h.conditions
  rw [Group.leaves, Group.children]
  cases hnodes : g.conditions with
  | none => exact List.forall_mem_nil _
  | some nodes =>
    rw [hnodes] at hconditions
    obtain ⟨items, _, heach⟩ := hconditions
    exact writable_of_mirrorEach nodes items heach

/-- **A tree that comes from a document** can be written, and there is room for it. -/
theorem Group.writable_of_read {v : Value} {g : Group} (h : Group.read v = .good g) :
    Writable g.leaves ∧ g.height ≤ maxLevels := by
  cases v with
  | object fields =>
    obtain ⟨hmirrors, hheight⟩ := (Group.read_eq_good_iff fields g).mp h
    exact ⟨Group.writable_of_mirrors hmirrors, hheight⟩
  | null | bool | int | float | text | list => cases h

/-- The same for a tree that came as a part of another document. -/
theorem Group.writable_of_readPart {v : Value} {g : Group} (h : Group.readPart v = .good g) :
    Writable g.leaves ∧ g.height ≤ maxLevels - 1 := by
  cases v with
  | object fields =>
    obtain ⟨hmirrors, hheight⟩ := (Group.readPart_eq_good_iff fields g).mp h
    exact ⟨Group.writable_of_mirrors hmirrors, hheight⟩
  | null | bool | int | float | text | list => cases h

mutual

/-- **What compiles can be written**: there is no leaf of an unknown kind in it. -/
theorem Node.writable_of_compile {limit : Int} : ∀ (node : Node) (depth : Nat) (text : String),
    node.compile limit depth = .ok text → Writable node.leaves
  | .leaf l, depth, text, h => by
    refine List.forall_mem_singleton.mpr ?_
    cases hsubject : l.subject with
    | unknown tag extra =>
      rw [Node.compile, Leaf.compile, hsubject] at h
      cases h
    | deviceState | globalVariable | time | sunPosition | custom => exact trivial
  | .group operator children, depth, text, h => by
    obtain ⟨_, parts, _, _, _, hparts, _⟩ := Node.compile_group_eq_ok_iff.mp h
    exact writable_of_compileNodes children (depth + 1) parts hparts

theorem writable_of_compileNodes {limit : Int} :
    ∀ (nodes : List Node) (depth : Nat) (parts : List String),
    compileNodes limit depth nodes = .ok parts → Writable (leavesOf nodes)
  | [], _, _, _ => List.forall_mem_nil _
  | node :: rest, depth, parts, h => by
    obtain ⟨part, more, hpart, hmore, _⟩ := compileNodes_cons_eq_ok_iff.mp h
    exact List.forall_mem_append.mpr
      ⟨Node.writable_of_compile node depth part hpart,
        writable_of_compileNodes rest depth more hmore⟩

end

mutual

/-- A node that compiles in its place is no higher than the limit allows. -/
theorem Node.height_of_compile {limit : Int} : ∀ (node : Node) (depth : Nat) (text : String),
    (depth : Int) ≤ limit + 1 → node.compile limit depth = .ok text →
      (depth + node.height : Int) ≤ limit + 2
  | .leaf l, depth, text, hdepth, _ => by
    rw [Node.height]
    omega
  | .group operator children, depth, text, _, h => by
    obtain ⟨_, parts, hlimit, _, _, hparts, _⟩ := Node.compile_group_eq_ok_iff.mp h
    have hbelow := tallest_of_compileNodes children (depth + 1) parts (by omega) hparts
    rw [Node.height]
    omega

/-- Compiling reaches no further down than the limit, so neither does the height. -/
theorem tallest_of_compileNodes {limit : Int} :
    ∀ (nodes : List Node) (depth : Nat) (parts : List String), (depth : Int) ≤ limit + 1 →
      compileNodes limit depth nodes = .ok parts → (depth + tallest nodes : Int) ≤ limit + 2
  | [], depth, _, hdepth, _ => by
    rw [tallest]
    omega
  | node :: rest, depth, parts, hdepth, h => by
    obtain ⟨part, more, hpart, hmore, _⟩ := compileNodes_cons_eq_ok_iff.mp h
    have hnode := Node.height_of_compile node depth part hdepth hpart
    have hrest := tallest_of_compileNodes rest depth more hdepth hmore
    rw [tallest]
    omega

end

/-- **A tree that compiles** is no higher than the limit. -/
theorem Group.height_of_compile {limit : Int} {g : Group} {text : String}
    (h : g.compile limit = .ok text) : (g.height : Int) ≤ limit := by
  obtain ⟨_, parts, hlimit, _, _, hparts, _⟩ := Group.compile_eq_ok_iff.mp h
  have hchildren := tallest_of_compileNodes g.children 2 parts (by omega) hparts
  rw [Group.height]
  omega

/-- **A tree that compiles** can be written: it has no leaf of an unknown kind. -/
theorem Group.writable_of_compile {limit : Int} {g : Group} {text : String}
    (h : g.compile limit = .ok text) : Writable g.leaves := by
  obtain ⟨_, parts, _, _, _, hparts, _⟩ := Group.compile_eq_ok_iff.mp h
  exact writable_of_compileNodes g.children 2 parts hparts

end Condition

end HomeScenes
