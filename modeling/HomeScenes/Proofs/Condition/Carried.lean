import HomeScenes.Proofs.Condition.RoundTrip
import HomeScenes.Proofs.Condition.Threshold

/-!
# What the wire format carries

  A condition tree is written as a document, the document is handed in again, and a tree is read
  from it.  That tree is written as the same document; but does it compile as the first one did?

  1. **What gets through.**  A tree that compiles comes back as one that compiles to the same
     text, under every limit.

  2. **What gets lost.**  The document has null for a value that was left out.  A leaf about a
     device or a variable has to have a value, and null is one.  So a leaf that does not compile
     because it *lacks its literal* (`Leaf.lacksLiteral`) comes back as one that is compared with
     `nil`, and a tree that was turned down is accepted (`modeTree_accepted_later`).  A leaf about
     the clock has to have a value too, but null is no time stamp, and no other leaf needs one:
     only devices and variables can slip through.

  The crux is `Leaf.compile_eq_ok_iff_restored`, an equivalence for one leaf; the rest follows the
  tree.
-/

namespace HomeScenes.Condition

/-! ## Slots that come back -/

/-- A round trip keeps what a slot gives. -/
theorem toOption_restored {α : Type} (slot : Slot α) : slot.restored.toOption = slot.toOption := by
  cases slot <;> rfl

/-- After a round trip every slot is supplied. -/
theorem isSupplied_restored {α : Type} (slot : Slot α) : slot.restored.isSupplied = true := by
  cases slot <;> rfl

/-- Only what was given is given afterwards. -/
theorem restored_eq_given_iff {α : Type} {slot : Slot α} {a : α} :
    slot.restored = .given a ↔ slot = .given a := by
  rw [← toOption_eq_some_iff, toOption_restored, toOption_eq_some_iff]

theorem nonEmpty?_restored (slot : Slot String) : nonEmpty? slot.restored = nonEmpty? slot := by
  rw [nonEmpty?, nonEmpty?, toOption_restored]

theorem sunOffset_restored (offset : Slot Number) :
    sunOffset offset.restored = sunOffset offset := by
  rw [sunOffset, sunOffset, toOption_restored]

theorem ofSlot?_restored (operator : Slot String) :
    Connective.ofSlot? operator.restored = Connective.ofSlot? operator := by
  cases operator <;> rfl

/-! ## Leaves that come back -/

namespace Leaf

/-- **A leaf that lacks its literal**: it is about a device or a variable, and its value was left
    out. -/
def lacksLiteral (leaf : Leaf) : Bool :=
  match leaf.subject with
  | .deviceState .. | .globalVariable _ => !leaf.value.isSupplied
  | _ => false

variable (leaf : Leaf)

theorem valueOf_restored : leaf.restored.valueOf = leaf.valueOf :=
  Slot.toValue_restored Literal.toValue leaf.value

theorem comparison?_restored : leaf.restored.comparison? = leaf.comparison? :=
  congrArg Comparison.ofValue? (Slot.toValue_restored Value.text leaf.operator)

/-- A null that stands for a value left out is compared as any other null. -/
theorem variableText_restored (getter operator literal : String) :
    variableText leaf.value.restored getter operator literal =
      variableText leaf.value getter operator literal := by
  cases leaf.value <;> rfl

variable {leaf}

/-- Null is no time stamp, so a finite time stamp was given. -/
theorem isSupplied_of_finite {n : Number} (h : Lua.finite "time value" leaf.valueOf = .ok n) :
    leaf.value.isSupplied = true := by
  rw [valueOf] at h
  cases hvalue : leaf.value with
  | absent =>
    rw [hvalue] at h
    cases h
  | null | given => rfl

variable {text : String}

/-- A device compiles after the round trip to what it compiled to before, and before only if its
    value was supplied. -/
theorem compileDevice_restored_iff {deviceId : Slot Int} {property : Slot String} :
    leaf.compileDevice deviceId property = .ok text ↔
      leaf.restored.compileDevice deviceId.restored property.restored = .ok text ∧
        leaf.value.isSupplied = true := by
  rw [compileDevice_eq_ok_iff, compileDevice_eq_ok_iff]
  simp only [restored_eq_given_iff, nonEmpty?_restored, comparison?_restored, valueOf_restored]
  constructor
  · rintro ⟨id, name, c, n, literal, hid, hname, hvalue, hrest⟩
    exact ⟨⟨id, name, c, n, literal, hid, hname, isSupplied_restored leaf.value, hrest⟩, hvalue⟩
  · rintro ⟨⟨id, name, c, n, literal, hid, hname, _, hrest⟩, hvalue⟩
    exact ⟨id, name, c, n, literal, hid, hname, hvalue, hrest⟩

/-- The same for a variable. -/
theorem compileVariable_restored_iff {name : Slot String} :
    leaf.compileVariable name = .ok text ↔
      leaf.restored.compileVariable name.restored = .ok text ∧ leaf.value.isSupplied = true := by
  have hvalue : leaf.restored.value = leaf.value.restored := rfl
  rw [compileVariable_eq_ok_iff, compileVariable_eq_ok_iff]
  simp only [nonEmpty?_restored, comparison?_restored, valueOf_restored, hvalue,
    variableText_restored]
  constructor
  · rintro ⟨name, c, literal, hname, hsupplied, hrest⟩
    exact ⟨⟨name, c, literal, hname, isSupplied_restored leaf.value, hrest⟩, hsupplied⟩
  · rintro ⟨⟨name, c, literal, hname, _, hrest⟩, hsupplied⟩
    exact ⟨name, c, literal, hname, hsupplied, hrest⟩

/-- A time stamp has to be a number, so null does not pass for one. -/
theorem compileTime_restored_iff :
    leaf.compileTime = .ok text ↔ leaf.restored.compileTime = .ok text := by
  rw [compileTime_eq_ok_iff, compileTime_eq_ok_iff]
  simp only [comparison?_restored, valueOf_restored]
  constructor
  · rintro ⟨c, n, _, hc, hn, htext⟩
    exact ⟨c, n, isSupplied_restored leaf.value, hc, hn, htext⟩
  · rintro ⟨c, n, _, hc, hn, htext⟩
    exact ⟨c, n, isSupplied_of_finite hn, hc, hn, htext⟩

/-- **A leaf compiles** exactly when it comes back as one that compiles to the same text and it
    does not lack its literal. -/
theorem compile_eq_ok_iff_restored :
    leaf.compile = .ok text ↔ leaf.restored.compile = .ok text ∧ leaf.lacksLiteral = false := by
  have hsubject : leaf.restored.subject = leaf.subject.restored := rfl
  rw [Leaf.compile, Leaf.compile, lacksLiteral, hsubject]
  cases leaf.subject with
  | deviceState deviceId property =>
    simp only [Subject.restored, Bool.not_eq_eq_eq_not, Bool.not_false]
    exact compileDevice_restored_iff
  | globalVariable name =>
    simp only [Subject.restored, Bool.not_eq_eq_eq_not, Bool.not_false]
    exact compileVariable_restored_iff
  | time =>
    simp only [Subject.restored, and_true]
    exact compileTime_restored_iff
  | sunPosition position offset =>
    simp only [Subject.restored, and_true]
    rw [compileSun_eq_ok_iff, compileSun_eq_ok_iff]
    simp only [nonEmpty?_restored, comparison?_restored, sunOffset_restored]
  | custom code =>
    simp only [Subject.restored, and_true]
    rw [compileCustom_eq_ok_iff, compileCustom_eq_ok_iff]
    simp only [nonEmpty?_restored, comparison?_restored]
  | unknown tag extra => simp [Subject.restored]

end Leaf

/-! ## Trees that come back -/

/-- **No leaf lacks its literal.** -/
def Literate (leaves : List Leaf) : Prop :=
  ∀ leaf ∈ leaves, leaf.lacksLiteral = false

instance decidableLiterate (leaves : List Leaf) : Decidable (Literate leaves) :=
  inferInstanceAs (Decidable (∀ leaf ∈ leaves, leaf.lacksLiteral = false))

/-- A round trip neither adds nor drops nodes. -/
theorem restoredNodes_eq_nil_iff {nodes : List Node} : restoredNodes nodes = [] ↔ nodes = [] := by
  cases nodes with
  | nil => exact Iff.rfl
  | cons node rest => simp [restoredNodes]

mutual

/-- **A node compiles** exactly when it comes back as one that compiles to the same text and none
    of its leaves lacks its literal.  By induction on the node, along the compiler. -/
theorem Node.compile_eq_ok_iff_restored {limit : Int} :
    ∀ (node : Node) (depth : Nat) (text : String), node.compile limit depth = .ok text ↔
      node.restored.compile limit depth = .ok text ∧ Literate node.leaves
  | .leaf l, depth, text => by
    rw [Node.restored, Node.compile, Node.compile, Node.leaves, Literate, List.forall_mem_singleton]
    exact Leaf.compile_eq_ok_iff_restored
  | .group operator children, depth, text => by
    rw [Node.restored, Node.compile_group_eq_ok_iff, Node.compile_group_eq_ok_iff, Node.leaves]
    simp only [ofSlot?_restored, ne_eq, restoredNodes_eq_nil_iff,
      compileNodes_eq_ok_iff_restored children (depth + 1)]
    constructor
    · rintro ⟨connective, parts, hdepth, hne, hconnective, ⟨hparts, hliterate⟩, htext⟩
      exact ⟨⟨connective, parts, hdepth, hne, hconnective, hparts, htext⟩, hliterate⟩
    · rintro ⟨⟨connective, parts, hdepth, hne, hconnective, hparts, htext⟩, hliterate⟩
      exact ⟨connective, parts, hdepth, hne, hconnective, ⟨hparts, hliterate⟩, htext⟩

/-- All children of a group, in their order. -/
theorem compileNodes_eq_ok_iff_restored {limit : Int} :
    ∀ (nodes : List Node) (depth : Nat) (parts : List String),
    compileNodes limit depth nodes = .ok parts ↔
      compileNodes limit depth (restoredNodes nodes) = .ok parts ∧ Literate (leavesOf nodes)
  | [], depth, parts => by
    rw [restoredNodes, leavesOf, Literate]
    exact ⟨fun h => ⟨h, List.forall_mem_nil _⟩, fun h => h.1⟩
  | node :: rest, depth, parts => by
    rw [restoredNodes, compileNodes_cons_eq_ok_iff, compileNodes_cons_eq_ok_iff, leavesOf, Literate,
      List.forall_mem_append]
    simp only [Node.compile_eq_ok_iff_restored node depth,
      compileNodes_eq_ok_iff_restored rest depth]
    constructor
    · rintro ⟨part, more, ⟨hpart, hnode⟩, ⟨hmore, hrest⟩, hparts⟩
      exact ⟨⟨part, more, hpart, hmore, hparts⟩, hnode, hrest⟩
    · rintro ⟨⟨part, more, hpart, hmore, hparts⟩, hnode, hrest⟩
      exact ⟨part, more, ⟨hpart, hnode⟩, ⟨hmore, hrest⟩, hparts⟩

end

/-- **A condition tree compiles** exactly when it comes back as one that compiles to the same text
    and no leaf lacks its literal. -/
theorem Group.compile_eq_ok_iff_restored {limit : Int} {g : Group} {text : String} :
    g.compile limit = .ok text ↔ g.restored.compile limit = .ok text ∧ Literate g.leaves := by
  have hchildren : g.restored.children = restoredNodes g.children := rfl
  have hoperator : g.restored.operator = g.operator.restored := rfl
  rw [Group.compile_eq_ok_iff, Group.compile_eq_ok_iff, hchildren, hoperator, Group.leaves]
  simp only [ofSlot?_restored, ne_eq, restoredNodes_eq_nil_iff,
    compileNodes_eq_ok_iff_restored g.children 2]
  constructor
  · rintro ⟨connective, parts, hdepth, hne, hconnective, ⟨hparts, hliterate⟩, htext⟩
    exact ⟨⟨connective, parts, hdepth, hne, hconnective, hparts, htext⟩, hliterate⟩
  · rintro ⟨⟨connective, parts, hdepth, hne, hconnective, hparts, htext⟩, hliterate⟩
    exact ⟨connective, parts, hdepth, hne, hconnective, ⟨hparts, hliterate⟩, htext⟩

/-- The document of a tree compiles as the tree that comes back. -/
theorem Source.compile_dump_eq_ok_iff {limit : Int} {g : Group} {text : String}
    (h : Writable g.leaves) (hheight : g.height ≤ maxLevels) :
    (Source.document g.dump).compile limit = .ok text ↔
      (Source.tree g.restored).compile limit = .ok text := by
  have hread := Group.read_dump h hheight
  rw [Group.dump] at hread ⊢
  exact Source.compile_document_eq_ok_iff hread

/-! ## The main result -/

/-- **What the wire format carries** of a tree: its document is read again, as a tree that is
    written as the same document.  Under every limit the first tree compiles to a text exactly
    when the second does and no leaf of the first lacks its literal; and handing in the document
    compiles the second tree. -/
structure Carried (g back : Group) : Prop where
  read : Group.read g.dump = .good back
  dump : back.dump = g.dump
  compile_iff : ∀ limit text, (Source.tree g).compile limit = .ok text ↔
    (Source.tree back).compile limit = .ok text ∧ Literate g.leaves
  handedIn_iff : ∀ limit text, (Source.document g.dump).compile limit = .ok text ↔
    (Source.tree back).compile limit = .ok text

/-- **The wire format carries every tree that is read**, except that a literal which was left out
    comes back as null. -/
theorem wire_format_carries_tree {v : Value} {g : Group} (h : Group.read v = .good g) :
    ∃ back, Carried g back := by
  obtain ⟨hwritable, hheight⟩ := Group.writable_of_read h
  refine ⟨g.restored, Group.read_dump hwritable hheight, Group.dump_restored g, ?_, ?_⟩
  · intro limit text
    rw [Source.compile_tree_eq_ok_iff, Source.compile_tree_eq_ok_iff]
    exact Group.compile_eq_ok_iff_restored
  · intro limit text
    exact Source.compile_dump_eq_ok_iff hwritable hheight

/-- A variable that is compared with a value, if the document has one, and a group of one
    fragment, which needs no value. -/
def modeDocument (value : List (String × Value)) : Value :=
  .object [("operator", .text "AND"), ("conditions", .list [
    .object ([("type", .text "variable"), ("variable_name", .text "mode"),
      ("operator", .text "==")] ++ value),
    .object [("operator", .text "OR"), ("conditions", .list [
      .object [("type", .text "custom"), ("custom_lua", .text "armed"),
        ("operator", .text "==")]])]])]

/-- The tree that the document describes, with the slots for the values of its leaves. -/
def modeTree (value other : Slot Literal) : Group :=
  ⟨.given "AND", some [
    .leaf ⟨.given "==", value, true, .globalVariable (.given "mode")⟩,
    .group (.given "OR") [.leaf ⟨.given "==", other, true, .custom (.given "armed")⟩]]⟩

/-- With the value of the variable the tree gets through: it compiles, although the fragment has
    no value. -/
theorem modeTree_carried :
    Group.read (modeDocument [("value", .null)]) = .good (modeTree .null .absent) ∧
      Literate (modeTree .null .absent).leaves ∧
      (Source.tree (modeTree .null .absent)).compile 2 =
        .ok "fibaro.getGlobalVariable(\"mode\") == nil and (armed)" ∧
      ∃ back, Carried (modeTree .null .absent) back :=
  ⟨rfl, by decide, ok_of_toOption_eq_some (by decide +kernel),
    wire_format_carries_tree (v := modeDocument [("value", .null)]) rfl⟩

/-- **A tree that was turned down is accepted later**: without the value of the variable the tree
    does not compile, but the tree that is read from its document does. -/
theorem modeTree_accepted_later :
    Group.read (modeDocument []) = .good (modeTree .absent .absent) ∧
      (∀ limit text, (Source.tree (modeTree .absent .absent)).compile limit ≠ .ok text) ∧
      Group.read (modeTree .absent .absent).dump = .good (modeTree .null .null) ∧
      (Source.tree (modeTree .null .null)).compile 2 =
        .ok "fibaro.getGlobalVariable(\"mode\") == nil and (armed)" := by
  refine ⟨rfl, ?_, rfl, ok_of_toOption_eq_some (by decide +kernel)⟩
  intro limit text htext
  have hliterate := (Group.compile_eq_ok_iff_restored.mp (Source.compile_tree_eq_ok_iff.mp htext)).2
  exact absurd hliterate (by decide)

end HomeScenes.Condition
