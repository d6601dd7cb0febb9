import HomeScenes.Proofs.Condition.Outline

/-!
# Compiling keeps the meaning of a tree

  A condition tree has a value under every assignment of truth values to atoms: a leaf has the
  value that its own text is read with, a group combines the values of its children.  The tree
  compiles to one flat text, and that text is read as a boolean expression by the rules of the
  scene language.  The two values are always the same (`compile_preserves_meaning`), for every
  tree without a custom fragment.

  The crux is what holds of each node by induction (`Node.reads`): its text has pieces with no
  connective at the top, so that it stays one operand whatever stands around it, and the
  expression read from them has the value of the node.  A leaf has it because its text is inert; a
  group has it because of the parentheses around it, and within them the joined operands are read
  as exactly the children.
-/

namespace HomeScenes.Condition

open Lua (Formula Piece Lexeme Unbroken ReadAs piecesOf operand itemsOf formula)

/-! ## The value of a tree -/

/-- **The value of a leaf**: its own text is read and evaluated. -/
def Leaf.holds? (truth : List Piece → Bool) (leaf : Leaf) : Option Bool :=
  (leaf.compile.toOption.bind Lua.read?).map (Formula.eval truth)

/-- AND holds if all values do, OR if some value does. -/
def Connective.combine : Connective → List Bool → Bool
  | .and, values => values.all id
  | .or, values => values.any id

mutual

/-- **The value of a node.** -/
def Node.holds? (truth : List Piece → Bool) : Node → Option Bool
  | .leaf l => l.holds? truth
  | .group operator children =>
    (Connective.ofSlot? operator).bind fun connective =>
      (holdAll? truth children).map connective.combine

/-- The values of nodes. -/
def holdAll? (truth : List Piece → Bool) : List Node → Option (List Bool)
  | [] => some []
  | node :: rest =>
    (node.holds? truth).bind fun value => (holdAll? truth rest).map (value :: ·)

end

/-- **The value of a condition tree.** -/
def Group.holds? (truth : List Piece → Bool) (g : Group) : Option Bool :=
  (Node.group g.operator g.children).holds? truth

/-! ## Joined texts -/

/-- The word of a connective. -/
def Connective.word : Connective → Lexeme
  | .and => Lua.andWord
  | .or => Lua.orWord

/-- The letters of a connective. -/
def Connective.letters : Connective → List Char
  | .and => "and".toList
  | .or => "or".toList

theorem Connective.toList_joiner (connective : Connective) :
    connective.joiner.toList = ' ' :: (connective.letters ++ [' ']) := by
  cases connective <;> decide

/-- **The pieces of joined texts** are the pieces of each, joined by the word of the connective,
    for every reader of pieces that goes on after a blank. -/
theorem pieces_joined {reader : List Char → Option (List Piece)} (hnil : reader [] = some [])
    (hblank : ∀ {a b : List Char} {ps qs : List Piece}, reader a = some ps → reader b = some qs →
      reader (a ++ ' ' :: b) = some (ps ++ qs))
    {connective : Connective} (hword : reader connective.letters = some [.plain connective.word])
    {parts : List String} {pss : List (List Piece)}
    (h : List.Forall₂ (fun part ps => reader part.toList = some ps) parts pss) :
    reader (connective.joiner.intercalate parts).toList =
      some ([.plain connective.word].intercalate pss) := by
  induction h with
  | nil => exact hnil
  | @cons part ps parts pss hpart hrest ih =>
    cases hrest with
    | nil =>
      rw [String.intercalate_singleton, List.intercalate_singleton]
      exact hpart
    | cons hnext hmore =>
      rw [String.intercalate_cons_cons, List.intercalate_cons_cons, String.toList_append,
        String.toList_append, connective.toList_joiner]
      have hjoined := hblank (hblank hpart hword) ih
      rw [List.append_assoc part.toList, List.cons_append] at hjoined
      rw [List.append_assoc part.toList, List.cons_append, List.append_assoc, List.singleton_append]
      exact hjoined

/-- Texts with their pieces. -/
def HavePieces (parts : List String) (pss : List (List Piece)) : Prop :=
  List.Forall₂ (fun part ps => piecesOf part.toList = some ps) parts pss

/-- The pieces of a joined text are the joined pieces. -/
theorem piecesOf_intercalate (connective : Connective) {parts : List String}
    {pss : List (List Piece)} (h : HavePieces parts pss) :
    piecesOf (connective.joiner.intercalate parts).toList =
      some ([.plain connective.word].intercalate pss) := by
  refine pieces_joined (Lua.piecesOf_eq_some_iff.mpr ⟨[], rfl, rfl⟩) Lua.piecesOf_blank ?_ h
  cases connective with
  | and => exact Lua.piecesOf_and
  | or => exact Lua.piecesOf_or

/-- **Joined operands** have the value that the connective combines theirs to. -/
theorem formula_joined (connective : Connective) {pss : List (List Piece)} {fs : List Formula}
    (h : ReadAs pss fs) (hne : pss ≠ []) :
    ∃ f, formula ([.plain connective.word].intercalate pss) = some f ∧
      ∀ truth, f.eval truth = connective.combine (fs.map (Formula.eval truth)) := by
  cases connective with
  | and =>
    obtain ⟨f, hf, heval⟩ := Lua.formula_joined_and h hne
    refine ⟨f, hf, fun truth => ?_⟩
    rw [heval, Connective.combine, List.all_map]
    rfl
  | or =>
    obtain ⟨f, hf, heval⟩ := Lua.formula_joined_or h hne
    refine ⟨f, hf, fun truth => ?_⟩
    rw [heval, Connective.combine, List.any_map]
    rfl

/-! ## Nodes -/

/-- **A text stands for a node**: it is one operand wherever it stands, and what is read from it has
    the value of the node. -/
def Node.Reads (node : Node) (text : String) : Prop :=
  ∃ ps f, piecesOf text.toList = some ps ∧ Unbroken ps ∧ operand (itemsOf ps) = some f ∧
    ∀ truth, node.holds? truth = some (f.eval truth)

/-- **A leaf is read as itself**, one operand. -/
theorem Leaf.reads {leaf : Leaf} {text : String} (h : leaf.compile = .ok text)
    (hcustom : leaf.subject.kind ≠ .custom) : (Node.leaf leaf).Reads text := by
  obtain ⟨c, hmem, hc⟩ := leaf.exists_wordChar_outline h hcustom
  obtain ⟨ps, f, hps, hunbroken, hf⟩ := (leaf.inert_compile h hcustom).exists_operand hc hmem
  refine ⟨ps, f, hps, hunbroken, hf, fun truth => ?_⟩
  have hread : Lua.read? text = some f := by
    rw [Lua.read?, hps, Option.bind_some, Lua.formula_of_unbroken hunbroken, hf]
  rw [Node.holds?, Leaf.holds?, h]
  show (Lua.read? text).map _ = _
  rw [hread, Option.map_some]

/-- The texts of nodes, their pieces, and the expressions read from them. -/
def ReadTogether (nodes : List Node) (parts : List String) (pss : List (List Piece))
    (fs : List Formula) : Prop :=
  HavePieces parts pss ∧ ReadAs pss fs ∧
    ∀ truth, holdAll? truth nodes = some (fs.map (Formula.eval truth))

/-- What a group is read as, given what its children are read as. -/
theorem exists_formula_of_readTogether {operator : Slot String} {connective : Connective}
    (hconnective : Connective.ofSlot? operator = some connective) {children : List Node}
    (hne : children ≠ []) {parts : List String} {pss : List (List Piece)} {fs : List Formula}
    (h : ReadTogether children parts pss fs) :
    ∃ ps f, piecesOf (connective.joiner.intercalate parts).toList = some ps ∧ formula ps = some f ∧
      ∀ truth, (Node.group operator children).holds? truth = some (f.eval truth) := by
  obtain ⟨hpieces, hread, hvalues⟩ := h
  have hsome : pss ≠ [] := by
    rintro rfl
    -- without parts there are no values, but a child has one
    have hfs : fs = [] := List.forall₂_nil_left_iff.mp hread
    rw [hfs] at hvalues
    cases children with
    | nil => exact hne rfl
    | cons node rest =>
      have hvalue := hvalues fun _ => true
      rw [holdAll?, Option.bind_eq_some_iff] at hvalue
      obtain ⟨value, _, hmap⟩ := hvalue
      obtain ⟨values, _, hcons⟩ := Option.map_eq_some_iff.mp hmap
      exact nomatch hcons
  obtain ⟨f, hf, heval⟩ := formula_joined connective hread hsome
  refine ⟨_, f, piecesOf_intercalate connective hpieces, hf, fun truth => ?_⟩
  rw [Node.holds?, hconnective, Option.bind_some, hvalues, Option.map_some, heval]

mutual

/-- **Every node that compiles is read with its own value.**  By induction on the tree: the
    parentheses of a group make one piece of it. -/
theorem Node.reads {limit : Int} : ∀ {node : Node} {depth : Nat} {text : String},
    (∀ leaf ∈ node.leaves, leaf.subject.kind ≠ .custom) → node.compile limit depth = .ok text →
      node.Reads text
  | .leaf leaf, depth, text, hcustom, h =>
    leaf.reads h (hcustom leaf (List.mem_singleton_self leaf))
  | .group operator children, depth, text, hcustom, h => by
    obtain ⟨connective, parts, _, hne, hconnective, hparts, rfl⟩ :=
      Node.compile_group_eq_ok_iff.mp h
    obtain ⟨pss, fs, htogether⟩ := readTogether hcustom hparts
    obtain ⟨ps, f, hps, hf, hvalue⟩ := exists_formula_of_readTogether hconnective hne htogether
    refine ⟨[.paren ps], f, ?_, Lua.unbroken_paren ps, hf, hvalue⟩
    rw [String.toList_append, String.toList_append]
    exact Lua.piecesOf_paren hps

theorem readTogether {limit : Int} : ∀ {nodes : List Node} {depth : Nat} {parts : List String},
    (∀ leaf ∈ leavesOf nodes, leaf.subject.kind ≠ .custom) →
      compileNodes limit depth nodes = .ok parts → ∃ pss fs, ReadTogether nodes parts pss fs
  | [], depth, parts, _, h => by
    injection h with h
    rw [← h]
    exact ⟨[], [], .nil, .nil, fun _ => rfl⟩
  | node :: rest, depth, parts, hcustom, h => by
    obtain ⟨part, more, hpart, hmore, rfl⟩ := compileNodes_cons_eq_ok_iff.mp h
    obtain ⟨hnode, hrest⟩ := List.forall_mem_append.mp hcustom
    obtain ⟨ps, f, hps, hunbroken, hf, hvalue⟩ := Node.reads hnode hpart
    obtain ⟨pss, fs, hpieces, hread, hvalues⟩ := readTogether hrest hmore
    refine ⟨ps :: pss, f :: fs, .cons hps hpieces, .cons ⟨hunbroken, hf⟩ hread, fun truth => ?_⟩
    rw [holdAll?, hvalue, Option.bind_some, hvalues, Option.map_some, List.map_cons]

end

/-! ## Trees -/

/-- **Compiling keeps the meaning.**  The text of a tree without custom fragments can be read as a
    boolean expression, and under every assignment to atoms its value is the value of the tree. -/
theorem compile_preserves_meaning {limit : Int} {g : Group} {text : String}
    (hcustom : ∀ leaf ∈ g.leaves, leaf.subject.kind ≠ .custom) (h : g.compile limit = .ok text) :
    ∃ f, Lua.read? text = some f ∧ ∀ truth, g.holds? truth = some (f.eval truth) := by
  obtain ⟨connective, parts, _, hne, hconnective, hparts, rfl⟩ := Group.compile_eq_ok_iff.mp h
  obtain ⟨pss, fs, htogether⟩ := readTogether hcustom hparts
  obtain ⟨ps, f, hps, hf, hvalue⟩ := exists_formula_of_readTogether hconnective hne htogether
  refine ⟨f, ?_, hvalue⟩
  rw [Lua.read?, hps, Option.bind_some, hf]

/-- A tree with a quote, a parenthesis and a connective within a text. -/
def eveningTree : Group where
  operator := .given "AND"
  conditions := some [
    .leaf ⟨.given "!=", .given (.text "off\" or ("), true, .globalVariable (.given "mode")⟩,
    .group (.given "OR") [
      .leaf ⟨.given ">=", .absent, true, .sunPosition (.given "sunset") .absent⟩,
      .leaf ⟨.given "==", .given (.bool true), true, .globalVariable (.given "dark")⟩]]

/-- The text of the evening tree. -/
def eveningText : String :=
  "fibaro.getGlobalVariable(\"mode\") ~= \"off\\\" or (\" and " ++
    "((os.date(\"*t\").hour * 60 + os.date(\"*t\").min) >= " ++
    "(function() local h,m = string.match(fibaro.getValue(1, \"sunsetHour\"), \"(%d+):(%d+)\") " ++
    "return tonumber(h)*60 + tonumber(m) + 0 end)() " ++
    "or (fibaro.getGlobalVariable(\"dark\") == \"true\"))"

theorem eveningTree_meaning :
    (∀ leaf ∈ eveningTree.leaves, leaf.subject.kind ≠ .custom) ∧
      eveningTree.compile 2 = .ok eveningText ∧
      ∃ f, Lua.read? eveningText = some f ∧ ∀ truth,
        eveningTree.holds? truth = some (f.eval truth) :=
  have hcustom : ∀ leaf ∈ eveningTree.leaves, leaf.subject.kind ≠ .custom := by decide
  have htext : eveningTree.compile 2 = .ok eveningText :=
    ok_of_toOption_eq_some (by decide +kernel)
  ⟨hcustom, htext, compile_preserves_meaning hcustom htext⟩

end HomeScenes.Condition
