import HomeScenes.Proofs.Condition.Outline

/-!
# No injection without a warning

  A tree that the check accepts, with nothing to warn of, compiles to harmless text: whatever
  names and texts a user chose, they stay within their literals.  This has a second half about two
  runs: what stands outside of literals does not depend on those names and texts at all, so two
  trees that differ in nothing else show the same code (`accepted_is_contained`).

  The crux is that a check without findings leaves no custom fragment in the tree
  (`Leaf.not_custom_of_silent`): every other leaf is inert and shows its outline, and the outline
  of a tree is put together from those of its leaves.  Two trees with the same outline show the
  same text, so the second half needs no second induction over pairs of trees.
-/

namespace HomeScenes.Condition

open Lua (Inert Harmless inert_of_isInert endsNeutral_append)

/-! ## Trees that differ in user strings only -/

/-- A name in place of any other. -/
def maskName : Slot String → Slot String
  | .given _ => .given "_"
  | slot => slot

/-- A text in place of any other. -/
def maskValue : Slot Literal → Slot Literal
  | .given (.text _) => .given (.text "")
  | slot => slot

/-- The names in a subject masked.  A position of the sun is a choice of two, not a name. -/
def Subject.masked : Subject → Subject
  | .deviceState deviceId property => .deviceState deviceId (maskName property)
  | .globalVariable name => .globalVariable (maskName name)
  | subject => subject

/-- A leaf with the names and texts of the user masked. -/
def Leaf.masked (leaf : Leaf) : Leaf :=
  { leaf with value := maskValue leaf.value, subject := leaf.subject.masked }

mutual

/-- A node with every leaf masked. -/
def Node.masked : Node → Node
  | .leaf l => .leaf l.masked
  | .group operator children => .group operator (maskAll children)

/-- Nodes with every leaf masked. -/
def maskAll : List Node → List Node
  | [] => []
  | node :: rest => node.masked :: maskAll rest

end

/-- **A tree with the names and texts of the user masked.**  Two trees differ in nothing but those
    exactly when they are the same tree masked. -/
def Group.masked (g : Group) : Group :=
  { g with conditions := g.conditions.map maskAll }

/-! ## Outlines of trees -/

/-- What stands between the parts of a group. -/
def joinerOutline (operator : Slot String) : List Char :=
  (Connective.ofSlot? operator).elim [] fun connective => connective.joiner.toList

mutual

/-- The outline of a node. -/
def Node.outline : Node → List Char
  | .leaf l => l.outline
  | .group operator children =>
    "(".toList ++ (joinerOutline operator).intercalate (outlines children) ++ ")".toList

/-- The outlines of nodes. -/
def outlines : List Node → List (List Char)
  | [] => []
  | node :: rest => node.outline :: outlines rest

end

/-- **The outline of a condition tree.** -/
def Group.outline (g : Group) : List Char :=
  (joinerOutline g.operator).intercalate (outlines g.children)

/-- A literal shows as much of a masked value as of the value itself. -/
theorem shownLiteral_maskValue (value : Slot Literal) :
    Lua.shownLiteral ((maskValue value).toValue Literal.toValue) =
      Lua.shownLiteral (value.toValue Literal.toValue) := by
  rcases value with _ | _ | (b | n | s) <;> rfl

/-- The form of a test does not depend on what is masked. -/
theorem variableOutline_maskValue (value : Slot Literal) (operator literal : List Char) :
    variableOutline (maskValue value) operator literal =
      variableOutline value operator literal := by
  rcases value with _ | _ | (b | n | s) <;> rfl

/-- The outline of a leaf says nothing of the names and texts in it. -/
theorem Leaf.outline_masked (leaf : Leaf) : leaf.masked.outline = leaf.outline := by
  have hvalue : Lua.shownLiteral leaf.masked.valueOf = Lua.shownLiteral leaf.valueOf :=
    shownLiteral_maskValue leaf.value
  have hoperator : leaf.masked.operatorOutline = leaf.operatorOutline := rfl
  have hsubject : leaf.masked.subject = leaf.subject.masked := rfl
  rw [outline, outline, hvalue, hoperator, hsubject]
  cases leaf.subject with
  | globalVariable name => exact variableOutline_maskValue leaf.value _ _
  | deviceState | time | sunPosition | custom | unknown => rfl

mutual

/-- Masking leaves the outline of a node as it is. -/
theorem Node.outline_masked : ∀ node : Node, node.masked.outline = node.outline
  | .leaf leaf => leaf.outline_masked
  | .group operator children => by
    rw [Node.masked, Node.outline, Node.outline, outlines_maskAll children]

theorem outlines_maskAll : ∀ nodes : List Node, outlines (maskAll nodes) = outlines nodes
  | [] => rfl
  | node :: rest => by
    rw [maskAll, outlines, outlines, Node.outline_masked node, outlines_maskAll rest]

end

/-- Masking leaves the outline of a tree as it is. -/
theorem Group.outline_masked (g : Group) : g.masked.outline = g.outline := by
  have hchildren : outlines g.masked.children = outlines g.children := by
    cases hg : g.conditions with
    | none => rw [Group.children, Group.children, Group.masked, hg]; rfl
    | some nodes =>
      rw [Group.children, Group.children, Group.masked, hg]
      exact outlines_maskAll nodes
  rw [Group.outline, Group.outline, hchildren]
  rfl

/-! ## Compiled trees are inert -/

/-- Inert texts joined by a connective are inert. -/
theorem inert_intercalate (connective : Connective) {parts : List String} {outs : List (List Char)}
    (h : List.Forall₂ (fun part out => Inert true part out 0 0) parts outs) :
    Inert true (connective.joiner.intercalate parts)
      (connective.joiner.toList.intercalate outs) 0 0 := by
  have hjoiner : Inert true connective.joiner connective.joiner.toList 0 0 := by
    cases connective <;> exact inert_of_isInert (by decide)
  have hstarts : Lua.startsNeutral connective.joiner.toList = true := by cases connective <;> rfl
  have hends : Lua.endsNeutral connective.joiner.toList = true := by cases connective <;> rfl
  induction h with
  | nil => exact inert_of_isInert rfl
  | @cons part out parts outs hpart hrest ih =>
    cases hrest with
    | nil =>
      rw [String.intercalate_singleton, List.intercalate_singleton]
      exact hpart
    | cons hnext hmore =>
      rw [String.intercalate_cons_cons, List.intercalate_cons_cons]
      exact (hpart.append hjoiner (Or.inr hstarts)).append ih (Or.inl (endsNeutral_append hends))

mutual

/-- **A node that compiles** is inert and shows its outline, unless there is a fragment of code in
    it.  By induction on the tree: the parentheses around a group raise the level of what is in
    it. -/
theorem Node.inert_compile {limit : Int} : ∀ {node : Node} {depth : Nat} {text : String},
    (∀ leaf ∈ node.leaves, leaf.subject.kind ≠ .custom) → node.compile limit depth = .ok text →
      Inert true text node.outline 0 0
  | .leaf leaf, depth, text, hcustom, h =>
    (leaf.inert_compile h (hcustom leaf (List.mem_singleton_self leaf))).relax
  | .group operator children, depth, text, hcustom, h => by
    obtain ⟨connective, parts, _, _, hconnective, hparts, rfl⟩ := Node.compile_group_eq_ok_iff.mp h
    have hopen : Inert true "(" "(".toList 0 1 := inert_of_isInert (by decide)
    have hclose : Inert true ")" ")".toList 1 0 := inert_of_isInert (by decide)
    have hinside := inert_intercalate connective (inert_compileNodes hcustom hparts)
    rw [Node.outline, joinerOutline, hconnective]
    exact (hopen.append hinside.raise (Or.inl rfl)).append hclose (Or.inr rfl)

/-- All parts of a group, each with its own outline. -/
theorem inert_compileNodes {limit : Int} :
    ∀ {nodes : List Node} {depth : Nat} {parts : List String},
      (∀ leaf ∈ leavesOf nodes, leaf.subject.kind ≠ .custom) →
      compileNodes limit depth nodes = .ok parts →
        List.Forall₂ (fun part out => Inert true part out 0 0) parts (outlines nodes)
  | [], depth, parts, _, h => by
    injection h with h
    rw [← h]
    exact .nil
  | node :: rest, depth, parts, hcustom, h => by
    obtain ⟨part, more, hpart, hmore, rfl⟩ := compileNodes_cons_eq_ok_iff.mp h
    obtain ⟨hnode, hrest⟩ := List.forall_mem_append.mp hcustom
    exact .cons (Node.inert_compile hnode hpart) (inert_compileNodes hrest hmore)

end

/-- **The text of a tree** without custom code has the tree's outline. -/
theorem Group.inert_compile {limit : Int} {g : Group} {text : String}
    (hcustom : ∀ leaf ∈ g.leaves, leaf.subject.kind ≠ .custom) (h : g.compile limit = .ok text) :
    Inert true text g.outline 0 0 := by
  obtain ⟨connective, parts, _, _, hconnective, hparts, rfl⟩ := Group.compile_eq_ok_iff.mp h
  rw [Group.outline, joinerOutline, hconnective]
  exact inert_intercalate connective (inert_compileNodes hcustom hparts)

/-! ## A check that finds nothing -/

/-- **Silent**: the check came to its end and found nothing, not even something to warn of. -/
def Silent {α : Type} (found : Except Stop (List α)) : Prop :=
  Clear (fun _ => true) found

/-- A check that gave a note was not silent. -/
theorem not_silent_ok {α : Type} {a : α} {rest : List α} : ¬ Silent (.ok (a :: rest)) := by
  rw [Silent, clear_ok_iff]
  intro h
  exact nomatch h a List.mem_cons_self

/-- A report without errors and warnings has no findings. -/
theorem silent_of_report {found : Except Stop (List Finding)} {report : Report}
    (h : (do let findings ← found; return Report.ofFindings findings) = .ok report)
    (hvalid : report.valid = true) (hwarnings : report.warnings = []) : Silent found := by
  obtain ⟨findings, hfound, hreport⟩ := bind_eq_ok_iff.mp h
  rw [pure_eq_ok_iff.mp hreport] at hvalid hwarnings
  rw [hfound, Silent, clear_ok_iff]
  intro finding hmem
  -- a finding is a problem or a warning, and there is neither
  have hproblem : finding.note.isProblem = false :=
    Report.ofFindings_valid_iff.mp hvalid finding hmem
  have hnone : findings.filter (fun finding => !finding.note.isProblem) = [] :=
    List.map_eq_nil_iff.mp hwarnings
  have hwarning := List.filter_eq_nil_iff.mp hnone finding hmem
  rw [hproblem] at hwarning
  exact absurd rfl hwarning

section Silent

variable [Stack]

/-- What is noted is no silence, whether it can be shown or not. -/
theorem not_silent_noted {note : Note} : ¬ Silent (noted note) := by
  rw [noted]
  split
  · exact not_clear_error
  · exact not_silent_ok

/-- A leaf about which nothing is noted holds no fragment of code: a fragment is always noted. -/
theorem Leaf.not_custom_of_silent {leaf : Leaf} (h : Silent leaf.notes) :
    leaf.subject.kind ≠ .custom := by
  rw [Leaf.notes, Silent, clear_prepend_iff] at h
  have hsubject := h.2
  rw [Leaf.noteSubject] at hsubject
  cases hs : leaf.subject with
  | custom code =>
    simp only [hs] at hsubject
    split at hsubject
    · exact absurd hsubject not_silent_ok
    · exact absurd hsubject not_silent_ok
  | deviceState | globalVariable | time | sunPosition | unknown => intro hkind; cases hkind

mutual

/-- If nothing was found in a node, nothing was found in any of its leaves. -/
theorem Node.silent_leaves {limit : Int} : ∀ {node : Node} {depth : Nat} {path : List Nat},
    Silent (node.findings limit depth path) → ∀ leaf ∈ node.leaves, Silent leaf.notes
  | .leaf leaf, depth, path, h => by
    rw [Node.findings, Silent, clear_map_iff] at h
    intro other hmem
    rw [List.mem_singleton.mp hmem]
    exact h
  | .group operator children, depth, path, h => by
    rw [Node.findings] at h
    split at h
    · rw [Silent, clear_map_iff] at h
      exact absurd h not_silent_noted
    · exact silent_leavesOf (clear_prepend_iff.mp h).2

theorem silent_leavesOf {limit : Int} :
    ∀ {nodes : List Node} {depth : Nat} {path : List Nat} {i : Nat},
    Silent (findingsFrom limit depth path i nodes) → ∀ leaf ∈ leavesOf nodes, Silent leaf.notes
  | [], depth, path, i, _ => fun leaf hmem => nomatch hmem
  | node :: rest, depth, path, i, h => by
    rw [findingsFrom, Silent, clear_append_iff] at h
    exact List.forall_mem_append.mpr ⟨Node.silent_leaves h.1, silent_leavesOf h.2⟩

end

/-- **Accepted**: the check reports the source valid, with nothing to warn of. -/
def Source.Accepted (limit : Int) (source : Source) : Prop :=
  ∃ report, source.check limit = .ok report ∧ report.valid = true ∧ report.warnings = []

/-- An accepted source has a tree without fragments of code, and the tree compiles. -/
theorem Source.Accepted.exists_tree {limit : Int} {source : Source} (h : source.Accepted limit) :
    ∃ g text, source.parse (some limit) = .ok g ∧ source.compile limit = .ok text ∧
      Inert true text g.outline 0 0 := by
  obtain ⟨report, hcheck, hvalid, hwarnings⟩ := h
  obtain ⟨text, htext⟩ := (source.compiles_iff_valid limit).mpr ⟨report, hcheck, hvalid⟩
  have hcompile := htext
  rw [Source.check] at hcheck
  rw [Source.compile] at hcompile
  cases hparse : source.parse (some limit) with
  | error why => rw [hparse] at hcompile; cases hcompile
  | ok g =>
    simp only [hparse] at hcheck hcompile
    have hsilent : Silent (g.findings limit) := silent_of_report hcheck hvalid hwarnings
    have hcustom : ∀ leaf ∈ g.leaves, leaf.subject.kind ≠ .custom :=
      fun leaf hmem => Leaf.not_custom_of_silent (Node.silent_leaves hsilent leaf hmem)
    cases hg : g.compile limit with
    | error why => rw [hg] at hcompile; cases hcompile
    | ok text' =>
      rw [hg] at hcompile
      injection hcompile with hcompile
      rw [hcompile] at hg
      exact ⟨g, text, rfl, htext, Group.inert_compile hcustom hg⟩

/-- **No injection without a warning.**  What is accepted compiles, to harmless text; and two
    sources that are accepted, within any limits, and whose trees differ in nothing but names and
    texts of the user, show the same code outside of literals. -/
theorem accepted_is_contained :
    (∀ (limit : Int) (source : Source), source.Accepted limit →
      ∃ text, source.compile limit = .ok text ∧ Harmless text) ∧
    ∀ (limit limit' : Int) (source source' : Source) (g g' : Group),
      source.Accepted limit → source'.Accepted limit' →
      source.parse (some limit) = .ok g → source'.parse (some limit') = .ok g' →
      g.masked = g'.masked →
      ∃ text text' out, source.compile limit = .ok text ∧ source'.compile limit' = .ok text' ∧
        Lua.emptied? text = some out ∧ Lua.emptied? text' = some out := by
  constructor
  · intro limit source h
    obtain ⟨_, text, _, htext, hinert⟩ := h.exists_tree
    exact ⟨text, htext, hinert.harmless⟩
  · intro limit limit' source source' g g' h h' hg hg' hmasked
    obtain ⟨tree, text, htree, htext, hinert⟩ := h.exists_tree
    obtain ⟨tree', text', htree', htext', hinert'⟩ := h'.exists_tree
    rw [htree] at hg
    rw [htree'] at hg'
    injection hg with hg
    injection hg' with hg'
    have houtline : tree.outline = tree'.outline := by
      rw [← tree.outline_masked, ← tree'.outline_masked, hg, hg', hmasked]
    refine ⟨text, text', tree.outline, htext, htext', hinert.emptied?, ?_⟩
    rw [houtline]
    exact hinert'.emptied?

end Silent

/-- A tree with a property and a text of the user. -/
def lampTree (property text : String) : Group where
  operator := .given "OR"
  conditions := some [
    .leaf ⟨.given "<", .given (.number (.int (-1))), true,
      .deviceState (.given 7) (.given property)⟩,
    .leaf ⟨.given "==", .given (.text text), true, .globalVariable (.given "mode")⟩]

section

open scoped Stack

theorem lampTree_contained :
    (Source.tree (lampTree "value" "on")).Accepted 1 ∧
    (Source.tree (lampTree "ui.level" "\") or os.exit(); --[[")).Accepted 1 ∧
    (lampTree "value" "on").masked = (lampTree "ui.level" "\") or os.exit(); --[[").masked ∧
    (∃ text, (Source.tree (lampTree "ui.level" "\") or os.exit(); --[[")).compile 1 = .ok text ∧
      Harmless text) ∧
    ∃ text text' out, (Source.tree (lampTree "value" "on")).compile 1 = .ok text ∧
      (Source.tree (lampTree "ui.level" "\") or os.exit(); --[[")).compile 1 = .ok text' ∧
      Lua.emptied? text = some out ∧ Lua.emptied? text' = some out :=
  have hplain : (Source.tree (lampTree "value" "on")).Accepted 1 :=
    ⟨.of [] [], ok_of_toOption_eq_some (by decide +kernel), rfl, rfl⟩
  have hhostile : (Source.tree (lampTree "ui.level" "\") or os.exit(); --[[")).Accepted 1 :=
    ⟨.of [] [], ok_of_toOption_eq_some (by decide +kernel), rfl, rfl⟩
  ⟨hplain, hhostile, rfl, accepted_is_contained.1 1 _ hhostile,
    accepted_is_contained.2 1 1 _ _ _ _ hplain hhostile rfl rfl rfl⟩

end

end HomeScenes.Condition
