import HomeScenes.Proofs.Condition.Meaning
import HomeScenes.Proofs.Lua.Code
import HomeScenes.Proofs.Lua.Joined

/-!
# Custom fragments among other conditions

  A custom fragment is any code, and it is embedded as it is: between its siblings, joined by the
  connective of the group, with no parentheses around it.  If each fragment of a tree is read as
  an expression on its own, so is the text of the tree.  But are the children of a group its
  operands then?  (A fragment that ends within a comment is not read on its own here: whatever is
  joined to it would belong to the comment.)

  They are, and the group has the value that the connective combines theirs to, unless the group
  *breaks* (`fragments_kept_iff`): it is an AND of several children, and one of them is a fragment
  with an `or` that no parentheses hide.  That `or` binds looser than the AND around it, so the
  expression falls apart there.

  Every other child is safe.  A nested group has parentheses around it, and a leaf of another kind
  has no connective at its top; the section on leaves goes through their texts for that.  What the
  join does to expressions is `Lua.joined_or` and `Lua.joined_and`.
-/

namespace HomeScenes.Condition

open Lua (Formula Piece ReadEach formula hasLooseOr)
open Lua.Code (Solid Headed Operand)

/-! ## Fragments -/

/-- The fragment of a custom leaf. -/
def Leaf.code? (leaf : Leaf) : Option String :=
  match leaf.subject with
  | .custom slot => nonEmpty? slot
  | _ => none

/-- Whether a leaf has no fragment, or one that is read as an expression on its own. -/
def Leaf.codeReads (leaf : Leaf) : Bool :=
  leaf.code?.all fun code => (Lua.Code.read? code).isSome

/-- **A loose child**: a fragment with an `or` that no parentheses hide. -/
def Node.isLoose : Node → Bool
  | .leaf l => l.code?.any fun code => (Lua.Code.piecesOf code.toList).any hasLooseOr
  | .group .. => false

/-- **A group breaks** if it is an AND of several children and one of them is loose. -/
def breaks (operator : Slot String) (children : List Node) : Bool :=
  Connective.ofSlot? operator == some .and && decide (2 ≤ children.length) &&
    children.any Node.isLoose

mutual

/-- **Whole**: no group in the node breaks. -/
def Node.isWhole : Node → Bool
  | .leaf _ => true
  | .group operator children => !breaks operator children && areWhole children

/-- No group in the nodes breaks. -/
def areWhole : List Node → Bool
  | [] => true
  | node :: rest => node.isWhole && areWhole rest

end

/-! ## Values -/

/-- The value of a leaf, its text read as any code is. -/
def Leaf.yields? (truth : List Piece → Bool) (leaf : Leaf) : Option Bool :=
  (leaf.compile.toOption.bind Lua.Code.read?).map (Formula.eval truth)

mutual

/-- **The value of a node**: a group combines the values of its children. -/
def Node.yields? (truth : List Piece → Bool) : Node → Option Bool
  | .leaf l => l.yields? truth
  | .group operator children =>
    (Connective.ofSlot? operator).bind fun connective =>
      (yieldAll? truth children).map connective.combine

/-- The values of nodes. -/
def yieldAll? (truth : List Piece → Bool) : List Node → Option (List Bool)
  | [] => some []
  | node :: rest =>
    (node.yields? truth).bind fun value => (yieldAll? truth rest).map (value :: ·)

end

/-- The operands of an expression under a connective. -/
def Connective.operands : Connective → Formula → List Formula
  | .and => Formula.conjuncts
  | .or => Formula.disjuncts

/-- **Kept whole**: the operands of the whole are those of the parts, one part after the other. -/
def KeptWhole (connective : Connective) (fs : List Formula) (f : Formula) : Prop :=
  connective.operands f = fs.flatMap connective.operands

/-- **Parts that are kept whole** give the whole its value. -/
theorem KeptWhole.eval {connective : Connective} {fs : List Formula} {f : Formula}
    (h : KeptWhole connective fs f) (truth : List Piece → Bool) :
    f.eval truth = connective.combine (fs.map (Formula.eval truth)) := by
  cases connective with
  | and =>
    have hall : f.conjuncts = fs.flatMap Formula.conjuncts := h
    rw [f.eval_conjuncts, hall, List.all_flatMap, Connective.combine, List.all_map]
    exact List.all_congr rfl fun g => (g.eval_conjuncts truth).symm
  | or =>
    have hany : f.disjuncts = fs.flatMap Formula.disjuncts := h
    rw [f.eval_disjuncts, hany, List.any_flatMap, Connective.combine, List.any_map]
    exact List.any_congr rfl fun g => (g.eval_disjuncts truth).symm

/-! ## Leaves of other kinds -/

section Texts

open Lua.Code (headed_of_isHeadedText solid_of_isFreeText solid_paren piecesOf_blank piecesOf_nil)

/-- **A comparison** is an operand: its operator is nothing that a connective could be taken for. -/
theorem operand_comparison {a b : List Char} (ha : Solid a) (c : Comparison) (hb : Solid b) :
    Operand (a ++ ' ' :: (c.lua.toList ++ ' ' :: b)) := by
  have hoperator : Headed c.lua.toList := by
    cases c <;> exact headed_of_isHeadedText (by decide)
  exact ha.operand_blank (hoperator.blank hb)

theorem solid_number {n : Number} (h : n.IsFinite) : Solid n.text.toList :=
  solid_of_isFreeText (Lua.Code.isFreeText_numeral (Number.numeral_text h))

/-- Literals are solid, whatever text they hold. -/
theorem solid_literal {v : Value} {text : String} (h : Lua.literal v = .ok text) :
    Solid text.toList :=
  solid_of_isFreeText (Lua.Code.isFreeText_literal h)

namespace Leaf

/-- The text about a device is an operand. -/
theorem operand_deviceText {id : Number} (hid : id.IsFinite) (name : String)
    (c : Comparison) {v : Value} {literal : String} (hliteral : Lua.literal v = .ok literal) :
    Operand (deviceText id name c.lua literal).toList := by
  obtain ⟨ps, hps, _⟩ := solid_number hid
  have hcomma : Lua.flatten [.plain (.mark ',')] = (Lua.markOf ',').flatMap Lua.Code.widened := rfl
  have harguments := Lua.Code.piecesOf_mark (by decide) (by decide) hcomma hps
    (piecesOf_blank piecesOf_nil (Lua.Code.piecesOf_quote name))
  have hgetter : Solid "fibaro.getValue".toList := solid_of_isFreeText (by decide)
  have htext : (deviceText id name c.lua literal).toList =
      "fibaro.getValue".toList ++ '(' :: (id.text.toList ++
        ',' :: ([] ++ ' ' :: (Lua.quote name).toList) ++ [')']) ++
        ' ' :: (c.lua.toList ++ ' ' :: literal.toList) := by
    delta deviceText
    simp only [String.toList_append, String.reduceToList, List.append_assoc, List.cons_append,
      List.nil_append]
  rw [htext]
  exact operand_comparison (hgetter.call harguments) c (solid_literal hliteral)

/-- How a variable is read out. -/
theorem solid_getter (name : String) :
    Solid ("fibaro.getGlobalVariable(" ++ Lua.quote name ++ ")").toList := by
  have hgetter : Solid "fibaro.getGlobalVariable".toList := solid_of_isFreeText (by decide)
  have htext : ("fibaro.getGlobalVariable(" ++ Lua.quote name ++ ")").toList =
      "fibaro.getGlobalVariable".toList ++ '(' :: ((Lua.quote name).toList ++ [')']) := by
    simp only [String.toList_append, String.reduceToList, List.cons_append, List.nil_append]
  rw [htext]
  exact hgetter.call (Lua.Code.piecesOf_quote name)

/-- The text about a variable is an operand, in each of its forms. -/
theorem operand_variableText {leaf : Leaf} {getter literal : String} (hgetter : Solid getter.toList)
    (c : Comparison) (hliteral : Lua.literal leaf.valueOf = .ok literal) :
    Operand (variableText leaf.value getter c.lua literal).toList := by
  have hplain : Operand (getter ++ " " ++ c.lua ++ " " ++ literal).toList := by
    simp only [String.toList_append, String.reduceToList, List.append_assoc, List.cons_append,
      List.nil_append]
    exact operand_comparison hgetter c (solid_literal hliteral)
  rcases hvalue : leaf.value with _ | _ | (b | n | s)
  · exact hplain
  · exact hplain
  · -- a truth value is compared as a text, all within parentheses
    have hbool : literal = Lua.boolText b := by
      rw [valueOf, hvalue] at hliteral
      exact (Except.ok.inj hliteral).symm
    have hquoted : Solid ("\"" ++ Lua.boolText b ++ "\"").toList := by
      cases b <;> exact solid_of_isFreeText (by decide)
    have htext : ("(" ++ getter ++ " " ++ c.lua ++ " \"" ++ literal ++ "\")").toList =
        '(' :: (getter.toList ++ ' ' :: (c.lua.toList ++ ' ' :: ("\"" ++ literal ++ "\"").toList) ++
          [')']) := by
      simp only [String.toList_append, String.reduceToList, List.append_assoc, List.cons_append,
        List.nil_append]
    show Operand ("(" ++ getter ++ " " ++ c.lua ++ " \"" ++ literal ++ "\")").toList
    rw [htext, hbool]
    exact (operand_comparison hgetter c hquoted).paren
  · -- a number is compared with the number that the variable holds
    obtain ⟨ps, hps, _⟩ := hgetter
    have hnumber : Solid "tonumber".toList := solid_of_isFreeText (by decide)
    have htext : ("tonumber(" ++ getter ++ ") " ++ c.lua ++ " " ++ literal).toList =
        "tonumber".toList ++ '(' :: (getter.toList ++ [')']) ++
          ' ' :: (c.lua.toList ++ ' ' :: literal.toList) := by
      simp only [String.toList_append, String.reduceToList, List.append_assoc, List.cons_append,
        List.nil_append]
    show Operand ("tonumber(" ++ getter ++ ") " ++ c.lua ++ " " ++ literal).toList
    rw [htext]
    exact operand_comparison (hnumber.call hps) c (solid_literal hliteral)
  · exact hplain

/-- The text about the clock is an operand. -/
theorem operand_timeText (c : Comparison) {n : Number} (hn : n.IsFinite) :
    Operand ("os.time() " ++ c.lua ++ " " ++ n.text).toList := by
  have hclock : Solid "os.time".toList := solid_of_isFreeText (by decide)
  have htext : ("os.time() " ++ c.lua ++ " " ++ n.text).toList =
      "os.time".toList ++ '(' :: ([] ++ [')']) ++
        ' ' :: (c.lua.toList ++ ' ' :: n.text.toList) := by
    simp only [String.toList_append, String.reduceToList, List.append_assoc, List.cons_append,
      List.nil_append]
  rw [htext]
  exact operand_comparison (hclock.call piecesOf_nil) c (solid_number hn)

/-- The time of day. -/
def clockCode : String :=
  "os.date(\"*t\").hour * 60 + os.date(\"*t\").min"

/-- The time of sunrise or sunset, without the offset, from the first parenthesis of its function
    on. -/
def sunCode (property : String) : String :=
  ") local h,m = string.match(fibaro.getValue(1, \"" ++ property ++
    "\"), \"(%d+):(%d+)\") return tonumber(h)*60 + tonumber(m)"

/-- The text about the sun, taken apart at its parentheses. -/
theorem toList_sunText_eq (property : String) (c : Comparison) (n : Number) :
    (sunText property c.lua n).toList =
      '(' :: (clockCode.toList ++ [')']) ++ ' ' :: (c.lua.toList ++ ' ' ::
        ('(' :: ("function".toList ++ '(' :: ((sunCode property).toList ++ ' ' ::
          ((signText n).toList ++ ' ' :: n.abs.text.toList)) ++ ' ' :: "end".toList ++ [')']) ++
            '(' :: ([] ++ [')']))) := by
  delta sunText sunCode clockCode signText
  simp only [String.toList_append, String.reduceToList, List.append_assoc, List.cons_append,
    List.nil_append]

/-- The text about the sun is an operand: its function body stays inside. -/
theorem operand_sunText {position property : String}
    (hproperty : sunProperty? position = some property)
    (c : Comparison) {n : Number} (hn : n.IsFinite) :
    Operand (sunText property c.lua n).toList := by
  -- what is fixed is read by evaluation, for each of the two properties
  have hclock : (Lua.Code.piecesOf clockCode.toList).isSome = true := by decide +kernel
  have hsun : (Lua.Code.piecesOf ('(' :: (sunCode property).toList)).isSome = true := by
    unfold sunProperty? at hproperty
    split at hproperty
    · rw [← Option.some.inj hproperty]; decide +kernel
    · rw [← Option.some.inj hproperty]; decide +kernel
    · cases hproperty
  obtain ⟨clock, hclock⟩ := Option.isSome_iff_exists.mp hclock
  obtain ⟨sun, hsun⟩ := Option.isSome_iff_exists.mp hsun
  have hsign : Solid (signText n).toList := by
    rw [signText]
    split <;> exact solid_of_isFreeText (by decide)
  obtain ⟨offset, hoffset, _⟩ := hsign.blank (solid_number (Number.isFinite_abs hn))
  have hfunction := Lua.Code.piecesOf_function (piecesOf_blank hsun hoffset)
  rw [toList_sunText_eq]
  exact operand_comparison (solid_paren hclock) c ((solid_paren hfunction).call piecesOf_nil)

/-- **A leaf that compiles** is an operand, unless it is a fragment of code. -/
theorem operand_compile {leaf : Leaf} {text : String} (h : leaf.compile = .ok text)
    (hcustom : leaf.subject.kind ≠ .custom) : Operand text.toList := by
  rw [compile] at h
  cases hs : leaf.subject with
  | deviceState deviceId property =>
    rw [hs] at h
    obtain ⟨_, name, c, n, literal, _, _, _, _, hn, _, hliteral, rfl⟩ :=
      compileDevice_eq_ok_iff.mp h
    exact operand_deviceText (Number.isFinite_of_finite hn) name c hliteral
  | globalVariable slot =>
    rw [hs] at h
    obtain ⟨name, c, literal, _, _, _, _, hliteral, rfl⟩ := compileVariable_eq_ok_iff.mp h
    exact operand_variableText (solid_getter name) c hliteral
  | time =>
    rw [hs] at h
    obtain ⟨c, n, _, _, hn, rfl⟩ := compileTime_eq_ok_iff.mp h
    exact operand_timeText c (Number.isFinite_of_finite hn)
  | sunPosition position offset =>
    rw [hs] at h
    obtain ⟨_, property, c, n, _, hproperty, _, hn, rfl⟩ := compileSun_eq_ok_iff.mp h
    exact operand_sunText hproperty c (sunOffset_finite hn).2
  | custom code => rw [hs] at hcustom; exact absurd rfl hcustom
  | unknown tag extra => rw [hs] at h; cases h

end Leaf

end Texts

/-! ## Nodes -/

/-- **A text carries a node**: it is read as an expression, it is loose exactly if the node is,
    and it has the value of the node if that is whole. -/
def Node.Carried (node : Node) (text : String) : Prop :=
  ∃ ps f, Lua.Code.piecesOf text.toList = some ps ∧ formula ps = some f ∧
    hasLooseOr ps = node.isLoose ∧
    (node.isWhole = true → ∀ truth, node.yields? truth = some (f.eval truth))

namespace Leaf

variable {leaf : Leaf} {text : String}

/-- A custom leaf compiles to its fragment. -/
theorem code?_eq_some (h : leaf.compile = .ok text) (hcustom : leaf.subject.kind = .custom) :
    leaf.code? = some text := by
  rw [compile] at h
  rw [code?]
  cases hs : leaf.subject with
  | custom slot => rw [hs] at h; exact (compileCustom_eq_ok_iff.mp h).1
  | deviceState | globalVariable | time | sunPosition | unknown => rw [hs] at hcustom; cases hcustom

/-- Only custom leaves hold code. -/
theorem code?_eq_none (hcustom : leaf.subject.kind ≠ .custom) : leaf.code? = none := by
  rw [code?]
  cases hs : leaf.subject with
  | custom slot => rw [hs] at hcustom; exact absurd rfl hcustom
  | deviceState | globalVariable | time | sunPosition | unknown => rfl

/-- The text of a leaf is read as an expression: that of a fragment by assumption, any other as an
    operand. -/
theorem exists_formula (hcode : leaf.codeReads = true) (h : leaf.compile = .ok text) :
    ∃ ps f, Lua.Code.piecesOf text.toList = some ps ∧ formula ps = some f ∧
      hasLooseOr ps = (Node.leaf leaf).isLoose := by
  by_cases hcustom : leaf.subject.kind = .custom
  · have hown := code?_eq_some h hcustom
    rw [codeReads, hown, Option.all_some, Lua.Code.read?] at hcode
    obtain ⟨f, hf⟩ := Option.isSome_iff_exists.mp hcode
    obtain ⟨ps, hps, hf⟩ := Option.bind_eq_some_iff.mp hf
    refine ⟨ps, f, hps, hf, ?_⟩
    rw [Node.isLoose, hown, Option.any_some, hps, Option.any_some]
  · obtain ⟨ps, f, hps, hunbroken, hf⟩ := operand_compile h hcustom
    refine ⟨ps, f, hps, hf, ?_⟩
    rw [Node.isLoose, code?_eq_none hcustom, Option.any_none]
    exact Lua.hasLooseOr_eq_false_iff.mpr fun p hp => (hunbroken p hp).2

/-- **A leaf that compiles** is carried by its text. -/
theorem carried (hcode : leaf.codeReads = true) (h : leaf.compile = .ok text) :
    (Node.leaf leaf).Carried text := by
  obtain ⟨ps, f, hps, hf, hloose⟩ := exists_formula hcode h
  refine ⟨ps, f, hps, hf, hloose, fun _ truth => ?_⟩
  rw [Node.yields?, Leaf.yields?, h]
  show (Lua.Code.read? text).map _ = _
  rw [Lua.Code.read?, hps, Option.bind_some, hf, Option.map_some]

end Leaf

/-- The texts of nodes, their pieces, and the expressions read from them. -/
def CarriedTogether (nodes : List Node) (parts : List String) (pss : List (List Piece))
    (fs : List Formula) : Prop :=
  List.Forall₂ (fun part ps => Lua.Code.piecesOf part.toList = some ps) parts pss ∧
    ReadEach pss fs ∧ pss.map hasLooseOr = nodes.map Node.isLoose ∧
    (areWhole nodes = true → ∀ truth, yieldAll? truth nodes = some (fs.map (Formula.eval truth)))

/-- An `and` breaks unless it has a single child or none of its children has a loose `or`. -/
theorem breaks_and_eq_false_iff {operator : Slot String} {children : List Node}
    {pss : List (List Piece)}
    (hconnective : Connective.ofSlot? operator = some .and)
    (hloose : pss.map hasLooseOr = children.map Node.isLoose) :
    breaks operator children = false ↔ pss.length < 2 ∨ ∀ ps ∈ pss, hasLooseOr ps = false := by
  have hlength : children.length = pss.length := by
    have hlengths := congrArg List.length hloose
    rw [List.length_map, List.length_map] at hlengths
    exact hlengths.symm
  have hany : children.any Node.isLoose = pss.any hasLooseOr := by
    rw [← Function.id_comp Node.isLoose, ← List.any_map, ← hloose, List.any_map, Function.id_comp]
  rw [breaks, hconnective, hlength, hany, ← Nat.not_le, ← imp_iff_not_or]
  simp

/-- **What a group is read as**, given what its children are read as. -/
theorem exists_formula_of_carried {operator : Slot String} {connective : Connective}
    (hconnective : Connective.ofSlot? operator = some connective) {children : List Node}
    (hne : children ≠ []) {parts : List String} {pss : List (List Piece)} {fs : List Formula}
    (h : CarriedTogether children parts pss fs) :
    ∃ ps f, Lua.Code.piecesOf (connective.joiner.intercalate parts).toList = some ps ∧
      formula ps = some f ∧ (KeptWhole connective fs f ↔ breaks operator children = false) ∧
      ((Node.group operator children).isWhole = true →
        ∀ truth, (Node.group operator children).yields? truth = some (f.eval truth)) := by
  obtain ⟨hpieces, hread, hloose, hvalues⟩ := h
  have hsome : pss ≠ [] := by
    rintro rfl
    exact hne (List.map_eq_nil_iff.mp hloose.symm)
  have hword : Lua.Code.piecesOf connective.letters = some [.plain connective.word] := by
    cases connective with
    | and => exact Lua.Code.piecesOf_and
    | or => exact Lua.Code.piecesOf_or
  have hjoined : ∃ f, formula ([.plain connective.word].intercalate pss) = some f ∧
      (KeptWhole connective fs f ↔ breaks operator children = false) := by
    cases connective with
    | and =>
      obtain ⟨f, hf, hkept⟩ := Lua.joined_and hread hsome
      exact ⟨f, hf, hkept.trans (breaks_and_eq_false_iff hconnective hloose).symm⟩
    | or =>
      obtain ⟨f, hf, hkept⟩ := Lua.joined_or hread hsome
      have hsafe : breaks operator children = false := by rw [breaks, hconnective]; rfl
      exact ⟨f, hf, iff_of_true hkept hsafe⟩
  obtain ⟨f, hf, hkept⟩ := hjoined
  refine ⟨_, f, pieces_joined Lua.Code.piecesOf_nil Lua.Code.piecesOf_blank hword hpieces,
    hf, hkept, ?_⟩
  intro hwhole truth
  rw [Node.isWhole, Bool.and_eq_true, Bool.not_eq_true'] at hwhole
  rw [Node.yields?, hconnective, Option.bind_some, hvalues hwhole.2, Option.map_some,
    (hkept.mpr hwhole.1).eval]

mutual

/-- **Every node that compiles is carried by its text.**  By induction on the tree: the
    parentheses of a group hide what is in it. -/
theorem Node.carried {limit : Int} : ∀ {node : Node} {depth : Nat} {text : String},
    (∀ leaf ∈ node.leaves, leaf.codeReads = true) → node.compile limit depth = .ok text →
      node.Carried text
  | .leaf leaf, depth, text, hcode, h => leaf.carried (hcode leaf (List.mem_singleton_self leaf)) h
  | .group operator children, depth, text, hcode, h => by
    obtain ⟨connective, parts, _, hne, hconnective, hparts, rfl⟩ :=
      Node.compile_group_eq_ok_iff.mp h
    obtain ⟨pss, fs, htogether⟩ := carriedTogether hcode hparts
    obtain ⟨ps, f, hps, hf, _, hvalue⟩ := exists_formula_of_carried hconnective hne htogether
    refine ⟨[.paren ps], f, ?_, (Lua.formula_paren ps).trans hf, rfl, hvalue⟩
    rw [String.toList_append, String.toList_append]
    exact Lua.Code.piecesOf_paren hps

/-- All children of a group, in their order. -/
theorem carriedTogether {limit : Int} : ∀ {nodes : List Node} {depth : Nat} {parts : List String},
    (∀ leaf ∈ leavesOf nodes, leaf.codeReads = true) → compileNodes limit depth nodes = .ok parts →
      ∃ pss fs, CarriedTogether nodes parts pss fs
  | [], depth, parts, _, h => by
    injection h with h
    rw [← h]
    exact ⟨[], [], .nil, .nil, rfl, fun _ _ => rfl⟩
  | node :: rest, depth, parts, hcode, h => by
    obtain ⟨part, more, hpart, hmore, rfl⟩ := compileNodes_cons_eq_ok_iff.mp h
    obtain ⟨hnode, hrest⟩ := List.forall_mem_append.mp hcode
    obtain ⟨ps, f, hps, hf, hloose, hvalue⟩ := Node.carried hnode hpart
    obtain ⟨pss, fs, hpieces, hread, hlooses, hvalues⟩ := carriedTogether hrest hmore
    refine ⟨ps :: pss, f :: fs, .cons hps hpieces, .cons hf hread, ?_, fun hwhole truth => ?_⟩
    · rw [List.map_cons, List.map_cons, hloose, hlooses]
    · obtain ⟨hwhole, hwholes⟩ := Bool.and_eq_true_iff.mp hwhole
      rw [yieldAll?, hvalue hwhole, Option.bind_some, hvalues hwholes, Option.map_some,
        List.map_cons]

end

/-! ## Trees -/

/-- Each part is read as an expression by itself. -/
theorem forall₂_read {parts : List String} {pss : List (List Piece)} {fs : List Formula}
    (hpieces : List.Forall₂ (fun part ps => Lua.Code.piecesOf part.toList = some ps) parts pss)
    (hread : ReadEach pss fs) :
    List.Forall₂ (fun part f => Lua.Code.read? part = some f) parts fs := by
  induction hpieces generalizing fs with
  | nil => cases hread; exact .nil
  | cons hps _ ih =>
    cases hread with
    | cons hf hread =>
      refine .cons ?_ (ih hread)
      rw [Lua.Code.read?, hps, Option.bind_some, hf]

/-- **Fragments keep their grouping unless the group breaks.**  If the fragments of a tree that
    compiles are read as expressions, so are the texts of its children and the text of the tree.
    The children are the operands of the whole, and give it its value, exactly if the group does
    not break; and if no group in the tree does, the text has the value of the tree. -/
theorem fragments_kept_iff {limit : Int} {g : Group} {text : String}
    (hcode : ∀ leaf ∈ g.leaves, leaf.codeReads = true) (h : g.compile limit = .ok text) :
    ∃ connective parts fs f, Connective.ofSlot? g.operator = some connective ∧
      compileNodes limit 2 g.children = .ok parts ∧
      List.Forall₂ (fun part f => Lua.Code.read? part = some f) parts fs ∧
        Lua.Code.read? text = some f ∧
      (KeptWhole connective fs f ↔ breaks g.operator g.children = false) ∧
      (KeptWhole connective fs f →
        ∀ truth, f.eval truth = connective.combine (fs.map (Formula.eval truth))) ∧
      ((Node.group g.operator g.children).isWhole = true →
        ∀ truth, (Node.group g.operator g.children).yields? truth = some (f.eval truth)) := by
  obtain ⟨connective, parts, _, hne, hconnective, hparts, rfl⟩ := Group.compile_eq_ok_iff.mp h
  obtain ⟨pss, fs, htogether⟩ := carriedTogether hcode hparts
  obtain ⟨ps, f, hps, hf, hkept, hvalue⟩ := exists_formula_of_carried hconnective hne htogether
  refine ⟨connective, parts, fs, f, hconnective, hparts,
    forall₂_read htogether.1 htogether.2.1, ?_, hkept, KeptWhole.eval, hvalue⟩
  rw [Lua.Code.read?, hps, Option.bind_some, hf]

/-- A custom leaf. -/
def fragmentLeaf (code : String) : Node :=
  .leaf ⟨.given "==", .absent, true, .custom (.given code)⟩

/-- A tree whose fragments have connectives, each of them hidden or in a place where it does no
    harm. -/
def hiddenTree : Group where
  operator := .given "AND"
  conditions := some [
    fragmentLeaf "f{x or y} and not z",
    fragmentLeaf "(a or b)",
    fragmentLeaf "s == \x27p or q\x27",
    fragmentLeaf "t[ [[or]] ] --[[ or ]]",
    .group (.given "OR") [
      fragmentLeaf "c or d",
      .leaf ⟨.given ">=", .given (.number (.int 8)), true, .time⟩]]

/-- The text of that tree. -/
def hiddenText : String :=
  "f{x or y} and not z and (a or b) and s == \x27p or q\x27 and t[ [[or]] ] --[[ or ]] and " ++
    "(c or d or os.time() >= 8)"

theorem hiddenTree_kept :
    (∀ leaf ∈ hiddenTree.leaves, leaf.codeReads = true) ∧ hiddenTree.compile 2 = .ok hiddenText ∧
      (Node.group hiddenTree.operator hiddenTree.children).isWhole = true ∧
      ∃ connective parts fs f, Connective.ofSlot? hiddenTree.operator = some connective ∧
        compileNodes 2 2 hiddenTree.children = .ok parts ∧
        List.Forall₂ (fun part f => Lua.Code.read? part = some f) parts fs ∧
        Lua.Code.read? hiddenText = some f ∧ KeptWhole connective fs f ∧
        (∀ truth, f.eval truth = connective.combine (fs.map (Formula.eval truth))) ∧
        ∀ truth, (Node.group hiddenTree.operator hiddenTree.children).yields? truth =
          some (f.eval truth) := by
  have hcode : ∀ leaf ∈ hiddenTree.leaves, leaf.codeReads = true :=
    List.all_eq_true.mp (by decide +kernel)
  have htext : hiddenTree.compile 2 = .ok hiddenText := ok_of_toOption_eq_some (by decide +kernel)
  have hwhole : (Node.group hiddenTree.operator hiddenTree.children).isWhole = true := by
    decide +kernel
  have hsafe : breaks hiddenTree.operator hiddenTree.children = false := by decide +kernel
  obtain ⟨connective, parts, fs, f, hconnective, hparts, hread, hf, hkept, hvalue, hvalues⟩ :=
    fragments_kept_iff hcode htext
  exact ⟨hcode, htext, hwhole, connective, parts, fs, f, hconnective, hparts, hread, hf,
    hkept.mpr hsafe, hvalue (hkept.mpr hsafe), hvalues hwhole⟩

/-- A tree with a loose fragment. -/
def looseTree : Group where
  operator := .given "AND"
  conditions := some [fragmentLeaf "a or b", fragmentLeaf "c"]

/-- Only the word `a` is true. -/
def onlyA : List Piece → Bool
  | [.plain (.word word)] => word == ['a']
  | _ => false

/-- **A loose fragment changes the value**: the AND of the two children is false, and the text is
    true. -/
theorem looseTree_broken :
    (∀ leaf ∈ looseTree.leaves, leaf.codeReads = true) ∧ looseTree.compile 1 = .ok "a or b and c" ∧
      (Node.group looseTree.operator looseTree.children).yields? onlyA = some false ∧
      (Lua.Code.read? "a or b and c").map (Formula.eval onlyA) = some true := by
  refine ⟨List.all_eq_true.mp ?_, ok_of_toOption_eq_some ?_, ?_, ?_⟩
  all_goals decide +kernel

end HomeScenes.Condition
