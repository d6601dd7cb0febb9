import HomeScenes.Proofs.Condition.DepthDefects

/-!
# The limit is a threshold

  A document and the tree read from it are two forms of one thing, and the limit on nesting only
  decides whether it is looked at.  Both compile or neither does, and to the same text; they
  compile exactly when the tree is no deeper than the limit and compiles at all; the text does not
  depend on the limit.  Within the limit the reports are the same.  Beyond it the report on the
  document is the one line about its depth.

  The crux is that a walk over a tree within two limits is the same under both
  (`Node.compile_eq_of_within`, `Node.findings_eq_of_within`), and that a tree that compiles is
  within the limit (`Node.within_of_compile`).

  The two forms part at one place.  Beyond the limit a document is not looked at, but the walk
  over the tree still meets the leaves above the limit, and an integer too large to be checked
  stops it without a report (`oversizeTree_parts`).
-/

namespace HomeScenes.Condition

/-! ## Compiling within the limit -/

theorem openGroup_eq_of_within {limit limit' : Int} {level : Nat} (h : ¬ limit < level)
    (h' : ¬ limit' < level) (operator : Slot String) (children : List Node) :
    openGroup limit level operator children = openGroup limit' level operator children := by
  rw [openGroup, if_neg h, openGroup, if_neg h']

mutual

/-- **Two limits** that a node is within make no difference. -/
theorem Node.compile_eq_of_within {limit limit' : Int} : ∀ (node : Node) (level : Nat),
    Within limit level node.depth → Within limit' level node.depth →
      node.compile limit level = node.compile limit' level
  | .leaf l, _, _, _ => by rw [Node.compile, Node.compile]
  | .group operator children, level, h, h' => by
    rw [Node.depth] at h h'
    rw [Node.compile, Node.compile, openGroup_eq_of_within h.group.1 h'.group.1,
      compileNodes_eq_of_within children (level + 1) h.group.2 h'.group.2]

theorem compileNodes_eq_of_within {limit limit' : Int} : ∀ (nodes : List Node) (level : Nat),
    Within limit level (deepestNode nodes) → Within limit' level (deepestNode nodes) →
      compileNodes limit level nodes = compileNodes limit' level nodes
  | [], _, _, _ => by rw [compileNodes, compileNodes]
  | node :: rest, level, h, h' => by
    rw [deepestNode, within_max_iff] at h h'
    rw [compileNodes, compileNodes, node.compile_eq_of_within level h.1 h'.1,
      compileNodes_eq_of_within rest level h.2 h'.2]

end

mutual

/-- **A node that compiles** is within the limit: every group of it has been looked at. -/
theorem Node.within_of_compile {limit : Int} : ∀ (node : Node) (level : Nat) (text : String),
    Within limit level 0 → node.compile limit level = .ok text → Within limit level node.depth
  | .leaf l, level, text, hlevel, _ => by rw [Node.depth]; exact hlevel
  | .group operator children, level, text, _, h => by
    obtain ⟨connective, parts, hlevel, _, _, hparts, _⟩ := Node.compile_group_eq_ok_iff.mp h
    have hbelow : Within limit (level + 1) 0 := by
      simp only [Within]
      omega
    have hchildren := within_of_compileNodes children (level + 1) parts hbelow hparts
    rw [Node.depth]
    simp only [Within] at hchildren ⊢
    omega

theorem within_of_compileNodes {limit : Int} :
    ∀ (nodes : List Node) (level : Nat) (parts : List String), Within limit level 0 →
      compileNodes limit level nodes = .ok parts → Within limit level (deepestNode nodes)
  | [], level, parts, hlevel, _ => by rw [deepestNode]; exact hlevel
  | node :: rest, level, parts, hlevel, h => by
    obtain ⟨part, more, hpart, hmore, _⟩ := compileNodes_cons_eq_ok_iff.mp h
    rw [deepestNode, within_max_iff]
    exact ⟨node.within_of_compile level part hlevel hpart,
      within_of_compileNodes rest level more hlevel hmore⟩

end

/-- A condition tree compiles the same under any two limits that it is within. -/
theorem Group.compile_eq_of_le {limit limit' : Int} {g : Group} (h : (g.depth : Int) ≤ limit)
    (h' : (g.depth : Int) ≤ limit') : g.compile limit = g.compile limit' := by
  obtain ⟨hroot, hchildren⟩ := g.within_children h
  obtain ⟨hroot', hchildren'⟩ := g.within_children h'
  rw [Group.compile, Group.compile, openGroup_eq_of_within hroot hroot',
    compileNodes_eq_of_within g.children 2 hchildren hchildren']

/-- A condition tree that compiles is within the limit. -/
theorem Group.depth_le_of_compile {limit : Int} {g : Group} {text : String}
    (h : g.compile limit = .ok text) : (g.depth : Int) ≤ limit := by
  obtain ⟨connective, parts, hroot, _, _, hparts, _⟩ := Group.compile_eq_ok_iff.mp h
  have hbelow : Within limit 2 0 := by
    simp only [Within]
    omega
  have hchildren := within_of_compileNodes g.children 2 parts hbelow hparts
  rw [Group.depth]
  simp only [Within] at hchildren
  omega

/-- **A condition tree compiles** exactly when it is within the limit and compiles under some
    limit. -/
theorem Group.compile_eq_ok_iff_depth {limit : Int} {g : Group} {text : String} :
    g.compile limit = .ok text ↔
      (g.depth : Int) ≤ limit ∧ ∃ other, g.compile other = .ok text := by
  constructor
  · intro h
    exact ⟨Group.depth_le_of_compile h, limit, h⟩
  · rintro ⟨hdepth, other, h⟩
    rw [← h]
    exact Group.compile_eq_of_le hdepth (Group.depth_le_of_compile h)

/-! ## Checking within the limit -/

mutual

/-- **Two limits** that a node is within give the same findings. -/
theorem Node.findings_eq_of_within [Stack] {limit limit' : Int} :
    ∀ (node : Node) (level : Nat) (path : List Nat),
      Within limit level node.depth → Within limit' level node.depth →
        node.findings limit level path = node.findings limit' level path
  | .leaf l, _, _, _, _ => by rw [Node.findings, Node.findings]
  | .group operator children, level, path, h, h' => by
    rw [Node.depth] at h h'
    rw [Node.findings, if_neg h.group.1, Node.findings, if_neg h'.group.1,
      findingsFrom_eq_of_within children (level + 1) path 0 h.group.2 h'.group.2]

theorem findingsFrom_eq_of_within [Stack] {limit limit' : Int} :
    ∀ (nodes : List Node) (level : Nat) (path : List Nat) (i : Nat),
      Within limit level (deepestNode nodes) → Within limit' level (deepestNode nodes) →
        findingsFrom limit level path i nodes = findingsFrom limit' level path i nodes
  | [], _, _, _, _, _ => by rw [findingsFrom, findingsFrom]
  | node :: rest, level, path, i, h, h' => by
    rw [deepestNode, within_max_iff] at h h'
    rw [findingsFrom, findingsFrom, node.findings_eq_of_within level (path ++ [i]) h.1 h'.1,
      findingsFrom_eq_of_within rest level path (i + 1) h.2 h'.2]

end

/-- A condition tree is checked the same under any two limits that it is within. -/
theorem Group.check_eq_of_le [Stack] {limit limit' : Int} {g : Group} (h : (g.depth : Int) ≤ limit)
    (h' : (g.depth : Int) ≤ limit') : g.check limit = g.check limit' := by
  have hwithin : ∀ other : Int, (g.depth : Int) ≤ other →
      Within other 1 (Node.group g.operator g.children).depth := by
    intro other hother
    rw [Group.depth] at hother
    rw [Node.depth]
    simp only [Within]
    omega
  rw [Group.check, Group.check, Group.findings, Group.findings,
    Node.findings_eq_of_within _ 1 [] (hwithin limit h) (hwithin limit' h')]

/-! ## A limit that cannot be shown -/

/-- A note on the depth stops the check if the limit cannot be shown. -/
theorem noted_tooDeep [Stack] {limit : Int} {why : Value.Unshown}
    (hlimit : (Value.int limit).unshown? = some why) :
    noted (.defect (.tooDeep limit)) = .error (.unshown why) := by
  rw [noted, Note.shown, Defect.shown, hlimit]

mutual

/-- **Beyond a limit that cannot be shown** the check of a node stops, there or before. -/
theorem Node.stopped_of_beyond [Stack] {limit : Int} {why : Value.Unshown}
    (hlimit : (Value.int limit).unshown? = some why) :
    ∀ (node : Node) (level : Nat) (path : List Nat),
      Within limit level 0 → ¬ Within limit level node.depth →
        ∃ stop, node.findings limit level path = .error stop
  | .leaf l, _, _, hlevel, hbeyond => by
    rw [Node.depth] at hbeyond
    exact absurd hlevel hbeyond
  | .group operator children, level, path, _, hbeyond => by
    rw [Node.depth] at hbeyond
    rw [Node.findings]
    by_cases hlevel : limit < level
    · rw [if_pos hlevel, noted_tooDeep hlimit]
      exact ⟨_, rfl⟩
    · obtain ⟨stop, hstop⟩ := stopped_findingsFrom_of_beyond hlimit children (level + 1) path 0
        (by simp only [Within]; omega) (by simp only [Within] at hbeyond ⊢; omega)
      rw [if_neg hlevel, hstop]
      exact ⟨stop, rfl⟩

theorem stopped_findingsFrom_of_beyond [Stack] {limit : Int} {why : Value.Unshown}
    (hlimit : (Value.int limit).unshown? = some why) :
    ∀ (nodes : List Node) (level : Nat) (path : List Nat) (i : Nat),
      Within limit level 0 → ¬ Within limit level (deepestNode nodes) →
        ∃ stop, findingsFrom limit level path i nodes = .error stop
  | [], _, _, _, hlevel, hbeyond => by
    rw [deepestNode] at hbeyond
    exact absurd hlevel hbeyond
  | node :: rest, level, path, i, hlevel, hbeyond => by
    rw [deepestNode, within_max_iff] at hbeyond
    rw [findingsFrom]
    by_cases hnode : Within limit level node.depth
    · obtain ⟨stop, hstop⟩ := stopped_findingsFrom_of_beyond hlimit rest level path (i + 1) hlevel
        fun hwithin => hbeyond ⟨hnode, hwithin⟩
      rw [hstop]
      cases node.findings limit level (path ++ [i]) with
      | error first => exact ⟨first, rfl⟩
      | ok here => exact ⟨stop, rfl⟩
    · obtain ⟨stop, hstop⟩ := Node.stopped_of_beyond hlimit node level (path ++ [i]) hlevel hnode
      rw [hstop]
      exact ⟨stop, rfl⟩

end

/-- **A tree beyond a limit that cannot be shown** has no report. -/
theorem Group.stopped_of_beyond [Stack] {limit : Int} {why : Value.Unshown} {g : Group}
    (hlimit : (Value.int limit).unshown? = some why) (h : limit < g.depth) :
    ∃ stop, g.check limit = .error stop := by
  rw [Group.check, Group.findings, Node.findings]
  by_cases hroot : limit < (1 : Nat)
  · rw [if_pos hroot, noted_tooDeep hlimit]
    exact ⟨_, rfl⟩
  · rw [Group.depth] at h
    obtain ⟨stop, hstop⟩ := stopped_findingsFrom_of_beyond hlimit g.children 2 [] 0
      (by simp only [Within]; omega) (by simp only [Within]; omega)
    rw [if_neg hroot, hstop]
    exact ⟨stop, rfl⟩

/-! ## Documents and trees -/

/-- **The document of a tree** is turned away if it is too deep, and else it is read. -/
theorem Source.parse_of_read {fields : List (String × Value)} {g : Group}
    (h : Group.read (.object fields) = .good g) (limit : Int) :
    (Source.document (.object fields)).parse (some limit) =
      if limit < g.depth then .error (.tooDeep limit) else .ok g := by
  have hmirrors := ((Group.read_eq_good_iff fields g).mp h).1
  have hexceeds : Nesting.exceeds limit (.object fields) = true ↔ limit < g.depth := by
    rw [Nesting.exceeds_eq_true_iff, Group.depth_of_mirrors hmirrors]
  by_cases hdepth : limit < g.depth
  · rw [if_pos hdepth, Source.parse, Option.filter_some, if_pos (hexceeds.mpr hdepth)]
  · have hnot : ¬ Nesting.exceeds limit (.object fields) = true := fun he => hdepth (hexceeds.mp he)
    rw [if_neg hdepth, Source.parse, Option.filter_some, if_neg hnot, h]

/-- Compiling a tree as a source is compiling the tree. -/
theorem Source.compile_tree_eq_ok_iff {limit : Int} {g : Group} {text : String} :
    (Source.tree g).compile limit = .ok text ↔ g.compile limit = .ok text := by
  simp only [Source.compile, Source.parse]
  cases g.compile limit with
  | error why => simp
  | ok text' => simp

/-- **The same verdict**: two checks both report and agree on whether the tree is valid, or both
    stop. -/
def SameVerdict : Except Stop Report → Except Stop Report → Prop
  | .ok first, .ok second => first.valid = second.valid
  | .error _, .error _ => True
  | _, _ => False

/-- **One tree in two forms.**  Under a limit, the document and the tree both compile, to the same
    text, or neither does; they compile exactly when the tree is within the limit and compiles at
    all, and the text is the same under every limit.  Within the limit the checks are the same,
    whatever the limit; beyond it the report on the document is the line about its depth, or both
    checks stop because the limit cannot be shown.  After a document has been read, no depth is
    found fault with again.  The verdicts are the same unless the tree is beyond the limit, the
    limit can be shown, and the check of the tree stops. -/
structure TwoForms [Stack] (limit : Int) (fields : List (String × Value)) (g : Group) : Prop where
  compile_iff : ∀ text, (Source.document (.object fields)).compile limit = .ok text ↔
    (Source.tree g).compile limit = .ok text
  compiles_iff : (∃ text, (Source.tree g).compile limit = .ok text) ↔
    (g.depth : Int) ≤ limit ∧ ∃ other text, (Source.tree g).compile other = .ok text
  text_eq : ∀ other text text', (Source.tree g).compile limit = .ok text →
    (Source.tree g).compile other = .ok text' → text = text'
  check_within : (g.depth : Int) ≤ limit →
    (Source.document (.object fields)).check limit = (Source.tree g).check limit
  check_eq : ∀ other : Int, (g.depth : Int) ≤ limit → (g.depth : Int) ≤ other →
    (Source.tree g).check limit = (Source.tree g).check other
  check_beyond : limit < g.depth → (Value.int limit).unshown? = none →
    (Source.document (.object fields)).check limit =
      .ok ⟨false, ["ConditionGroup nesting exceeds maximum depth of " ++ limit.repr], []⟩
  check_unshown : ∀ why, limit < g.depth → (Value.int limit).unshown? = some why →
    (Source.document (.object fields)).check limit = .error (.unshown why) ∧
      ∃ stop, (Source.tree g).check limit = .error stop
  depth_settled : ∀ parsed, (Source.document (.object fields)).parse (some limit) = .ok parsed →
    Undeterred (parsed.compile limit) ∧
      Unmentioned (fun finding => finding.note.isDepth) (parsed.findings limit)
  verdict_iff : SameVerdict ((Source.document (.object fields)).check limit)
      ((Source.tree g).check limit) ↔
    ¬ (limit < g.depth ∧ (Value.int limit).unshown? = none ∧
      ∃ why, (Source.tree g).check limit = .error why)

theorem SameVerdict.refl (x : Except Stop Report) : SameVerdict x x := by
  cases x with
  | error why => exact trivial
  | ok report => rfl

/-- A tree beyond the limit is never reported to be valid. -/
theorem Group.invalid_of_beyond [Stack] {limit : Int} {g : Group} {report : Report}
    (h : limit < g.depth) (hcheck : g.check limit = .ok report) : report.valid = false := by
  cases hvalid : report.valid with
  | false => rfl
  | true =>
    obtain ⟨text, htext⟩ := (g.compiles_iff_valid limit).mpr ⟨report, hcheck, hvalid⟩
    have hle := Group.depth_le_of_compile htext
    omega

section Document

variable {fields : List (String × Value)} {g : Group} {limit : Int}
  (h : Group.read (.object fields) = .good g)
include h

/-- Within the limit a document compiles and is checked as the tree that is read from it. -/
theorem Source.document_eq_tree [Stack] (hdepth : (g.depth : Int) ≤ limit) :
    (Source.document (.object fields)).compile limit = (Source.tree g).compile limit ∧
      (Source.document (.object fields)).check limit = (Source.tree g).check limit := by
  have hparse := Source.parse_of_read h limit
  rw [if_neg (Int.not_lt.mpr hdepth)] at hparse
  rw [Source.compile, Source.check, hparse]
  exact ⟨rfl, rfl⟩

/-- Beyond the limit a document does not compile. -/
theorem Source.compile_beyond (hdepth : limit < g.depth) :
    (Source.document (.object fields)).compile limit = .error (.unreadable (.tooDeep limit)) := by
  have hparse := Source.parse_of_read h limit
  rw [if_pos hdepth] at hparse
  rw [Source.compile, hparse]

/-- Beyond the limit the report on a document is about its depth. -/
theorem Source.check_beyond [Stack] (hdepth : limit < g.depth)
    (hshown : (Value.int limit).unshown? = none) :
    (Source.document (.object fields)).check limit =
      .ok ⟨false, ["ConditionGroup nesting exceeds maximum depth of " ++ limit.repr], []⟩ := by
  have hparse := Source.parse_of_read h limit
  rw [if_pos hdepth] at hparse
  simp only [Source.check, hparse, Unreadable.lines, Defect.message, Defect.shown, hshown]
  rfl

/-- Beyond a limit that cannot be shown there is no report on a document either. -/
theorem Source.check_unshown [Stack] {why : Value.Unshown} (hdepth : limit < g.depth)
    (hlimit : (Value.int limit).unshown? = some why) :
    (Source.document (.object fields)).check limit = .error (.unshown why) := by
  have hparse := Source.parse_of_read h limit
  rw [if_pos hdepth] at hparse
  simp only [Source.check, hparse, Unreadable.lines, Defect.message, Defect.shown, hlimit]
  rfl

/-- A document compiles exactly as the tree does that is read from it. -/
theorem Source.compile_document_eq_ok_iff {text : String} :
    (Source.document (.object fields)).compile limit = .ok text ↔
      (Source.tree g).compile limit = .ok text := by
  have hparse := Source.parse_of_read h limit
  by_cases hdepth : limit < g.depth
  · rw [Source.compile_beyond h hdepth, Source.compile_tree_eq_ok_iff]
    constructor
    · intro htext; cases htext
    · intro htext
      have hle := Group.depth_le_of_compile htext
      omega
  · rw [if_neg hdepth] at hparse
    rw [Source.compile, hparse]
    rfl

/-- The verdicts differ only where the document is turned away and the check of the tree stops. -/
theorem Source.sameVerdict_iff [Stack] :
    SameVerdict ((Source.document (.object fields)).check limit) ((Source.tree g).check limit) ↔
      ¬ (limit < g.depth ∧ (Value.int limit).unshown? = none ∧
        ∃ why, (Source.tree g).check limit = .error why) := by
  by_cases hdepth : limit < g.depth
  · cases hlimit : (Value.int limit).unshown? with
    | none =>
      rw [Source.check_beyond h hdepth hlimit]
      cases hcheck : (Source.tree g).check limit with
      | error why =>
        exact ⟨fun hsame => hsame.elim, fun hnot => hnot ⟨hdepth, rfl, why, rfl⟩⟩
      | ok report =>
        refine ⟨?_, fun _ => (Group.invalid_of_beyond hdepth hcheck).symm⟩
        rintro _ ⟨_, _, why, hwhy⟩
        cases hwhy
    | some why =>
      obtain ⟨stop, hstop⟩ : ∃ stop, (Source.tree g).check limit = .error stop :=
        Group.stopped_of_beyond hlimit hdepth
      rw [Source.check_unshown h hdepth hlimit, hstop]
      refine ⟨?_, fun _ => trivial⟩
      rintro _ ⟨_, hnone, _⟩
      cases hnone
  · rw [(Source.document_eq_tree h (Int.not_lt.mp hdepth)).2]
    exact ⟨fun _ hand => hdepth hand.1, fun _ => SameVerdict.refl _⟩

end Document

/-- **A document and the tree that it describes** are one thing in two forms, and the limit is a
    threshold. -/
theorem document_and_tree_agree [Stack] {fields : List (String × Value)} {g : Group}
    (h : Group.read (.object fields) = .good g) (limit : Int) : TwoForms limit fields g := by
  refine ⟨fun text => Source.compile_document_eq_ok_iff h, ?_, ?_,
    fun hle => (Source.document_eq_tree h hle).2,
    fun _ hle hother => Group.check_eq_of_le hle hother,
    fun hdepth hshown => Source.check_beyond h hdepth hshown,
    fun why hdepth hlimit => ⟨Source.check_unshown h hdepth hlimit,
    Group.stopped_of_beyond hlimit hdepth⟩, ?_, Source.sameVerdict_iff h⟩
  · simp only [Source.compile_tree_eq_ok_iff]
    constructor
    · rintro ⟨text, htext⟩
      exact ⟨Group.depth_le_of_compile htext, limit, text, htext⟩
    · rintro ⟨hle, other, text, htext⟩
      exact ⟨text, Group.compile_eq_ok_iff_depth.mpr ⟨hle, other, htext⟩⟩
  · intro other text text' htext htext'
    rw [Source.compile_tree_eq_ok_iff] at htext htext'
    have hsame := Group.compile_eq_ok_iff_depth.mpr ⟨Group.depth_le_of_compile htext, other, htext'⟩
    exact Except.ok.inj (htext.symm.trans hsame)
  · intro parsed hparsed
    rw [Source.parse_of_read h] at hparsed
    by_cases hdepth : limit < g.depth
    · rw [if_pos hdepth] at hparsed
      cases hparsed
    · rw [if_neg hdepth] at hparsed
      rw [← Except.ok.inj hparsed]
      exact Group.depth_settled (Int.not_lt.mp hdepth)

/-- A leaf about the clock beside a group. -/
def clockDocument (stamp : Int) : List (String × Value) :=
  [("operator", .text "AND"), ("conditions", .list [
    .object [("type", .text "time"), ("operator", .text "=="), ("value", .int stamp)],
    .object [("operator", .text "OR"), ("conditions", .list [
      .object [("type", .text "time"), ("operator", .text "<"), ("value", .int 9)]])]])]

/-- The tree that the document describes. -/
def clockTree (stamp : Int) : Group :=
  ⟨.given "AND", some [
    .leaf ⟨.given "==", .given (.number (.int stamp)), true, .time⟩,
    .group (.given "OR") [.leaf ⟨.given "<", .given (.number (.int 9)), true, .time⟩]]⟩

section

open scoped Stack

theorem clockTree_agrees :
    Group.read (.object (clockDocument 5)) = .good (clockTree 5) ∧ (clockTree 5).depth = 2 ∧
      TwoForms 2 (clockDocument 5) (clockTree 5) ∧ TwoForms 1 (clockDocument 5) (clockTree 5) :=
  ⟨rfl, rfl, document_and_tree_agree rfl 2, document_and_tree_agree rfl 1⟩

/-- The least time stamp that is too large to be checked. -/
def oversizeStamp : Int := oversize

/-- The check of the tree stops at the integer, which stands above the limit. -/
theorem oversizeTree_check :
    (Source.tree (clockTree oversizeStamp)).check 1 = .error (.tooLarge {}) := by
  have hstamp : Lua.finite "time value" (.int oversizeStamp) = .error (.tooLarge {}) := by
    have hlarge : ¬ oversizeStamp.natAbs < oversize := by
      rw [oversizeStamp, Int.natAbs_natCast]
      exact Nat.lt_irrefl oversize
    rw [Lua.finite, if_neg hlarge]
  have hnotes : (Leaf.mk (.given "==") (.given (.number (.int oversizeStamp))) true .time).notes =
      .error (.tooLarge {}) := by
    simp only [Leaf.notes, Leaf.noteSubject, Leaf.noteStamp, Leaf.valueOf, Slot.toValue,
      Literal.toValue, Number.toValue, hstamp]
    rfl
  show (clockTree oversizeStamp).check 1 = _
  simp only [Group.check, Group.findings, clockTree, Group.children, Option.getD_some,
    Node.findings, findingsFrom, hnotes]
  rfl

/-- **The two forms part** under the limit one: the document is reported to be too deep, and the
    check of the tree stops. -/
theorem oversizeTree_parts :
    Group.read (.object (clockDocument oversizeStamp)) = .good (clockTree oversizeStamp) ∧
      ¬ SameVerdict ((Source.document (.object (clockDocument oversizeStamp))).check 1)
        ((Source.tree (clockTree oversizeStamp)).check 1) := by
  have hread : Group.read (.object (clockDocument oversizeStamp)) =
      .good (clockTree oversizeStamp) :=
    rfl
  refine ⟨hread, fun hsame => ?_⟩
  have hshown : (Value.int 1).unshown? = none := by decide +kernel
  exact (Source.sameVerdict_iff hread).mp hsame ⟨by decide, hshown, _, oversizeTree_check⟩

end

end HomeScenes.Condition
