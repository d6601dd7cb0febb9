import HomeScenes.Proofs.Condition.DepthDefects
import HomeScenes.Proofs.Number.Numeral

/-!
# What a report covers

  A report is one list of errors and one of warnings, put together on a walk over the tree.  This
  file says which node every line of it comes from (`report_covers_tree`).

  1. **The nodes** are named by their places, the positions that lead to them from the root
     (`Node.at?`).  The walk reaches the nodes all of whose groups are within the limit, each
     once, in the order of their places: a group before its children, and the children from left
     to right (`Traversal`).

  2. **The lines** of a node are those that are reported of it alone: for a leaf what the check of
     the leaf says when nothing is around it, for a group the defects of the group itself
     (`Node.ownErrors`).

  3. **The crux** is `findings_listed`: what the walk finds is what it finds of each visited node,
     one visit after another.  The walk and the visits are followed by one induction on the tree.

  That a line tells its node apart from every other needs `placeText_injective`: the digits of a
  position end at the bracket, so places that read the same are the same.
-/

namespace HomeScenes.Condition

/-! ## Places -/

/-- What follows the first step of a place. -/
def furtherSteps (path : List Nat) : List Char :=
  if path.isEmpty then [] else '.' :: (placeText path).toList

/-- The text of a place, from its first step on. -/
theorem toList_placeText_cons (i : Nat) (path : List Nat) :
    (placeText (i :: path)).toList =
      "conditions[".toList ++ (Nat.toDigits 10 i ++ ']' :: furtherSteps path) := by
  have hstep : ("conditions[" ++ i.repr ++ "]").toList =
      "conditions[".toList ++ (Nat.toDigits 10 i ++ [']']) := by
    rw [String.toList_append, String.toList_append, Nat.toList_repr, List.append_assoc]
    rfl
  cases path with
  | nil =>
    rw [placeText, List.map_singleton, String.intercalate_singleton, hstep]
    rfl
  | cons j rest =>
    have hrest : furtherSteps (j :: rest) = '.' :: (placeText (j :: rest)).toList := rfl
    rw [hrest, placeText, placeText, List.map_cons, List.map_cons, String.intercalate_cons_cons,
      String.toList_append, String.toList_append, hstep]
    simp

/-- The digits of a position end at the bracket. -/
theorem takeWhile_position (i : Nat) (rest : List Char) :
    (Nat.toDigits 10 i ++ ']' :: rest).takeWhile Char.isDigit = Nat.toDigits 10 i := by
  have hdigits : ∀ c ∈ Nat.toDigits 10 i, c.isDigit = true := fun c hc => isDigit_of_mem_toDigits hc
  rw [List.takeWhile_append_of_pos hdigits, List.takeWhile_cons_of_neg (by decide), List.append_nil]

/-- **Places that read the same are the same.**  By induction on one of them: the first steps
    agree in their digits, and then what follows agrees. -/
theorem placeText_injective {p q : List Nat} (h : placeText p = placeText q) : p = q := by
  induction p generalizing q with
  | nil =>
    cases q with
    | nil => rfl
    | cons j q =>
      have hchars := congrArg String.toList h
      rw [toList_placeText_cons] at hchars
      cases hchars
  | cons i p ih =>
    cases q with
    | nil =>
      have hchars := congrArg String.toList h
      rw [toList_placeText_cons] at hchars
      cases hchars
    | cons j q =>
      have hchars := congrArg String.toList h
      rw [toList_placeText_cons, toList_placeText_cons] at hchars
      have hafter := List.append_cancel_left hchars
      have hdigits : Nat.toDigits 10 i = Nat.toDigits 10 j := by
        rw [← takeWhile_position i (furtherSteps p), hafter, takeWhile_position]
      have hi : i = j := calc
        i = Nat.ofDigitChars 10 (Nat.toDigits 10 i) 0 := Nat.ofDigitChars_ten_toDigits.symm
        _ = Nat.ofDigitChars 10 (Nat.toDigits 10 j) 0 := by rw [hdigits]
        _ = j := Nat.ofDigitChars_ten_toDigits
      rw [hdigits] at hafter
      have hfurther : furtherSteps p = furtherSteps q :=
        (List.cons.inj (List.append_cancel_left hafter)).2
      have hpq : p = q := by
        cases p with
        | nil =>
          cases q with
          | nil => rfl
          | cons k q => cases hfurther
        | cons m p =>
          cases q with
          | nil => cases hfurther
          | cons k q => exact ih (String.toList_inj.mp (List.cons.inj hfurther).2)
      rw [hi, hpq]

/-- **A line about a node**: its place comes first, unless it is the root. -/
def located (path : List Nat) (message : String) : String :=
  if path = [] then message else placeText path ++ ": " ++ message

/-- A line is the wording of its note, at its place. -/
theorem Finding.line_eq (path : List Nat) (note : Note) :
    Finding.line ⟨path, note⟩ = located path note.wording := by
  cases path with
  | nil => rfl
  | cons i path => rfl

/-! ## Visits -/

/-- **The node at a place**, if there is one. -/
def Node.at? : Node → List Nat → Option Node
  | node, [] => some node
  | .leaf _, _ :: _ => none
  | .group _ children, i :: path => children[i]?.bind fun child => child.at? path

/-- The node at a place of a condition tree. -/
def Group.at? (g : Group) (path : List Nat) : Option Node :=
  (Node.group g.operator g.children).at? path

/-- A node that the walk comes to, and its place. -/
structure Visit where
  path : List Nat
  node : Node

/-- A visit below the child at position `i`, as seen from its parent. -/
def Visit.under (i : Nat) (v : Visit) : Visit :=
  ⟨i :: v.path, v.node⟩

mutual

/-- **The visits** below a node that stands at some depth, with their places from there. -/
def Node.visits (limit : Int) (depth : Nat) : Node → List Visit
  | .leaf l => [⟨[], .leaf l⟩]
  | .group operator children =>
    ⟨[], .group operator children⟩ ::
      if limit < depth then [] else visitsFrom limit (depth + 1) 0 children

/-- The visits of children from position `i` on. -/
def visitsFrom (limit : Int) (depth i : Nat) : List Node → List Visit
  | [] => []
  | node :: rest =>
    (node.visits limit depth).map (Visit.under i) ++ visitsFrom limit depth (i + 1) rest

end

/-- The visits of a condition tree. -/
def Group.visits (limit : Int) (g : Group) : List Visit :=
  (Node.group g.operator g.children).visits limit 1

mutual

/-- **Which nodes are visited**: those below that are within the limit, or whose parent is. -/
theorem Node.mem_visits_iff {limit : Int} : ∀ {node : Node} {depth : Nat} {v : Visit},
    v ∈ node.visits limit depth ↔
      node.at? v.path = some v.node ∧ (v.path = [] ∨ (depth + v.path.length : Int) ≤ limit + 1)
  | .leaf l, depth, ⟨path, other⟩ => by
    rw [Node.visits, List.mem_singleton]
    cases path with
    | nil => simp [Node.at?, eq_comm]
    | cons i path => simp [Node.at?]
  | .group operator children, depth, ⟨path, other⟩ => by
    rw [Node.visits, List.mem_cons]
    cases path with
    | nil =>
      -- below the group every place has a first step
      have hbelow : (⟨[], other⟩ : Visit) ∉
          (if limit < depth then [] else visitsFrom limit (depth + 1) 0 children) := by
        split
        · exact List.not_mem_nil
        · rw [mem_visitsFrom_iff]
          rintro ⟨k, child, rest, hpath, _⟩
          cases hpath
      simp [hbelow, Node.at?, eq_comm]
    | cons i path =>
      have hhead : (⟨i :: path, other⟩ : Visit) ≠ ⟨[], .group operator children⟩ := by
        intro h
        cases h
      simp only [hhead, false_or, Node.at?, List.length_cons, reduceCtorEq]
      by_cases hdepth : limit < depth
      · rw [if_pos hdepth]
        constructor
        · intro h
          cases h
        · rintro ⟨_, hlength⟩
          omega
      · rw [if_neg hdepth, mem_visitsFrom_iff]
        constructor
        · rintro ⟨k, child, rest, hpath, hchild, hat, hlength⟩
          obtain ⟨hi, rfl⟩ := List.cons.inj hpath
          rw [Nat.zero_add] at hi
          refine ⟨Option.bind_eq_some_iff.mpr ⟨child, hi ▸ hchild, hat⟩, ?_⟩
          rcases hlength with rfl | hlength
          · rw [List.length_nil]
            omega
          · omega
        · rintro ⟨hat, hlength⟩
          obtain ⟨child, hchild, hat⟩ := Option.bind_eq_some_iff.mp hat
          refine ⟨i, child, path, by rw [Nat.zero_add], hchild, hat, Or.inr ?_⟩
          omega

/-- **Which nodes are visited**: all those that a path leads to within the limit. -/
theorem mem_visitsFrom_iff {limit : Int} : ∀ {nodes : List Node} {depth i : Nat} {v : Visit},
    v ∈ visitsFrom limit depth i nodes ↔
      ∃ k child rest, v.path = (i + k) :: rest ∧ nodes[k]? = some child ∧
        child.at? rest = some v.node ∧ (rest = [] ∨ (depth + rest.length : Int) ≤ limit + 1)
  | [], depth, i, v => by
    rw [visitsFrom]
    simp
  | node :: nodes, depth, i, v => by
    rw [visitsFrom, List.mem_append, List.mem_map, mem_visitsFrom_iff]
    constructor
    · rintro (⟨w, hw, rfl⟩ | ⟨k, child, rest, hpath, hchild, hat⟩)
      · exact ⟨0, node, w.path, rfl, rfl, Node.mem_visits_iff.mp hw⟩
      · exact ⟨k + 1, child, rest, by rw [hpath]; congr 1; omega, hchild, hat⟩
    · rintro ⟨k, child, rest, hpath, hchild, hat⟩
      cases k with
      | zero =>
        refine Or.inl ⟨⟨rest, v.node⟩, ?_, ?_⟩
        · rw [← Option.some.inj hchild] at hat
          exact Node.mem_visits_iff.mpr hat
        · cases v with
          | mk path other =>
            cases hpath
            rfl
      | succ k => exact Or.inr ⟨k, child, rest, by rw [hpath]; congr 1; omega, hchild, hat⟩

end

/-- One visit comes before another: its place is first in the order of places, in which a group
    stands before everything below it. -/
def Visit.Before (v w : Visit) : Prop :=
  List.Lex (fun i j => i < j) v.path w.path

mutual

/-- **The order of the visits** is that of their places, so that none of them is made twice. -/
theorem Node.visits_ordered {limit : Int} : ∀ (node : Node) (depth : Nat),
    (node.visits limit depth).Pairwise Visit.Before
  | .leaf l, depth => List.pairwise_singleton _ _
  | .group operator children, depth => by
    rw [Node.visits, List.pairwise_cons]
    split
    · exact ⟨List.forall_mem_nil _, List.Pairwise.nil⟩
    · refine ⟨?_, visitsFrom_ordered children (depth + 1) 0⟩
      intro w hw
      obtain ⟨k, child, rest, hpath, _⟩ := mem_visitsFrom_iff.mp hw
      rw [Visit.Before, hpath]
      exact .nil

/-- Visits come in the order of their paths. -/
theorem visitsFrom_ordered {limit : Int} : ∀ (nodes : List Node) (depth i : Nat),
    (visitsFrom limit depth i nodes).Pairwise Visit.Before
  | [], depth, i => List.Pairwise.nil
  | node :: nodes, depth, i => by
    rw [visitsFrom, List.pairwise_append, List.pairwise_map]
    refine ⟨?_, visitsFrom_ordered nodes depth (i + 1), ?_⟩
    · refine (Node.visits_ordered node depth).imp ?_
      intro v w hvw
      exact .cons hvw
    · -- what comes from a later child differs in the first step already
      intro v hv w hw
      obtain ⟨own, _, rfl⟩ := List.mem_map.mp hv
      obtain ⟨k, child, rest, hpath, _⟩ := mem_visitsFrom_iff.mp hw
      rw [Visit.Before, hpath]
      exact .rel (by omega)

end

/-! ## What is found of each node -/

section Walk

variable [Stack]

/-- The notes on a node itself, at its depth. -/
def Node.ownNotes (limit : Int) (depth : Nat) : Node → Notes
  | .leaf l => l.notes
  | .group operator children =>
    if limit < depth then noted (.defect (.tooDeep limit)) else .ok (groupNotes operator children)

/-- **Findings collected visit by visit**, below a node at some depth and place: the notes on each
    node in turn, up to the first visit that stops the check. -/
def collect (limit : Int) (depth : Nat) (place : List Nat) :
    List Visit → Except Stop (List Finding)
  | [] => .ok []
  | v :: rest => do
    let notes ← v.node.ownNotes limit (depth + v.path.length)
    let more ← collect limit depth place rest
    return notes.map (Finding.mk (place ++ v.path)) ++ more

section Collect

variable {limit : Int} {depth : Nat} {place : List Nat}

/-- Collecting over a list of visits goes part by part. -/
theorem collect_append (x y : List Visit) :
    collect limit depth place (x ++ y) = (do
      let a ← collect limit depth place x
      let b ← collect limit depth place y
      return a ++ b) := by
  induction x with
  | nil =>
    rw [List.nil_append, collect]
    cases collect limit depth place y <;> rfl
  | cons v rest ih =>
    rw [List.cons_append, collect, collect, ih]
    simp only [bind_assoc, pure_bind, List.append_assoc]

/-- What is collected below a child is collected below its parent, one step further away. -/
theorem collect_under (i : Nat) (x : List Visit) :
    collect limit depth place (x.map (Visit.under i)) =
      collect limit (depth + 1) (place ++ [i]) x := by
  induction x with
  | nil => rfl
  | cons v rest ih =>
    have hplace : place ++ (v.under i).path = place ++ [i] ++ v.path := by
      rw [List.append_assoc]
      rfl
    have hdepth : depth + (v.under i).path.length = depth + 1 + v.path.length := by
      rw [Visit.under, List.length_cons]
      omega
    rw [List.map_cons, collect, collect, ih, hplace, hdepth]
    rfl

end Collect

mutual

/-- **The walk** below a node collects the findings visit by visit.  By induction on the tree,
    along the functions that walk over it. -/
theorem Node.findings_eq_collect {limit : Int} : ∀ (node : Node) (depth : Nat) (place : List Nat),
    node.findings limit depth place = collect limit depth place (node.visits limit depth)
  | .leaf l, depth, place => by
    rw [Node.findings, Node.visits, collect, collect, List.append_nil]
    simp only [Node.ownNotes]
    cases l.notes with
    | error why => rfl
    | ok notes => exact congrArg Except.ok (List.append_nil _).symm
  | .group operator children, depth, place => by
    rw [Node.findings, Node.visits, collect, List.append_nil]
    simp only [Node.ownNotes, List.length_nil, Nat.add_zero]
    by_cases hdepth : limit < depth
    · simp only [if_pos hdepth, collect]
      cases noted (.defect (.tooDeep limit)) with
      | error why => rfl
      | ok notes => exact congrArg Except.ok (List.append_nil _).symm
    · simp only [if_neg hdepth]
      rw [findingsFrom_eq_collect children depth place 0]
      rfl

/-- All children of a group, from position `i` on. -/
theorem findingsFrom_eq_collect {limit : Int} :
    ∀ (nodes : List Node) (depth : Nat) (place : List Nat) (i : Nat),
      findingsFrom limit (depth + 1) place i nodes =
        collect limit depth place (visitsFrom limit (depth + 1) i nodes)
  | [], depth, place, i => by rw [findingsFrom, visitsFrom, collect]
  | node :: nodes, depth, place, i => by
    rw [findingsFrom, visitsFrom, collect_append, collect_under,
      Node.findings_eq_collect node (depth + 1) (place ++ [i]),
      findingsFrom_eq_collect nodes depth place (i + 1)]

end

/-- The findings of a condition tree are collected along its visits. -/
theorem Group.findings_eq_collect (limit : Int) (g : Group) :
    g.findings limit = collect limit 1 [] (g.visits limit) :=
  Node.findings_eq_collect _ 1 []

end Walk

/-! ## The lines of a node -/

/-- **The errors of a node on its own**: those of a leaf that is checked alone; of a group beyond
    the limit that it is too deep; and of any other group that it has no connective or no
    children. -/
def Node.ownErrors [Stack] (limit : Int) (depth : Nat) : Node → List String
  | .leaf l => (Candidate.leaf l).check.toOption.elim [] Report.errors
  | .group operator children =>
    if limit < depth then ["ConditionGroup nesting exceeds maximum depth of " ++ limit.repr]
    else
      (if operator = .given "AND" ∨ operator = .given "OR" then []
        else ["ConditionGroup must have operator 'AND' or 'OR'"]) ++
      (if children.isEmpty then ["ConditionGroup must have at least one condition"] else [])

/-- **The warnings of a node on its own**: one for a fragment of code that is not empty. -/
def Node.ownWarnings : Node → List String
  | .leaf ⟨_, _, _, .custom slot⟩ =>
    if (nonEmpty? slot).isSome then
      ["custom condition Lua is embedded verbatim without sanitization"] else []
  | _ => []

/-- The messages of those notes that are problems, or of those that are not. -/
def messages (problems : Bool) (notes : List Note) : List String :=
  (notes.filter fun note => note.isProblem == problems).map Note.wording

/-- The lines of those findings that are problems, or of those that are not. -/
def linesOf (problems : Bool) (found : List Finding) : List String :=
  (found.filter fun finding => finding.note.isProblem == problems).map Finding.line

/-- The errors of a report are the lines of the problems. -/
theorem Report.errors_ofFindings (found : List Finding) :
    (Report.ofFindings found).errors = linesOf true found := by
  simp [Report.ofFindings, Report.of, linesOf]

/-- The warnings are the lines of all other notes. -/
theorem Report.warnings_ofFindings (found : List Finding) :
    (Report.ofFindings found).warnings = linesOf false found := by
  simp [Report.ofFindings, Report.of, linesOf]

theorem messages_append (problems : Bool) (x y : List Note) :
    messages problems (x ++ y) = messages problems x ++ messages problems y := by
  rw [messages, List.filter_append, List.map_append]
  rfl

theorem linesOf_append (problems : Bool) (x y : List Finding) :
    linesOf problems (x ++ y) = linesOf problems x ++ linesOf problems y := by
  rw [linesOf, List.filter_append, List.map_append]
  rfl

/-- The findings at one place are its messages, located there. -/
theorem linesOf_map (problems : Bool) (path : List Nat) (notes : List Note) :
    linesOf problems (notes.map (Finding.mk path)) =
      (messages problems notes).map (located path) := by
  have hline : Finding.line ∘ Finding.mk path = located path ∘ Note.wording :=
    funext fun note => Finding.line_eq path note
  rw [linesOf, messages, List.filter_map, List.map_map, List.map_map, hline]
  rfl

theorem located_root (lines : List String) : lines.map (located []) = lines :=
  List.map_id lines

/-- A test that fails gives the message of its defect. -/
theorem messages_noteUnless (test : Bool) (defect : Defect) :
    messages true (noteUnless test defect) = if test then [] else [defect.wording] := by
  cases test with
  | true => rfl
  | false => rfl

/-- There are two connectives. -/
theorem Connective.isSome_ofSlot?_iff {operator : Slot String} :
    (Connective.ofSlot? operator).isSome = true ↔ operator = .given "AND" ∨
      operator = .given "OR" := by
  constructor
  · intro h
    unfold Connective.ofSlot? at h
    split at h
    · exact Or.inl rfl
    · exact Or.inr rfl
    · cases h
  · rintro (rfl | rfl)
    · rfl
    · rfl

/-- The report of a leaf on its own, from its notes. -/
theorem Candidate.check_leaf [Stack] {leaf : Leaf} {notes : List Note}
    (h : leaf.notes = .ok notes) :
    (Candidate.leaf leaf).check = .ok (Report.ofFindings (notes.map (Finding.mk []))) := by
  rw [Candidate.check, Candidate.notes, h]
  rfl

/-- A note that is made stands alone. -/
theorem eq_of_noted [Stack] {note : Note} {notes : List Note} (h : noted note = .ok notes) :
    notes = [note] := by
  rw [noted] at h
  split at h
  · cases h
  · exact (Except.ok.inj h).symm

/-- **The errors of a node** are its notes that are problems. -/
theorem Node.ownErrors_eq [Stack] {limit : Int} {depth : Nat} {node : Node} {notes : List Note}
    (h : node.ownNotes limit depth = .ok notes) : node.ownErrors limit depth =
    messages true notes := by
  cases node with
  | leaf l =>
    have hnotes : l.notes = .ok notes := h
    rw [Node.ownErrors, Candidate.check_leaf hnotes]
    show (Report.ofFindings (notes.map (Finding.mk []))).errors = messages true notes
    rw [Report.errors_ofFindings, linesOf_map, located_root]
  | group operator children =>
    rw [Node.ownNotes] at h
    rw [Node.ownErrors]
    by_cases hdepth : limit < depth
    · rw [if_pos hdepth] at h
      rw [if_pos hdepth, eq_of_noted h]
      rfl
    · rw [if_neg hdepth] at h
      rw [if_neg hdepth, ← Except.ok.inj h, groupNotes, messages_append, messages_noteUnless,
        messages_noteUnless]
      simp only [Connective.isSome_ofSlot?_iff]
      congr 1
      cases children with
      | nil => rfl
      | cons child rest => rfl

theorem foreign_warning : Foreign fun note => !note.isProblem :=
  ⟨fun _ => rfl, fun _ _ => rfl⟩

/-- Where no note is a warning there are no warnings. -/
theorem messages_false_eq_nil {notes : List Note} (h : ∀ note ∈ notes, (!note.isProblem) = false) :
    messages false notes = [] := by
  have hnone : notes.filter (fun note => note.isProblem == false) = [] := by
    rw [List.filter_eq_nil_iff]
    intro note hmem
    have hproblem := h note hmem
    rw [Bool.not_eq_false'] at hproblem
    rw [hproblem]
    exact Bool.false_ne_true
  rw [messages, hnone]
  rfl

/-- The warnings of a leaf: only a fragment of code has one. -/
theorem Leaf.ownWarnings_eq [Stack] {leaf : Leaf} {notes : List Note} (h : leaf.notes = .ok notes) :
    (Node.leaf leaf).ownWarnings = messages false notes := by
  by_cases hcode : ∃ slot code, leaf.subject = .custom slot ∧ nonEmpty? slot = some code
  · obtain ⟨slot, code, hs, hslot⟩ := hcode
    have hwarned : notes = noteOperator (leaf.operator.toValue .text) ++ [.embeddedCode] := by
      rw [Leaf.notes, Leaf.noteSubject, hs] at h
      simp only [hslot] at h
      exact (Except.ok.inj h).symm
    have hoperator : messages false (noteOperator (leaf.operator.toValue .text)) = [] :=
      messages_false_eq_nil (noteUnless_unmentioned rfl)
    rw [hwarned, messages_append, hoperator]
    obtain ⟨operator, value, tagged, subject⟩ := leaf
    rw [show subject = .custom slot from hs, Node.ownWarnings, hslot]
    rfl
  · -- without such a fragment all the notes are problems
    have hproblems := leaf.unmentioned_notes foreign_warning
      (fun slot code hs hslot => absurd ⟨slot, code, hs, hslot⟩ hcode) notes h
    rw [messages_false_eq_nil hproblems]
    obtain ⟨operator, value, tagged, subject⟩ := leaf
    cases subject with
    | custom slot =>
      cases hslot : nonEmpty? slot with
      | none =>
        rw [Node.ownWarnings, hslot]
        rfl
      | some code => exact absurd ⟨slot, code, rfl, hslot⟩ hcode
    | deviceState | globalVariable | time | sunPosition | unknown => rfl

/-- **The warnings of a node** are its notes that are no problems. -/
theorem Node.ownWarnings_eq [Stack] {limit : Int} {depth : Nat} {node : Node} {notes : List Note}
    (h : node.ownNotes limit depth = .ok notes) : node.ownWarnings = messages false notes := by
  cases node with
  | leaf l => exact Leaf.ownWarnings_eq h
  | group operator children =>
    rw [Node.ownNotes] at h
    by_cases hdepth : limit < depth
    · rw [if_pos hdepth] at h
      rw [eq_of_noted h]
      rfl
    · rw [if_neg hdepth] at h
      rw [← Except.ok.inj h, groupNotes, messages_append,
        messages_false_eq_nil (noteUnless_unmentioned rfl),
        messages_false_eq_nil (noteUnless_unmentioned rfl)]
      rfl

/-! ## Reports -/

section Collect

variable [Stack] {limit : Int} {depth : Nat} {place : List Nat}

/-- Where all findings are collected, every node that was visited could be checked. -/
theorem checked_of_collect {visits : List Visit} {found : List Finding}
    (h : collect limit depth place visits = .ok found) :
    ∀ v ∈ visits, ∃ notes, v.node.ownNotes limit (depth + v.path.length) = .ok notes := by
  induction visits generalizing found with
  | nil => exact List.forall_mem_nil _
  | cons v rest ih =>
    obtain ⟨notes, hnotes, h⟩ := bind_eq_ok_iff.mp h
    obtain ⟨more, hmore, _⟩ := bind_eq_ok_iff.mp h
    exact List.forall_mem_cons.mpr ⟨⟨notes, hnotes⟩, ih hmore⟩

/-- **The lines of what is collected**: those of each visited node in turn, located at its place. -/
theorem linesOf_collect {problems : Bool} {visits : List Visit} {found : List Finding}
    (own : Nat → Node → List String)
    (hown : ∀ {depth : Nat} {node : Node} {notes : List Note},
      node.ownNotes limit depth = .ok notes → own depth node = messages problems notes)
    (h : collect limit depth place visits = .ok found) :
    linesOf problems found = visits.flatMap fun v =>
      (own (depth + v.path.length) v.node).map (located (place ++ v.path)) := by
  induction visits generalizing found with
  | nil =>
    rw [← Except.ok.inj h]
    rfl
  | cons v rest ih =>
    obtain ⟨notes, hnotes, h⟩ := bind_eq_ok_iff.mp h
    obtain ⟨more, hmore, hfound⟩ := bind_eq_ok_iff.mp h
    rw [pure_eq_ok_iff.mp hfound, List.flatMap_cons, linesOf_append, linesOf_map, ih hmore,
      hown hnotes]

end Collect

/-- **A traversal** of a condition tree: the nodes whose groups are all within the limit, each
    once, in the order of their places.  The groups that a node lies in have the depths from 1 to
    the length of its place. -/
structure Traversal (limit : Int) (g : Group) (visits : List Visit) : Prop where
  ordered : visits.Pairwise Visit.Before
  mem_iff : ∀ path node, ⟨path, node⟩ ∈ visits ↔
    g.at? path = some node ∧ ∀ depth : Nat, 1 ≤ depth → depth ≤ path.length → (depth : Int) ≤ limit

/-- **A report covers a tree**: there is a traversal of the tree such that its leaves can all be
    checked on their own, and the report has the lines of each visited node in turn, and no
    other. -/
structure Report.Covers [Stack] (report : Report) (limit : Int) (g : Group)
    (visits : List Visit) : Prop where
  traversal : Traversal limit g visits
  checked : ∀ v ∈ visits, ∀ leaf, v.node = .leaf leaf → ∃ own, (Candidate.leaf leaf).check = .ok own
  errors : report.errors = visits.flatMap fun v =>
    (v.node.ownErrors limit (1 + v.path.length)).map (located v.path)
  warnings : report.warnings = visits.flatMap fun v => v.node.ownWarnings.map (located v.path)
  valid : report.valid = report.errors.isEmpty

/-- **The visits of a tree** are a traversal of it. -/
theorem Group.traversal_visits (limit : Int) (g : Group) : Traversal limit g (g.visits limit) := by
  refine ⟨Node.visits_ordered _ 1, ?_⟩
  intro path node
  rw [Group.visits, Node.mem_visits_iff, Group.at?]
  refine and_congr_right fun _ => ?_
  constructor
  · rintro (hpath | hlength) depth hpos hdepth
    · rw [show path = [] from hpath, List.length_nil] at hdepth
      omega
    · have hlength : (1 + path.length : Int) ≤ limit + 1 := hlength
      omega
  · intro hgroups
    cases path with
    | nil => exact Or.inl rfl
    | cons i rest =>
      have hparent := hgroups (i :: rest).length (by rw [List.length_cons]; omega) (Nat.le_refl _)
      refine Or.inr ?_
      show ((1 : Nat) + (i :: rest).length : Int) ≤ limit + 1
      omega

/-- **A report covers its tree.**  Whenever the check of a condition tree comes to its end, the
    errors and the warnings are those of the nodes of the tree, each with the place of its node,
    in the order of a traversal; and no two places read the same. -/
theorem report_covers_tree [Stack] (limit : Int) (g : Group) (report : Report)
    (h : (Source.tree g).check limit = .ok report) :
    (∃ visits, report.Covers limit g visits) ∧
      ∀ p q : List Nat, placeText p = placeText q → p = q := by
  have hcheck : g.check limit = .ok report := h
  obtain ⟨found, hfound, hreport⟩ := bind_eq_ok_iff.mp hcheck
  rw [Group.findings_eq_collect] at hfound
  rw [pure_eq_ok_iff.mp hreport]
  refine ⟨⟨g.visits limit, g.traversal_visits limit, ?_, ?_, ?_, rfl⟩,
    fun p q => placeText_injective⟩
  · intro v hv leaf hleaf
    obtain ⟨notes, hnotes⟩ := checked_of_collect hfound v hv
    rw [hleaf] at hnotes
    exact ⟨_, Candidate.check_leaf hnotes⟩
  · rw [Report.errors_ofFindings, linesOf_collect (Node.ownErrors limit) Node.ownErrors_eq hfound]
    rfl
  · rw [Report.warnings_ofFindings,
      linesOf_collect (fun _ => Node.ownWarnings) Node.ownWarnings_eq hfound]
    rfl

/-- A tree with something wrong at every level: an operator that is none, a leaf without a value,
    a group beyond the limit and a fragment of code. -/
def mixedTree : Group where
  operator := .given "XOR"
  conditions := some [
    .group (.given "AND") [.leaf ⟨.given "==", .absent, true, .time⟩, .group .absent []],
    .leaf ⟨.null, .absent, true, .custom (.given "x")⟩]

/-- Its report, within the limit 2. -/
def mixedReport : Report where
  valid := false
  errors := [
    "ConditionGroup must have operator 'AND' or 'OR'",
    "conditions[0].conditions[0]: time condition requires value (timestamp)",
    "conditions[0].conditions[1]: ConditionGroup nesting exceeds maximum depth of 2",
    "conditions[1]: Invalid operator: None"]
  warnings := ["conditions[1]: custom condition Lua is embedded verbatim without sanitization"]

section

open scoped Stack

theorem mixedTree_covered :
    (Source.tree mixedTree).check 2 = .ok mixedReport ∧
    (∃ visits, mixedReport.Covers 2 mixedTree visits) ∧
    ∀ p q : List Nat, placeText p = placeText q → p = q :=
  have hcheck : (Source.tree mixedTree).check 2 = .ok mixedReport :=
    ok_of_toOption_eq_some (by decide +kernel)
  ⟨hcheck, report_covers_tree 2 mixedTree mixedReport hcheck⟩

end

end HomeScenes.Condition
