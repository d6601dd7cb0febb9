import HomeScenes.Condition.Nesting
import HomeScenes.Proofs.Condition.Grammar

/-!
# Three notions of depth

  How deeply groups are nested is said three times: by the walk over a document that keeps a
  stack, by recursion on the document, and by recursion on the tree that is read from it.  The
  three coincide.

  The walk and the recursion meet in `walk_eq_true_iff`: the walk finds something exactly when an
  entry of the stack, taken at the depth that it is marked with, reaches beyond the limit.  The
  document and the tree meet in `Node.depth_of_mirrors`: what the tree has as a group is what the
  document has as one.
-/

namespace HomeScenes.Condition

namespace Nesting

/-! ## The walk and the recursion -/

/-- The deepest of some values is as deep as one of them. -/
theorem lt_deepest_iff {n : Nat} {items : List Value} :
    n < deepest items ↔ ∃ v ∈ items, isGroup v = true ∧ n < depth v := by
  induction items with
  | nil => simp [deepest]
  | cons v rest ih =>
    simp only [deepest, List.mem_cons, or_and_right, exists_or, exists_eq_left, ← ih]
    by_cases h : isGroup v = true
    · rw [if_pos h]
      simp only [h, true_and]
      omega
    · rw [if_neg h]
      simp [h]

/-- The depth below an object is the one below its `conditions`. -/
theorem conditionsDepth_eq (fields : List (String × Value)) :
    conditionsDepth fields = ((Keyed.get? "conditions" fields).map listDepth).getD 0 := by
  induction fields with
  | nil => rfl
  | cons entry rest ih =>
    obtain ⟨key, v⟩ := entry
    rw [conditionsDepth, Keyed.get?]
    by_cases h : key = "conditions"
    · rw [if_pos h, if_pos h]; rfl
    · rw [if_neg h, if_neg h]; exact ih

/-- A document reaches deeper than one level exactly as far as its child groups reach. -/
theorem lt_depth_iff {n : Nat} {v : Value} :
    n + 1 < depth v ↔ ∃ child ∈ childGroups v, n < depth child := by
  cases v with
  | object fields =>
    rw [depth, conditionsDepth_eq, childGroups]
    rcases Keyed.get? "conditions" fields with _ | v
    · simp
    · cases v with
      | list items =>
        have hlist : n + 1 < 1 + deepest items ↔ n < deepest items := by omega
        show n + 1 < 1 + deepest items ↔ _
        rw [hlist, lt_deepest_iff]
        simp only [List.mem_filter, and_assoc]
      | null | bool | int | float | text | object => simp [listDepth]
  | null | bool | int | float | text | list => simp [depth, childGroups]

theorem depth_pos (v : Value) : 0 < depth v := by
  cases v with
  | object fields => rw [depth]; omega
  | null | bool | int | float | text | list => exact Nat.one_pos

/-- **An entry reaches beyond the limit**: what lies deepest below it does. -/
def Beyond (limit : Int) (entry : Value × Int) : Prop :=
  limit < entry.2 + depth entry.1 - 1

/-- An entry that is itself beyond the limit reaches beyond it. -/
theorem beyond_of_lt {limit level : Int} (v : Value) (h : limit < level) :
    Beyond limit (v, level) := by
  have := depth_pos v
  show limit < level + depth v - 1
  omega

/-- An entry within the limit reaches beyond it exactly when one of its child groups does. -/
theorem beyond_iff_childGroups {limit : Int} {v : Value} {level : Int} (h : ¬ limit < level) :
    Beyond limit (v, level) ↔ ∃ child ∈ childGroups v, Beyond limit (child, level + 1) := by
  have hcount : ∀ n : Nat, limit < level + n - 1 ↔ (limit - level).toNat + 1 < n := by
    intro n; omega
  have hchild : ∀ n : Nat, limit < level + 1 + n - 1 ↔ (limit - level).toNat < n := by
    intro n; omega
  simp only [Beyond, hcount, hchild]
  exact lt_depth_iff

/-- What lies on the stack after a step: the groups of the value, one level further down, and what
    lay there before. -/
theorem exists_mem_pushChildren_iff {P : Value × Int → Prop} {v : Value} {level : Int}
    {stack : Stack} :
    (∃ entry ∈ pushChildren v level stack, P entry) ↔
      (∃ child ∈ childGroups v, P (child, level + 1)) ∨ ∃ entry ∈ stack, P entry := by
  constructor
  · rintro ⟨entry, hmem, h⟩
    rcases List.mem_append.mp hmem with hpushed | hstack
    · obtain ⟨child, hchild, rfl⟩ := List.mem_map.mp (List.mem_reverse.mp hpushed)
      exact Or.inl ⟨child, hchild, h⟩
    · exact Or.inr ⟨entry, hstack, h⟩
  · rintro (⟨child, hchild, h⟩ | ⟨entry, hstack, h⟩)
    · have hmem := List.mem_map_of_mem (f := fun child => (child, level + 1)) hchild
      exact ⟨_, List.mem_append_left _ (List.mem_reverse.mpr hmem), h⟩
    · exact ⟨entry, List.mem_append_right _ hstack, h⟩

/-- **The walk** finds something exactly when an entry of the stack reaches beyond the limit.  By
    induction along the walk: an entry is exchanged for its child groups, which reach as far. -/
theorem walk_eq_true_iff (limit : Int) (stack : Stack) :
    walk limit stack = true ↔ ∃ entry ∈ stack, Beyond limit entry := by
  induction stack using walk.induct limit with
  | case1 => simp [walk]
  | case2 v level stack h =>
    have hbeyond := beyond_of_lt v h
    rw [walk, if_pos h]
    simp [hbeyond]
  | case3 v level stack h ih =>
    rw [walk, if_neg h, ih, exists_mem_pushChildren_iff, ← beyond_iff_childGroups h]
    simp only [List.mem_cons, or_and_right, exists_or, exists_eq_left]

/-- **The check is the recursion**: a document is turned away exactly when it is deeper than the
    limit. -/
theorem exceeds_eq_true_iff (limit : Int) (v : Value) :
    exceeds limit v = true ↔ limit < depth v := by
  rw [exceeds, walk_eq_true_iff]
  simp only [List.mem_singleton, exists_eq_left, Beyond]
  omega

end Nesting

/-! ## The depth of a tree -/

mutual

/-- **The depth of a node**: a leaf has none, and a group one more than the deepest of its
    children. -/
def Node.depth : Node → Nat
  | .leaf _ => 0
  | .group _ children => 1 + deepestNode children

/-- The depth of the deepest node. -/
def deepestNode : List Node → Nat
  | [] => 0
  | node :: rest => max node.depth (deepestNode rest)

end

/-- **The depth of a condition tree**, the root being at depth one. -/
def Group.depth (g : Group) : Nat :=
  1 + deepestNode g.children

mutual

/-- **A node is as deep as its document**; what is no group in the document is none in the tree. -/
theorem Node.depth_of_mirrors : ∀ (node : Node) (v : Value), node.Mirrors v →
    (if Nesting.isGroup v then Nesting.depth v else 0) = node.depth
  | .leaf l, v, h => by
    obtain ⟨fields, rfl, hconditions, _⟩ := h
    rw [Nesting.isGroup, hconditions, Node.depth]
    rfl
  | .group operator children, v, h => by
    obtain ⟨fields, items, rfl, hconditions, _, heach⟩ := h
    rw [Nesting.isGroup, hconditions, Option.isSome_some, if_pos rfl, Nesting.depth,
      Nesting.conditionsDepth_eq, hconditions, Node.depth,
      ← deepest_of_mirrorEach children items heach]
    rfl

/-- All children of a group. -/
theorem deepest_of_mirrorEach : ∀ (nodes : List Node) (items : List Value), MirrorEach nodes items →
    Nesting.deepest items = deepestNode nodes
  | [], [], _ => rfl
  | node :: nodes, v :: items, h => by
    rw [MirrorEach] at h
    rw [deepestNode, ← node.depth_of_mirrors v h.1, ← deepest_of_mirrorEach nodes items h.2,
      Nesting.deepest]
    split
    · rfl
    · exact (Nat.zero_max _).symm
  | [], _ :: _, h => h.elim
  | _ :: _, [], h => h.elim

end

/-- **A condition tree is as deep as its document.** -/
theorem Group.depth_of_mirrors {g : Group} {fields : List (String × Value)} (h : g.Mirrors fields) :
    Nesting.depth (.object fields) = g.depth := by
  rw [Nesting.depth, Nesting.conditionsDepth_eq, Group.depth]
  obtain ⟨operator, conditions⟩ := g
  cases conditions with
  | none =>
    have hnone : Keyed.get? "conditions" fields = none := h.conditions
    rw [hnone]
    rfl
  | some nodes =>
    obtain ⟨items, hlist, heach⟩ := h.conditions
    rw [hlist]
    exact congrArg (1 + ·) (deepest_of_mirrorEach nodes items heach)

/-! ## Within a limit -/

/-- **Within the limit**: a node of this depth, in the place of a group at depth `level`, reaches no
    deeper than the limit. -/
def Within (limit : Int) (level depth : Nat) : Prop :=
  (level : Int) + depth ≤ limit + 1

/-- Going into a group takes one level. -/
theorem Within.group {limit : Int} {level depth : Nat} (h : Within limit level (1 + depth)) :
    ¬ limit < level ∧ Within limit (level + 1) depth := by
  simp only [Within] at h ⊢
  omega

/-- Two values lie within the limit if the deeper one does. -/
theorem within_max_iff {limit : Int} {level m n : Nat} :
    Within limit level (max m n) ↔ Within limit level m ∧ Within limit level n := by
  simp only [Within]
  omega

/-- Within the limit, the children start at the second level. -/
theorem Group.within_children {limit : Int} {g : Group} (h : (g.depth : Int) ≤ limit) :
    ¬ limit < (1 : Nat) ∧ Within limit 2 (deepestNode g.children) := by
  rw [Group.depth] at h
  simp only [Within]
  omega

end HomeScenes.Condition
