import Mathlib.Data.List.Chain
import HomeScenes.Proofs.Condition.Nesting

/-!
# The depth of a document, in any order

  The check on the depth of a document keeps the groups that it has yet to look at on a stack.
  This file says what it finds without mentioning a stack, and that the stack does not matter
  (`nesting_check_exact`).

  1. **The specification** is a chain of groups, each among the conditions of the one before it
     (`Holds`).  The check turns a document away exactly when a chain of more groups than the
     limit starts at it.

  2. **Any order.**  A search may take whichever group is left, and put the groups within it
     wherever it likes (`Looks`).  It ends after at most as many looks as there are values in the
     document, and however it goes on, its answer is that of the check.

  The crux is `Looks.beyond_iff`: whether something that is left reaches beyond the limit is the
  same before and after every look.  It is a fact about the groups that are left, not about their
  order.
-/

namespace HomeScenes.Condition.Nesting

/-! ## Chains of nested groups -/

/-- **A group within a value**: an object that has conditions, among the items of the conditions
    of the value.  What kind of value the inner conditions are does not matter. -/
inductive Holds : Value → Value → Prop where
  | intro {fields inner : List (String × Value)} {items : List Value} {conditions : Value}
    (hitems : Keyed.get? "conditions" fields = some (.list items)) (hmem : .object inner ∈ items)
    (hinner : Keyed.get? "conditions" inner = some conditions) :
      Holds (.object fields) (.object inner)

theorem isGroup_iff {v : Value} :
    isGroup v = true ↔ ∃ inner conditions, v = .object inner ∧
      Keyed.get? "conditions" inner = some conditions := by
  cases v with
  | object inner =>
    rw [isGroup, Option.isSome_iff_exists]
    constructor
    · rintro ⟨conditions, h⟩
      exact ⟨inner, conditions, rfl, h⟩
    · rintro ⟨_, conditions, hsame, h⟩
      rw [Value.object.inj hsame]
      exact ⟨conditions, h⟩
  | null | bool | int | float | text | list => simp [isGroup]

theorem mem_childGroups_iff {v child : Value} :
    child ∈ childGroups v ↔ ∃ fields items, v = .object fields ∧
      Keyed.get? "conditions" fields = some (.list items) ∧ child ∈ items ∧
        isGroup child = true := by
  cases v with
  | object fields =>
    rw [childGroups]
    constructor
    · intro h
      split at h
      · rename_i items hitems
        obtain ⟨hmem, hgroup⟩ := List.mem_filter.mp h
        exact ⟨fields, items, rfl, hitems, hmem, hgroup⟩
      · cases h
    · rintro ⟨_, items, hsame, hitems, hmem, hgroup⟩
      rw [Value.object.inj hsame, hitems]
      exact List.mem_filter.mpr ⟨hmem, hgroup⟩
  | null | bool | int | float | text | list => simp [childGroups]

/-- The child groups are the groups within a value. -/
theorem holds_iff {v child : Value} : Holds v child ↔ child ∈ childGroups v := by
  rw [mem_childGroups_iff]
  constructor
  · rintro ⟨hitems, hmem, hinner⟩
    exact ⟨_, _, rfl, hitems, hmem, isGroup_iff.mpr ⟨_, _, rfl, hinner⟩⟩
  · rintro ⟨fields, items, rfl, hitems, hmem, hgroup⟩
    obtain ⟨inner, conditions, rfl, hinner⟩ := isGroup_iff.mp hgroup
    exact ⟨hitems, hmem, hinner⟩

/-- **A document is as deep as its longest chain.**  By induction on the chain: its first group is
    taken off on one side, and one level of depth on the other. -/
theorem exists_chain_iff {n : Nat} {v : Value} :
    (∃ chain : List Value, (v :: chain).IsChain Holds ∧ chain.length = n) ↔ n < depth v := by
  induction n generalizing v with
  | zero =>
    constructor
    · intro _
      exact depth_pos v
    · intro _
      exact ⟨[], .singleton v, rfl⟩
  | succ n ih =>
    rw [lt_depth_iff]
    constructor
    · rintro ⟨chain, hchain, hlength⟩
      cases chain with
      | nil => cases hlength
      | cons child chain =>
        obtain ⟨hholds, hchain⟩ := List.isChain_cons_cons.mp hchain
        exact ⟨child, holds_iff.mp hholds, ih.mp ⟨chain, hchain, Nat.succ.inj hlength⟩⟩
    · rintro ⟨child, hchild, hlt⟩
      obtain ⟨chain, hchain, rfl⟩ := ih.mpr hlt
      exact ⟨child :: chain, List.isChain_cons_cons.mpr ⟨holds_iff.mpr hchild, hchain⟩, rfl⟩

theorem exceeds_iff_chain (limit : Int) (v : Value) :
    exceeds limit v = true ↔
      ∃ chain : List Value, (v :: chain).IsChain Holds ∧ limit < ((v :: chain).length : Int) := by
  rw [exceeds_eq_true_iff]
  constructor
  · intro h
    have hpos := depth_pos v
    obtain ⟨chain, hchain, hlength⟩ := exists_chain_iff.mpr (show depth v - 1 < depth v by omega)
    refine ⟨chain, hchain, ?_⟩
    rw [List.length_cons]
    omega
  · rintro ⟨chain, hchain, hlength⟩
    have hlt : chain.length < depth v := exists_chain_iff.mp ⟨chain, hchain, rfl⟩
    rw [List.length_cons] at hlength
    omega

/-! ## Searches in any order -/

/-- **One look**: some entry within the limit is taken from what is left, wherever it stands, and
    its child groups join the rest in any order. -/
inductive Looks (limit : Int) : Stack → Stack → Prop where
  | intro {stack rest next : Stack} {v : Value} {level : Int}
    (htaken : stack.Perm ((v, level) :: rest))
    (hwithin : ¬ limit < level) (hnext : next.Perm (pushChildren v level rest)) :
      Looks limit stack next

/-- **A search** for something beyond the limit, look by look, and its answer.  It ends when an
    entry beyond the limit is taken, or when nothing is left. -/
inductive Search (limit : Int) : Stack → Bool → Prop where
  | exhausted : Search limit [] false
  | found {stack : Stack} {v : Value} {level : Int} (htaken : (v, level) ∈ stack)
    (hbeyond : limit < level) :
    Search limit stack true
  | look {stack next : Stack} {answer : Bool} (hlook : Looks limit stack next)
    (h : Search limit next answer) :
    Search limit stack answer

section Looks

variable {limit : Int} {stack next : Stack}

/-- **What a look keeps**: whether something that is left reaches beyond the limit. -/
theorem Looks.beyond_iff (h : Looks limit stack next) :
    (∃ entry ∈ next, Beyond limit entry) ↔ ∃ entry ∈ stack, Beyond limit entry := by
  obtain ⟨htaken, hwithin, hnext⟩ := h
  simp only [hnext.mem_iff, htaken.mem_iff]
  rw [exists_mem_pushChildren_iff, ← beyond_iff_childGroups hwithin]
  simp only [List.mem_cons, or_and_right, exists_or, exists_eq_left]

theorem itemsWeight_perm {xs ys : List Value} (h : xs.Perm ys) :
    itemsWeight xs = itemsWeight ys := by
  induction h with
  | nil => rfl
  | cons v _ ih => rw [itemsWeight, itemsWeight, ih]
  | swap v w rest =>
    simp only [itemsWeight]
    omega
  | trans _ _ ih ih' => rw [ih, ih']

/-- What is left gets lighter with every look. -/
theorem Looks.itemsWeight_lt (h : Looks limit stack next) :
    itemsWeight (next.map Prod.fst) < itemsWeight (stack.map Prod.fst) := by
  obtain ⟨htaken, _, hnext⟩ := h
  rw [itemsWeight_perm (hnext.map Prod.fst), itemsWeight_perm (htaken.map Prod.fst)]
  exact itemsWeight_pushChildren_lt _ _ _

/-- **No search goes on for ever**: there are no more looks than values in what is left. -/
theorem length_le_of_looks {run : List Stack} (h : (stack :: run).IsChain (Looks limit)) :
    run.length ≤ itemsWeight (stack.map Prod.fst) := by
  induction run generalizing stack with
  | nil => exact Nat.zero_le _
  | cons next run ih =>
    obtain ⟨hlook, hrun⟩ := List.isChain_cons_cons.mp h
    have hrest := ih hrun
    have hlt := hlook.itemsWeight_lt
    rw [List.length_cons]
    omega

/-- **Every search gives the answer of the walk**, whatever order it takes. -/
theorem Search.answer_eq {answer : Bool} (h : Search limit stack answer) :
    answer = walk limit stack := by
  induction h with
  | exhausted => rw [walk]
  | @found stack v level htaken hbeyond =>
    exact ((walk_eq_true_iff limit stack).mpr ⟨_, htaken, beyond_of_lt v hbeyond⟩).symm
  | @look stack next answer hlook _ ih =>
    have hsame : walk limit next = true ↔ walk limit stack = true := by
      rw [walk_eq_true_iff, walk_eq_true_iff]
      exact hlook.beyond_iff
    rw [ih]
    exact Bool.eq_iff_iff.mpr hsame

/-- The walk is one of the searches: it takes the entry on top. -/
theorem search_walk (limit : Int) (stack : Stack) : Search limit stack (walk limit stack) := by
  induction stack using walk.induct limit with
  | case1 =>
    rw [walk]
    exact .exhausted
  | case2 v level stack h =>
    rw [walk, if_pos h]
    exact .found List.mem_cons_self h
  | case3 v level stack h ih =>
    rw [walk, if_neg h]
    exact .look ⟨.refl _, h, .refl _⟩ ih

end Looks

/-- **The check on the depth is exact, in any order.**  A document is turned away exactly when a
    chain of more nested groups than the limit starts at it.  A search that takes the groups in
    any other order gives the same answer, and no search makes more looks than there are values in
    the document. -/
theorem nesting_check_exact (limit : Int) (fields : List (String × Value)) :
    let document := Value.object fields
    (exceeds limit document = true ↔
      ∃ chain : List Value, (document :: chain).IsChain Holds ∧
        limit < ((document :: chain).length : Int)) ∧
    (∀ answer, Search limit [(document, 1)] answer ↔ answer = exceeds limit document) ∧
    ∀ run : List Stack, ([(document, 1)] :: run).IsChain (Looks limit) →
      run.length ≤ weight document := by
  intro document
  refine ⟨exceeds_iff_chain limit document, fun answer => ⟨Search.answer_eq, ?_⟩,
    fun run hrun => ?_⟩
  · rintro rfl
    exact search_walk limit _
  · exact length_le_of_looks hrun

end HomeScenes.Condition.Nesting
