import HomeScenes.Value

/-!
# Nesting of groups

  How deeply groups are nested is checked on the document itself, before a tree is built from it.
  The walk keeps the groups still to be looked at on a stack, so that a document of any depth can be
  checked; it stops at the first group beyond the limit.

  `exceeds` is the walk.  `depth` says the same by recursion: the length of the longest chain of
  nested groups.
-/

namespace HomeScenes.Condition.Nesting

/-- Whether a value is an object with a field `conditions`. -/
def isGroup : Value → Bool
  | .object fields => (Keyed.get? "conditions" fields).isSome
  | _ => false

/-- **The child groups** of a value: the groups in its list of conditions, if it has one. -/
def childGroups : Value → List Value
  | .object fields =>
    match Keyed.get? "conditions" fields with
    | some (.list items) => items.filter isGroup
    | _ => []
  | _ => []

/-! ## The walk ends

  Each value weighs more than all its child groups together. -/

mutual

/-- A weight: the number of values within a value. -/
def weight : Value → Nat
  | .list items => 1 + itemsWeight items
  | .object fields => 1 + fieldsWeight fields
  | _ => 1

/-- The weight of items. -/
def itemsWeight : List Value → Nat
  | [] => 0
  | v :: rest => weight v + itemsWeight rest

/-- The weight of fields. -/
def fieldsWeight : List (String × Value) → Nat
  | [] => 0
  | (_, v) :: rest => weight v + fieldsWeight rest

end

theorem weight_pos (v : Value) : 0 < weight v := by
  unfold weight
  split
  · omega
  · omega
  · exact Nat.one_pos

/-- Leaving out elements does not add weight. -/
theorem itemsWeight_filter_le (p : Value → Bool) (items : List Value) :
    itemsWeight (items.filter p) ≤ itemsWeight items := by
  induction items with
  | nil => simp
  | cons v rest ih =>
    by_cases h : p v <;> simp [h, itemsWeight] <;> omega

/-- The value of a key weighs no more than all fields. -/
theorem weight_get?_le {key : String} {v : Value} :
    ∀ {fields : List (String × Value)}, Keyed.get? key fields = some v →
      weight v ≤ fieldsWeight fields
  | [], h => by simp at h
  | (k, a) :: rest, h => by
    by_cases hk : k = key
    · simp only [Keyed.get?, hk, if_true, Option.some.injEq] at h
      subst h
      simp only [fieldsWeight]
      omega
    · simp only [Keyed.get?, if_neg hk] at h
      have := weight_get?_le h
      simp only [fieldsWeight]
      omega

/-- **The measure goes down**: the child groups together weigh less than their parent. -/
theorem itemsWeight_childGroups_lt (v : Value) : itemsWeight (childGroups v) < weight v := by
  unfold childGroups
  split
  · split
    · rename_i fields items h
      have hw := weight_get?_le h
      have hf := itemsWeight_filter_le isGroup items
      simp only [weight] at hw ⊢
      omega
    · simpa [itemsWeight] using weight_pos _
  · simpa [itemsWeight] using weight_pos _

theorem itemsWeight_append (xs ys : List Value) :
    itemsWeight (xs ++ ys) = itemsWeight xs + itemsWeight ys := by
  induction xs with
  | nil => simp [itemsWeight]
  | cons v rest ih => simp only [List.cons_append, itemsWeight, ih]; omega

theorem itemsWeight_reverse (xs : List Value) : itemsWeight xs.reverse = itemsWeight xs := by
  induction xs with
  | nil => rfl
  | cons v rest ih =>
    simp only [List.reverse_cons, itemsWeight_append, ih, itemsWeight]
    omega

/-! ## The walk -/

/-- What is still to be looked at: values, each with the depth that it stands at. -/
abbrev Stack := List (Value × Int)

/-- The child groups of a value at depth `depth`, the last one on top. -/
def pushChildren (v : Value) (depth : Int) (stack : Stack) : Stack :=
  ((childGroups v).map fun child => (child, depth + 1)).reverse ++ stack

/-- **The walk comes to an end**: child groups weigh less than the value that they take the place
    of. -/
theorem itemsWeight_pushChildren_lt (v : Value) (depth : Int) (stack : Stack) :
    itemsWeight ((pushChildren v depth stack).map Prod.fst) <
      itemsWeight (((v, depth) :: stack).map Prod.fst) := by
  have h := itemsWeight_childGroups_lt v
  have hid : List.map (Prod.fst ∘ fun child => (child, depth + 1)) (childGroups v) =
      childGroups v := by
    simp [Function.comp_def]
  simp only [pushChildren, List.map_append, List.map_reverse, List.map_map, itemsWeight_append,
    itemsWeight_reverse, List.map_cons, itemsWeight, hid]
  omega

/-- **The walk** over a stack: whether something on it, or below what is on it, lies deeper than
    the limit. -/
def walk (limit : Int) : Stack → Bool
  | [] => false
  | (v, depth) :: stack => if limit < depth then true else walk limit (pushChildren v depth stack)
termination_by stack => itemsWeight (stack.map Prod.fst)
decreasing_by exact itemsWeight_pushChildren_lt v depth stack

/-- **The check**: whether groups are nested more than `limit` deep, the document itself being the
    first. -/
def exceeds (limit : Int) (v : Value) : Bool :=
  walk limit [(v, 1)]

/-! ## The depth, by recursion -/

mutual

/-- **The depth** of a document as a group: one more than the deepest of its child groups. -/
def depth : Value → Nat
  | .object fields => 1 + conditionsDepth fields
  | _ => 1

/-- The depth of the deepest group in the field `conditions`. -/
def conditionsDepth : List (String × Value) → Nat
  | [] => 0
  | (key, v) :: rest => if key = "conditions" then listDepth v else conditionsDepth rest

/-- The depth of the deepest group in a list; any other value has none. -/
def listDepth : Value → Nat
  | .list items => deepest items
  | _ => 0

/-- The depth of the deepest group among items. -/
def deepest : List Value → Nat
  | [] => 0
  | v :: rest => if isGroup v then max (depth v) (deepest rest) else deepest rest

end

end HomeScenes.Condition.Nesting
