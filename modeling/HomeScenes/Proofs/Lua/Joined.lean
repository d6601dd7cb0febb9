import HomeScenes.Proofs.Lua.Reading

/-!
# Expressions joined by a connective

  Texts that are read as expressions are joined, and the whole is read again.  What becomes of the
  expressions?  The operands of the whole are compared with those of the parts: a part stays whole
  if its operands, under the connective that joins, are operands of the whole.

  * Joined by `or`, every part stays whole, whatever connectives are in it (`joined_or`).
  * Joined by `and`, all parts stay whole exactly if no part has an `or` at its top, or there is
    one part only (`joined_and`): `or` binds looser, and with it the whole falls apart at another
    place.

  The crux is that splitting a joined list is splitting its parts (`splitOnP_intercalate`), and
  that splitting at one connective and then at the other is splitting at both
  (`splitOnP_flatMap_splitOnP`).  So the whole has the same innermost operands as its parts and
  can be read if they can (`isSome_assemble_joined`).
-/

namespace HomeScenes.Lua

/-! ## Splitting -/

section Splitting

variable {α : Type} {p q : α → Bool}

/-- **Splitting a joined list** is splitting its parts. -/
theorem splitOnP_intercalate {sep : α} (hsep : p sep = true) :
    ∀ {parts : List (List α)}, parts ≠ [] →
      ([sep].intercalate parts).splitOnP p = parts.flatMap (List.splitOnP p)
  | [], hne => absurd rfl hne
  | [part], _ => by rw [List.intercalate_singleton, List.flatMap_singleton]
  | part :: next :: rest, _ => by
    rw [List.intercalate_cons_cons, List.append_assoc, List.singleton_append,
      List.splitOnP_append_cons _ _ hsep, splitOnP_intercalate hsep (List.cons_ne_nil _ _)]
    rfl

/-- **Splitting twice** is splitting at both. -/
theorem splitOnP_flatMap_splitOnP (xs : List α) :
    (xs.splitOnP p).flatMap (List.splitOnP q) = xs.splitOnP fun a => p a || q a := by
  induction xs with
  | nil => simp only [List.splitOnP_nil, List.flatMap_singleton]
  | cons x xs ih =>
    obtain ⟨first, rest, hsplit⟩ := List.exists_cons_of_ne_nil (List.splitOnP_ne_nil p xs)
    rw [List.splitOnP_cons_eq_if_modifyHead, List.splitOnP_cons_eq_if_modifyHead]
    cases hp : p x with
    | true =>
      rw [if_pos rfl, Bool.true_or, if_pos rfl, List.flatMap_cons, List.splitOnP_nil, ih]
      rfl
    | false =>
      rw [if_neg Bool.false_ne_true, Bool.false_or, ← ih, hsplit, List.modifyHead_cons,
        List.flatMap_cons, List.flatMap_cons, List.splitOnP_cons_eq_if_modifyHead]
      cases hq : q x with
      | true => rfl
      | false =>
        obtain ⟨inner, more, hinner⟩ := List.exists_cons_of_ne_nil (List.splitOnP_ne_nil q first)
        rw [hinner]
        rfl

theorem mem_intercalate {sep a : α} {part : List α} : ∀ {parts : List (List α)},
    part ∈ parts → a ∈ part → a ∈ [sep].intercalate parts
  | [], hpart, _ => absurd hpart List.not_mem_nil
  | [only], hpart, ha => by
    rw [List.intercalate_singleton, ← List.mem_singleton.mp hpart]
    exact ha
  | first :: next :: rest, hpart, ha => by
    rw [List.intercalate_cons_cons, List.append_assoc, List.singleton_append, List.mem_append,
      List.mem_cons]
    rcases List.mem_cons.mp hpart with rfl | hpart
    · exact Or.inl ha
    · exact Or.inr (Or.inr (mem_intercalate hpart ha))

/-- A list is split where there is something to split it at. -/
theorem exists_splitOnP_of_mem {xs : List α} {x : α} (hx : x ∈ xs) (hp : p x = true) :
    ∃ first second rest, xs.splitOnP p = first :: second :: rest := by
  obtain ⟨before, after, rfl⟩ := List.append_of_mem hx
  obtain ⟨first, more, hbefore⟩ := List.exists_cons_of_ne_nil (List.splitOnP_ne_nil p before)
  obtain ⟨last, rest, hafter⟩ := List.exists_cons_of_ne_nil (List.splitOnP_ne_nil p after)
  rw [List.splitOnP_append_cons _ _ hp, hbefore, hafter]
  cases more with
  | nil => exact ⟨first, last, rest, rfl⟩
  | cons second more => exact ⟨first, second, more ++ last :: rest, rfl⟩

end Splitting

theorem isSome_mapM_iff {α β : Type} {f : α → Option β} {xs : List α} :
    (xs.mapM f).isSome = true ↔ ∀ x ∈ xs, (f x).isSome = true := by
  induction xs with
  | nil => simp
  | cons x xs ih =>
    rw [List.forall_mem_cons, ← ih, List.mapM_cons]
    cases f x <;> cases xs.mapM f <;> simp

theorem mapM_cons_eq_some_iff {α β : Type} {f : α → Option β} {x : α} {xs : List α} {ys : List β} :
    (x :: xs).mapM f = some ys ↔ ∃ z zs, f x = some z ∧ xs.mapM f = some zs ∧ ys = z :: zs := by
  rw [List.mapM_cons]
  cases f x <;> cases xs.mapM f <;> simp [eq_comm]

/-- Readings of the parts make up the reading of the whole. -/
theorem mapM_flatMap {α β γ : Type} {f : β → Option γ} {g : α → List β} {xs : List α}
    {yss : List (List γ)} (h : List.Forall₂ (fun x ys => (g x).mapM f = some ys) xs yss) :
    (xs.flatMap g).mapM f = some yss.flatten := by
  induction h with
  | nil => rfl
  | cons hx _ ih =>
    rw [List.flatMap_cons, List.mapM_append, hx, ih]
    rfl

/-! ## Operands -/

namespace Formula

/-- **The operands** of an expression under `and`, one if it is none. -/
def conjuncts : Formula → List Formula
  | .and left right => left.conjuncts ++ right.conjuncts
  | f => [f]

/-- **The operands** of an expression under `or`. -/
def disjuncts : Formula → List Formula
  | .or left right => left.disjuncts ++ right.disjuncts
  | f => [f]

theorem conjuncts_ne_nil (f : Formula) : f.conjuncts ≠ [] := by
  induction f with
  | and left right hleft _ =>
    rw [conjuncts]
    exact List.append_ne_nil_of_left_ne_nil hleft _
  | atom | or => exact List.cons_ne_nil _ _

/-- The conjuncts of a chain of `and` are those of its members. -/
theorem conjuncts_foldl (f : Formula) (fs : List Formula) :
    (fs.foldl .and f).conjuncts = (f :: fs).flatMap conjuncts := by
  induction fs generalizing f with
  | nil => rw [List.foldl_nil, List.flatMap_singleton]
  | cons g fs ih =>
    rw [List.foldl_cons, ih, List.flatMap_cons, conjuncts, List.append_assoc, List.flatMap_cons,
      List.flatMap_cons]

/-- The disjuncts of a chain of `or` are those of its members. -/
theorem disjuncts_foldl (f : Formula) (fs : List Formula) :
    (fs.foldl .or f).disjuncts = (f :: fs).flatMap disjuncts := by
  induction fs generalizing f with
  | nil => rw [List.foldl_nil, List.flatMap_singleton]
  | cons g fs ih =>
    rw [List.foldl_cons, ih, List.flatMap_cons, disjuncts, List.append_assoc, List.flatMap_cons,
      List.flatMap_cons]

/-- More than one expression joined by `or` is an `or`. -/
theorem exists_foldl_or (f g : Formula) (gs : List Formula) :
    ∃ left right, (g :: gs).foldl .or f = .or left right := by
  induction gs generalizing f g with
  | nil => exact ⟨f, g, rfl⟩
  | cons h gs ih => exact ih (.or f g) h

/-- An expression holds exactly when all its operands under `and` do. -/
theorem eval_conjuncts (truth : List Piece → Bool) (f : Formula) :
    f.eval truth = f.conjuncts.all (eval truth) := by
  induction f with
  | and left right hleft hright => rw [eval, conjuncts, List.all_append, ← hleft, ← hright]
  | atom | or => exact (Bool.and_true _).symm

/-- An expression holds exactly when one of its operands under `or` does. -/
theorem eval_disjuncts (truth : List Piece → Bool) (f : Formula) :
    f.eval truth = f.disjuncts.any (eval truth) := by
  induction f with
  | or left right hleft hright => rw [eval, disjuncts, List.any_append, ← hleft, ← hright]
  | atom | and => exact (Bool.or_false _).symm

end Formula

/-! ## Reading between words -/

/-- What stands between words of one kind is read, and joined from left to right.  Clauses and
    expressions are both read so (`clause_eq`, `assemble_eq`). -/
def readBetween (isWord : Item → Bool) (reader : List Item → Option Formula)
    (join : Formula → Formula → Formula) (items : List Item) : Option Formula :=
  ((items.splitOnP isWord).mapM reader).bind (chain join)

section Between

variable {isWord : Item → Bool} {reader : List Item → Option Formula} {join : Formula →
  Formula → Formula}

/-- What is read between words is the chain of what is read from word to word. -/
theorem readBetween_eq_some_iff {items : List Item} {f : Formula} :
    readBetween isWord reader join items = some f ↔
      ∃ g gs, (items.splitOnP isWord).mapM reader = some (g :: gs) ∧ gs.foldl join g = f := by
  rw [readBetween, Option.bind_eq_some_iff]
  constructor
  · rintro ⟨fs, hfs, hchain⟩
    cases fs with
    | nil => cases hchain
    | cons g gs => exact ⟨g, gs, hfs, Option.some.inj hchain⟩
  · rintro ⟨g, gs, hfs, hfold⟩
    exact ⟨_, hfs, congrArg some hfold⟩

/-- It is read exactly if every section is. -/
theorem isSome_readBetween_iff {items : List Item} :
    (readBetween isWord reader join items).isSome = true ↔
      ∀ part ∈ items.splitOnP isWord, (reader part).isSome = true := by
  obtain ⟨part, rest, hsplit⟩ := List.exists_cons_of_ne_nil (List.splitOnP_ne_nil isWord items)
  rw [← isSome_mapM_iff, readBetween, hsplit, List.mapM_cons]
  cases reader part <;> cases rest.mapM reader <;> simp [chain]

/-- **Parts joined by a word**: the operands of the whole are those of the parts.  `flat` says
    what the operands of an expression are, which has to agree with joining them. -/
theorem exists_readBetween_joined {flat : Formula → List Formula}
    (hflat : ∀ g gs, flat (gs.foldl join g) = (g :: gs).flatMap flat) {sep : Item}
    (hsep : isWord sep = true) {parts : List (List Item)} {fs : List Formula} (hne : parts ≠ [])
    (h : List.Forall₂ (fun part f => readBetween isWord reader join part = some f) parts fs) :
    ∃ f, readBetween isWord reader join ([sep].intercalate parts) = some f ∧
      flat f = fs.flatMap flat := by
  have hoperands : ∃ gss,
      List.Forall₂ (fun part gs => (part.splitOnP isWord).mapM reader = some gs) parts gss ∧
      gss.flatten.flatMap flat = fs.flatMap flat := by
    clear hne
    induction h with
    | nil => exact ⟨[], .nil, rfl⟩
    | cons hpart _ ih =>
      obtain ⟨gss, hgss, hall⟩ := ih
      obtain ⟨g, gs, hgs, rfl⟩ := readBetween_eq_some_iff.mp hpart
      refine ⟨(g :: gs) :: gss, .cons hgs hgss, ?_⟩
      rw [List.flatten_cons, List.flatMap_append, hall, ← hflat g gs, List.flatMap_cons]
  obtain ⟨gss, hgss, hall⟩ := hoperands
  have hmap : (([sep].intercalate parts).splitOnP isWord).mapM reader = some gss.flatten := by
    rw [splitOnP_intercalate hsep hne]
    exact mapM_flatMap hgss
  have hsome : (readBetween isWord reader join ([sep].intercalate parts)).isSome = true := by
    rw [isSome_readBetween_iff, ← isSome_mapM_iff, hmap]
    rfl
  obtain ⟨f, hf⟩ := Option.isSome_iff_exists.mp hsome
  obtain ⟨g, gs, hgs, rfl⟩ := readBetween_eq_some_iff.mp hf
  refine ⟨_, hf, ?_⟩
  rw [hflat, ← Option.some.inj (hmap.symm.trans hgs), hall]

end Between

/-- Whether an item is the word between operands. -/
def isAnd (item : Item) : Bool :=
  item.1.isPlain andWord

/-- Whether an item is the word between clauses. -/
def isOr (item : Item) : Bool :=
  item.1.isPlain orWord

theorem clause_eq (items : List Item) : clause items = readBetween isAnd operand .and items := rfl

theorem assemble_eq (items : List Item) : assemble items = readBetween isOr clause .or items := rfl

/-- Items without an `or` are a single clause. -/
theorem assemble_of_not_isOr {items : List Item} (h : ∀ item ∈ items, isOr item = false) :
    assemble items = clause items := by
  rw [assemble_eq, readBetween, List.splitOnP_eq_singleton h, mapM_singleton]
  cases clause items <;> rfl

/-- Items with an `or` are read as one. -/
theorem exists_or_of_isOr {items : List Item} {f : Formula} (h : assemble items = some f)
    {item : Item} (hitem : item ∈ items) (hor : isOr item = true) : ∃ left right,
    f = .or left right := by
  obtain ⟨first, second, rest, hsplit⟩ := exists_splitOnP_of_mem hitem hor
  rw [assemble_eq] at h
  obtain ⟨g, gs, hgs, rfl⟩ := readBetween_eq_some_iff.mp h
  rw [hsplit] at hgs
  obtain ⟨_, hs, _, hhs, hcons⟩ := mapM_cons_eq_some_iff.mp hgs
  obtain ⟨f, fs, _, _, rfl⟩ := mapM_cons_eq_some_iff.mp hhs
  rw [(List.cons.inj hcons).2]
  exact Formula.exists_foldl_or g f fs

/-- An expression can be read exactly when each of its innermost operands can. -/
theorem isSome_assemble_iff {items : List Item} :
    (assemble items).isSome = true ↔
      ∀ part ∈ items.splitOnP (fun item => isOr item || isAnd item),
        (operand part).isSome = true := by
  rw [assemble_eq, isSome_readBetween_iff, ← splitOnP_flatMap_splitOnP items]
  simp only [clause_eq, isSome_readBetween_iff, List.mem_flatMap]
  constructor
  · rintro h inner ⟨part, hpart, hinner⟩; exact h part hpart inner hinner
  · intro h part hpart inner hinner; exact h inner ⟨part, hpart, hinner⟩

/-- **The whole can be read** if its parts can. -/
theorem isSome_assemble_joined {sep : Item} {parts : List (List Item)}
    (hsep : (isOr sep || isAnd sep) = true)
    (hne : parts ≠ []) (h : ∀ part ∈ parts, (assemble part).isSome = true) :
    (assemble ([sep].intercalate parts)).isSome = true := by
  rw [isSome_assemble_iff, splitOnP_intercalate (p := fun item => isOr item || isAnd item) hsep hne]
  intro inner hinner
  obtain ⟨part, hpart, hinner⟩ := List.mem_flatMap.mp hinner
  exact isSome_assemble_iff.mp (h part hpart) inner hinner

/-- **Parentheses around an expression** change nothing. -/
theorem formula_paren (ps : List Piece) : formula [.paren ps] = formula ps := by
  rw [formula_of_unbroken (unbroken_paren ps)]
  rfl

/-! ## Joined expressions -/

/-- Texts in pieces with the expressions that they are read as. -/
def ReadEach (pss : List (List Piece)) (fs : List Formula) : Prop :=
  List.Forall₂ (fun ps f => formula ps = some f) pss fs

/-- An `or` that no parentheses hide. -/
def hasLooseOr (ps : List Piece) : Bool :=
  ps.any fun p => p.isPlain orWord

theorem hasLooseOr_eq_false_iff {ps : List Piece} :
    hasLooseOr ps = false ↔ ∀ p ∈ ps, p.isPlain orWord = false := by
  simp [hasLooseOr]

section Joined

variable {pss : List (List Piece)} {fs : List Formula}

theorem ReadEach.items (h : ReadEach pss fs) :
    List.Forall₂ (fun items f => assemble items = some f) (pss.map itemsOf) fs :=
  List.forall₂_map_left_iff.mpr h

/-- **Joined by `or`**, every part stays whole. -/
theorem joined_or (h : ReadEach pss fs) (hne : pss ≠ []) :
    ∃ f, formula ([.plain orWord].intercalate pss) = some f ∧
      f.disjuncts = fs.flatMap Formula.disjuncts := by
  rw [formula, itemsOf_joined]
  exact exists_readBetween_joined Formula.disjuncts_foldl rfl (by simpa using hne) h.items

theorem length_le_flatMap_conjuncts (fs : List Formula) :
    fs.length ≤ (fs.flatMap Formula.conjuncts).length := by
  induction fs with
  | nil => exact Nat.le_refl 0
  | cons f fs ih =>
    have hone := List.length_pos_iff.mpr f.conjuncts_ne_nil
    rw [List.flatMap_cons, List.length_append, List.length_cons]
    omega

theorem isOr_of_not_hasLooseOr {ps : List Piece} (h : hasLooseOr ps = false) :
    ∀ item ∈ itemsOf ps, isOr item = false := by
  intro item hitem
  rw [itemsOf_eq_map] at hitem
  obtain ⟨p, hp, rfl⟩ := List.mem_map.mp hitem
  exact hasLooseOr_eq_false_iff.mp h p hp

/-- Without a loose `or` each part is a single clause. -/
theorem ReadEach.clauses (h : ReadEach pss fs) (hloose : ∀ ps ∈ pss, hasLooseOr ps = false) :
    List.Forall₂ (fun items f => clause items = some f) (pss.map itemsOf) fs := by
  induction h with
  | nil => exact .nil
  | cons hpart _ ih =>
    rw [List.forall_mem_cons] at hloose
    refine .cons ?_ (ih hloose.2)
    rw [← assemble_of_not_isOr (isOr_of_not_hasLooseOr hloose.1)]
    exact hpart

theorem ReadEach.isSome (h : ReadEach pss fs) : ∀ ps ∈ pss, (formula ps).isSome = true := by
  induction h with
  | nil => exact fun _ hps => absurd hps List.not_mem_nil
  | cons hpart _ ih =>
    rw [List.forall_mem_cons, hpart]
    exact ⟨rfl, ih⟩

/-- With no loose `or` the whole is one clause, as its parts are. -/
theorem joined_and_of_no_or (h : ReadEach pss fs) (hne : pss ≠ [])
    (hloose : ∀ ps ∈ pss, hasLooseOr ps = false) :
    ∃ f, formula ([.plain andWord].intercalate pss) = some f ∧
      f.conjuncts = fs.flatMap Formula.conjuncts := by
  have hwhole : ∀ item ∈ itemsOf ([.plain andWord].intercalate pss), isOr item = false := by
    refine isOr_of_not_hasLooseOr (hasLooseOr_eq_false_iff.mpr fun p hp => ?_)
    rcases mem_joined hp with rfl | ⟨ps, hps, hp⟩
    · rfl
    · exact hasLooseOr_eq_false_iff.mp (hloose ps hps) p hp
  rw [formula, assemble_of_not_isOr hwhole, itemsOf_joined]
  exact exists_readBetween_joined Formula.conjuncts_foldl rfl (by simpa using hne)
    (h.clauses hloose)

/-- With a loose `or` in one of several parts the whole is an `or`, which is a single operand. -/
theorem joined_and_of_or (h : ReadEach pss fs) (hlength : 2 ≤ pss.length) {ps : List Piece}
    (hps : ps ∈ pss) (hloose : hasLooseOr ps = true) :
    ∃ f, formula ([.plain andWord].intercalate pss) = some f ∧
      f.conjuncts ≠ fs.flatMap Formula.conjuncts := by
  obtain ⟨p, hp, hor⟩ := List.any_eq_true.mp hloose
  have hsome : (formula ([.plain andWord].intercalate pss)).isSome = true := by
    rw [formula, itemsOf_joined]
    refine isSome_assemble_joined rfl (by simpa using List.ne_nil_of_mem hps) fun items hitems => ?_
    obtain ⟨qs, hqs, rfl⟩ := List.mem_map.mp hitems
    exact h.isSome qs hqs
  obtain ⟨f, hf⟩ := Option.isSome_iff_exists.mp hsome
  have hitem : (p, p.inner) ∈ itemsOf ([.plain andWord].intercalate pss) := by
    rw [itemsOf_eq_map]
    exact List.mem_map_of_mem (mem_intercalate hps hp)
  obtain ⟨left, right, rfl⟩ := exists_or_of_isOr hf hitem hor
  refine ⟨_, hf, fun hsame => ?_⟩
  have hlonger := length_le_flatMap_conjuncts fs
  have hone : (Formula.or left right).conjuncts.length = 1 := rfl
  rw [← hsame, hone, ← h.length_eq] at hlonger
  omega

/-- **Joined by `and`**, all parts stay whole exactly if none has a loose `or` or there is one
    only. -/
theorem joined_and (h : ReadEach pss fs) (hne : pss ≠ []) :
    ∃ f, formula ([.plain andWord].intercalate pss) = some f ∧
      (f.conjuncts = fs.flatMap Formula.conjuncts ↔ pss.length < 2 ∨ ∀ ps ∈ pss,
        hasLooseOr ps = false) := by
  by_cases hloose : ∀ ps ∈ pss, hasLooseOr ps = false
  · obtain ⟨f, hf, hwhole⟩ := joined_and_of_no_or h hne hloose
    exact ⟨f, hf, iff_of_true hwhole (Or.inr hloose)⟩
  · by_cases hlength : pss.length < 2
    · -- one part only: nothing is joined
      match pss, fs, h, hne, hlength with
      | [ps], [f], .cons hf .nil, _, hlength =>
        refine ⟨f, ?_, iff_of_true (List.flatMap_singleton _ _).symm (Or.inl hlength)⟩
        rw [List.intercalate_singleton]
        exact hf
      | _ :: _ :: _, _, _, _, hlength => simp only [List.length_cons] at hlength; omega
    · have hor : ∃ ps ∈ pss, hasLooseOr ps = true := by
        simpa using hloose
      obtain ⟨ps, hps, hor⟩ := hor
      obtain ⟨f, hf, hbroken⟩ := joined_and_of_or h (Nat.le_of_not_lt hlength) hps hor
      exact ⟨f, hf, iff_of_false hbroken (not_or.mpr ⟨hlength, hloose⟩)⟩

end Joined

end HomeScenes.Lua
