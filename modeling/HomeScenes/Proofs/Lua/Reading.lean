import HomeScenes.Proofs.Lua.Formula
import Mathlib.Data.List.Forall2

/-!
# Laws of reading

  Three kinds of laws make a text readable from its parts.

  * A text whose parentheses are balanced has pieces (`exists_flatten`), and the pieces of a text
    with a blank in it or with parentheses around it are those of its parts.
  * Pieces without a connective at the top are a single operand (`formula_of_unbroken`), and if
    there is no connective in them at all the operand can be read (`exists_formula`).
  * Operands joined by one connective are read as exactly those operands, and the value of the
    whole is that all of them hold, or that some of them does (`formula_joined_and`,
    `formula_joined_or`).
-/

namespace HomeScenes.Lua

/-! ## Balanced parentheses can be matched -/

/-- The end of a word neither opens nor closes anything, whatever the word is. -/
theorem exists_matchAll_ended (word : List Char) {stack : Stack} (hne : stack ≠ []) :
    ∃ after, matchAll (ended word) stack = some after ∧ after.length = stack.length := by
  rw [ended]
  split
  · exact ⟨stack, rfl, rfl⟩
  · cases stack with
    | nil => exact absurd rfl hne
    | cons here rest => exact ⟨_, rfl, rfl⟩

/-- The height of the stack is the level of parentheses, and one more. -/
theorem exists_matchAll_markOf {n m : Nat} {c : Char} {stack : Stack} (h : levelStep n c = some m)
    (hs : stack.length = n + 1) :
    ∃ after, matchAll (markOf c) stack = some after ∧ after.length = m + 1 := by
  cases stack with
  | nil => simp only [List.length_nil] at hs; omega
  | cons here rest =>
    rw [List.length_cons] at hs
    rw [levelStep] at h
    rw [markOf]
    split at h
    · rename_i hc
      injection h with h
      rw [if_pos hc]
      exact ⟨[] :: here :: rest, rfl, by simp only [List.length_cons]; omega⟩
    · rename_i hc
      rw [if_neg hc]
      split at h
      · rename_i hd
        rw [if_pos hd]
        split at h
        · cases h
        · injection h with h
          cases rest with
          | nil => simp only [List.length_nil] at hs; omega
          | cons outer rest =>
            exact ⟨_, rfl, by simp only [List.length_cons] at *; omega⟩
      · rename_i hd
        injection h with h
        rw [if_neg hd]
        split
        · exact ⟨here :: rest, rfl, by simp only [List.length_cons]; omega⟩
        · exact ⟨_, rfl, by simp only [List.length_cons]; omega⟩

/-- Characters of words leave the level as it is. -/
theorem levelStep_of_isWordChar {c : Char} (n : Nat) (hc : isWordChar c = true) :
    levelStep n c = some n := by
  have hopen : c ≠ '(' := by rintro rfl; exact absurd hc (by decide)
  have hclose : c ≠ ')' := by rintro rfl; exact absurd hc (by decide)
  rw [levelStep, if_neg hopen, if_neg hclose]

/-- **Tokens of balanced symbols can be matched**: by induction on the symbols, the height of the
    stack following the level. -/
theorem exists_matchAll {syms : List Symbol} {word : List Char} {n m : Nat} {stack : Stack}
    (h : level n (emptied syms) = some m) (hs : stack.length = n + 1) :
    ∃ after, matchAll (tokensFrom word syms) stack = some after ∧ after.length = m + 1 := by
  induction syms generalizing word n stack with
  | nil =>
    injection h with h
    have hne : stack ≠ [] := by rintro rfl; exact nomatch hs
    obtain ⟨after, hafter, hlength⟩ := exists_matchAll_ended word hne
    exact ⟨after, hafter, by omega⟩
  | cons s rest ih =>
    have hne : stack ≠ [] := by rintro rfl; exact nomatch hs
    obtain ⟨first, hfirst, hlength⟩ := exists_matchAll_ended word hne
    cases s with
    | char c =>
      rw [emptied, level, Option.bind_eq_some_iff] at h
      obtain ⟨next, hstep, hrest⟩ := h
      rw [tokensFrom]
      split
      · rename_i hc
        rw [levelStep_of_isWordChar n hc] at hstep
        injection hstep with hstep
        rw [← hstep] at hrest
        exact ih hrest hs
      · obtain ⟨second, hsecond, hheight⟩ := exists_matchAll_markOf hstep (hlength.trans hs)
        obtain ⟨after, hafter, hm⟩ : ∃ after,
            matchAll (tokensFrom [] rest) second = some after ∧ after.length = m + 1 :=
            ih hrest hheight
        refine ⟨after, ?_, hm⟩
        rw [matchAll_append, matchAll_append, hfirst, Option.bind_some, hsecond, Option.bind_some]
        exact hafter
    | literal body =>
      have hrest : level n (emptied rest) = some m := h
      cases first with
      | nil => rw [hs] at hlength; exact nomatch hlength
      | cons here outer =>
        have hpush : ((Piece.plain (.literal body) :: here) :: outer : Stack).length = n + 1 :=
          hlength.trans hs
        obtain ⟨after, hafter, hm⟩ : ∃ after, matchAll (tokensFrom [] rest)
            ((.plain (.literal body) :: here) :: outer) = some after ∧ after.length = m + 1 :=
          ih hrest hpush
        refine ⟨after, ?_, hm⟩
        rw [tokensFrom, matchAll_append, hfirst, Option.bind_some]
        exact hafter

/-- Balanced symbols are the tokens of some pieces. -/
theorem exists_flatten {syms : List Symbol} (h : level 0 (emptied syms) = some 0) :
    ∃ ps, flatten ps = tokens syms := by
  obtain ⟨after, hafter, hlength⟩ : ∃ after, matchAll (tokensFrom [] syms) [[]] = some after ∧
      after.length = 0 + 1 := exists_matchAll h rfl
  match after, hlength with
  | [here], _ =>
    refine ⟨here.reverse, pieces_eq_some_iff.mp ?_⟩
    rw [pieces, tokens, hafter]

/-! ## The pieces of a text from those of its parts -/

/-- A text has these pieces exactly if they flatten to its tokens. -/
theorem piecesOf_eq_some_iff {text : List Char} {ps : List Piece} :
    piecesOf text = some ps ↔ ∃ syms, symbols text = some syms ∧ flatten ps = tokens syms := by
  rw [piecesOf, Option.bind_eq_some_iff]
  simp only [pieces_eq_some_iff]

/-- **A blank between two texts**: the pieces of the first, then those of the second. -/
theorem piecesOf_blank {a b : List Char} {ps qs : List Piece} (ha : piecesOf a = some ps)
    (hb : piecesOf b = some qs) : piecesOf (a ++ ' ' :: b) = some (ps ++ qs) := by
  obtain ⟨x, hx, hps⟩ := piecesOf_eq_some_iff.mp ha
  obtain ⟨y, hy, hqs⟩ := piecesOf_eq_some_iff.mp hb
  have hblank : symbols (' ' :: b) = some (.char ' ' :: y) := by
    rw [symbols, scan, if_neg (by decide)]
    rw [symbols] at hy
    rw [hy, Option.map_some]
  refine piecesOf_eq_some_iff.mpr ⟨x ++ .char ' ' :: y, symbols_append hx hblank, ?_⟩
  have htokens : tokens (x ++ .char ' ' :: y) = tokens x ++ [] ++ tokens y :=
    tokensFrom_append_cons [] x y (by decide)
  rw [htokens, flatten_append, hps, hqs, List.append_nil]

/-- **Parentheses around a text**: its pieces in one pair. -/
theorem piecesOf_paren {a : List Char} {ps : List Piece} (ha : piecesOf a = some ps) :
    piecesOf ('(' :: (a ++ [')'])) = some [.paren ps] := by
  obtain ⟨x, hx, hps⟩ := piecesOf_eq_some_iff.mp ha
  have hinner : symbols (a ++ [')']) = some (x ++ [.char ')']) := symbols_append hx rfl
  have houter : symbols ('(' :: (a ++ [')'])) = some (.char '(' :: (x ++ [.char ')'])) := by
    rw [symbols, scan, if_neg (by decide)]
    rw [symbols] at hinner
    rw [hinner, Option.map_some]
  refine piecesOf_eq_some_iff.mpr ⟨_, houter, ?_⟩
  have htokens : tokens (.char '(' :: (x ++ [.char ')'])) =
      .opening :: (tokens x ++ [.closing]) := by
    have hclose : tokensFrom [] (x ++ [.char ')']) = tokens x ++ [.closing] ++ [] :=
      tokensFrom_append_cons [] x [] (by decide)
    rw [tokens, tokensFrom, if_neg (by decide), hclose, List.append_nil]
    rfl
  rw [htokens, flatten, flatten, Piece.flat, hps, List.append_nil]

theorem piecesOf_and : piecesOf "and".toList = some [.plain andWord] :=
  piecesOf_eq_some_iff.mpr ⟨_, rfl, rfl⟩

theorem piecesOf_or : piecesOf "or".toList = some [.plain orWord] :=
  piecesOf_eq_some_iff.mpr ⟨_, rfl, rfl⟩

/-! ## Pieces without a connective -/

/-- No connective stands at the top of the pieces. -/
def Unbroken (ps : List Piece) : Prop :=
  ∀ p ∈ ps, p.isPlain andWord = false ∧ p.isPlain orWord = false

/-- Whatever stands between parentheses is one piece. -/
theorem unbroken_paren (ps : List Piece) : Unbroken [.paren ps] := by
  intro p hp
  rw [List.mem_singleton.mp hp]
  exact ⟨rfl, rfl⟩

theorem itemsOf_eq_map (ps : List Piece) : itemsOf ps = ps.map fun p => (p, p.inner) := by
  induction ps with
  | nil => rfl
  | cons p rest ih => rw [itemsOf, ih, List.map_cons]

theorem mapM_singleton {α β : Type} (f : α → Option β) (a : α) :
    [a].mapM f = (f a).map fun b => [b] := by
  cases h : f a <;> simp [h]

/-- A single operand is a clause of its own. -/
theorem clause_of_unbroken {ps : List Piece} (h : Unbroken ps) :
    clause (itemsOf ps) = operand (itemsOf ps) := by
  have hsplit : (itemsOf ps).splitOnP (fun item => item.1.isPlain andWord) = [itemsOf ps] := by
    refine List.splitOnP_eq_singleton ?_
    rw [itemsOf_eq_map]
    intro item hitem
    obtain ⟨p, hp, rfl⟩ := List.mem_map.mp hitem
    exact (h p hp).1
  rw [clause, hsplit, mapM_singleton]
  cases operand (itemsOf ps) <;> rfl

/-- **Pieces without a connective** at the top are a single operand. -/
theorem formula_of_unbroken {ps : List Piece} (h : Unbroken ps) :
    formula ps = operand (itemsOf ps) := by
  have hsplit : (itemsOf ps).splitOnP (fun item => item.1.isPlain orWord) = [itemsOf ps] := by
    refine List.splitOnP_eq_singleton ?_
    rw [itemsOf_eq_map]
    intro item hitem
    obtain ⟨p, hp, rfl⟩ := List.mem_map.mp hitem
    exact (h p hp).2
  rw [formula, assemble, hsplit, mapM_singleton, clause_of_unbroken h]
  cases operand (itemsOf ps) <;> rfl

/-- Whether a token is a connective. -/
def Token.isConnective (t : Token) : Bool :=
  t = .plain andWord || t = .plain orWord

/-- Pieces without a connective among their tokens are not broken anywhere. -/
theorem unbroken_of_flatten {ps : List Piece} (h : ∀ t ∈ flatten ps, t.isConnective = false) :
    Unbroken ps := by
  intro p hp
  cases p with
  | paren inside => exact ⟨rfl, rfl⟩
  | plain l =>
    have hmem : .plain l ∈ flatten ps := by
      obtain ⟨before, after, rfl⟩ := List.append_of_mem hp
      rw [flatten_append, flatten]
      exact List.mem_append_right _ List.mem_cons_self
    have hl := h _ hmem
    simp only [Token.isConnective, Bool.or_eq_false_iff, decide_eq_false_iff_not] at hl
    constructor
    · exact decide_eq_false fun he => hl.1 (congrArg Token.plain he)
    · exact decide_eq_false fun he => hl.2 (congrArg Token.plain he)

/-- An operand of more than one piece, or of one that is no pair of parentheses, is an atom. -/
theorem operand_eq_atom {ps : List Piece} (hne : ps ≠ [])
    (hparen : ∀ inside, ps ≠ [.paren inside]) :
    operand (itemsOf ps) = some (.atom ps) := by
  have hfst : (itemsOf ps).map Prod.fst = ps := by
    rw [itemsOf_eq_map, List.map_map]
    exact List.map_id ps
  match ps, hne, hparen with
  | [.paren inside], _, hparen => exact absurd rfl (hparen inside)
  | [.plain l], _, _ => rfl
  | p :: q :: rest, _, _ =>
    have hatom : operand (itemsOf (p :: q :: rest)) =
        some (.atom ((itemsOf (p :: q :: rest)).map Prod.fst)) := by
      cases p <;> rfl
    rw [hatom, hfst]

/-- **Reading succeeds** on pieces that have no connective anywhere and more to them than
    parentheses.  By induction on the parentheses around all of it. -/
theorem exists_formula : ∀ ps : List Piece, (∀ t ∈ flatten ps, t.isConnective = false) →
    (∃ l, .plain l ∈ flatten ps) → ∃ f, operand (itemsOf ps) = some f
  | [], _, ⟨l, hl⟩ => nomatch hl
  | [.paren inside], hnone, ⟨l, hl⟩ => by
    have hflat : flatten [.paren inside] = .opening :: (flatten inside ++ [.closing]) := by
      rw [flatten, flatten, Piece.flat, List.append_nil]
    rw [hflat] at hnone hl
    have hinside : ∀ t ∈ flatten inside, t.isConnective = false :=
      fun t ht => hnone t (List.mem_cons_of_mem _ (List.mem_append_left _ ht))
    have hmem : .plain l ∈ flatten inside := by simpa using hl
    obtain ⟨f, hf⟩ := exists_formula inside hinside ⟨l, hmem⟩
    refine ⟨f, ?_⟩
    show formula inside = some f
    rw [formula_of_unbroken (unbroken_of_flatten hinside), hf]
  | [.plain l], _, _ => ⟨_, operand_eq_atom (List.cons_ne_nil _ _) fun _ he => nomatch he⟩
  | _ :: _ :: _, _, _ => ⟨_, operand_eq_atom (List.cons_ne_nil _ _) fun _ he => nomatch he⟩

/-! ## Operands joined by a connective -/

/-- Splitting undoes joining, where no part holds a separator. -/
theorem splitOnP_joined {α : Type} {isBreak : α → Bool} {sep : α} (hsep : isBreak sep = true) :
    ∀ {parts : List (List α)}, parts ≠ [] → (∀ part ∈ parts, ∀ a ∈ part, isBreak a = false) →
      ([sep].intercalate parts).splitOnP isBreak = parts
  | [], hne, _ => absurd rfl hne
  | [part], _, h => by
    rw [List.intercalate_singleton]
    exact List.splitOnP_eq_singleton (h part List.mem_cons_self)
  | part :: next :: rest, _, h => by
    rw [List.intercalate_cons_cons, List.append_assoc, List.singleton_append,
      List.splitOnP_append_cons_of_forall_mem (h part List.mem_cons_self) sep hsep,
      splitOnP_joined hsep (List.cons_ne_nil _ _) fun p hp => h p (List.mem_cons_of_mem _ hp)]

/-- What is in the joined list is the separator or is in a part. -/
theorem mem_joined {α : Type} {sep a : α} : ∀ {parts : List (List α)},
    a ∈ [sep].intercalate parts → a = sep ∨ ∃ part ∈ parts, a ∈ part
  | [], h => nomatch h
  | [part], h => by
    rw [List.intercalate_singleton] at h
    exact Or.inr ⟨part, List.mem_cons_self, h⟩
  | part :: next :: rest, h => by
    rw [List.intercalate_cons_cons, List.append_assoc, List.singleton_append, List.mem_append,
      List.mem_cons] at h
    rcases h with h | h | h
    · exact Or.inr ⟨part, List.mem_cons_self, h⟩
    · exact Or.inl h
    · rcases mem_joined h with h | ⟨p, hp, ha⟩
      · exact Or.inl h
      · exact Or.inr ⟨p, List.mem_cons_of_mem _ hp, ha⟩

/-- Reading the pieces of joined parts is joining what is read of them. -/
theorem itemsOf_joined (sep : Piece) (parts : List (List Piece)) :
    itemsOf ([sep].intercalate parts) = [(sep, sep.inner)].intercalate (parts.map itemsOf) := by
  match parts with
  | [] => rfl
  | [part] => rw [List.intercalate_singleton, List.map_singleton, List.intercalate_singleton]
  | part :: next :: rest =>
    have ih := itemsOf_joined sep (next :: rest)
    rw [List.map_cons] at ih
    rw [List.intercalate_cons_cons, List.map_cons, List.map_cons, List.intercalate_cons_cons, ← ih]
    simp only [itemsOf_eq_map, List.map_append, List.map_cons, List.map_nil]

/-- The parts of an expression with the expressions that they are read as. -/
def ReadAs (parts : List (List Piece)) (fs : List Formula) : Prop :=
  List.Forall₂ (fun ps f => Unbroken ps ∧ operand (itemsOf ps) = some f) parts fs

/-- Each part is read on its own, by a reader that agrees with `operand` on unbroken ones. -/
theorem mapM_of_readAs {parts : List (List Piece)} {fs : List Formula} (h : ReadAs parts fs)
    {reader : List Item → Option Formula}
    (hreader : ∀ ps, Unbroken ps → reader (itemsOf ps) = operand (itemsOf ps)) :
    (parts.map itemsOf).mapM reader = some fs := by
  induction h with
  | nil => rfl
  | cons hpart _ ih =>
    rw [List.map_cons, List.mapM_cons, hreader _ hpart.1, hpart.2, ih]
    rfl

theorem breakFree_items {parts : List (List Piece)} {isBreak : Piece → Bool}
    (h : ∀ part ∈ parts, ∀ p ∈ part, isBreak p = false) :
    ∀ items ∈ parts.map itemsOf, ∀ item ∈ items, isBreak item.1 = false := by
  intro items hitems item hitem
  obtain ⟨part, hpart, rfl⟩ := List.mem_map.mp hitems
  rw [itemsOf_eq_map] at hitem
  obtain ⟨p, hp, rfl⟩ := List.mem_map.mp hitem
  exact h part hpart p hp

/-- Parts that are operands are unbroken. -/
theorem unbroken_of_readAs {parts : List (List Piece)} {fs : List Formula} (h : ReadAs parts fs) :
    ∀ part ∈ parts, Unbroken part := by
  induction h with
  | nil => intro part hpart; exact nomatch hpart
  | cons hpart _ ih =>
    intro part hmem
    rcases List.mem_cons.mp hmem with rfl | hmem
    · exact hpart.1
    · exact ih part hmem

/-- A chain of `and` is true if all its members are. -/
theorem eval_foldl_and (truth : List Piece → Bool) (f : Formula) (rest : List Formula) :
    (rest.foldl .and f).eval truth = (f.eval truth && rest.all (Formula.eval truth)) := by
  induction rest generalizing f with
  | nil => rw [List.foldl_nil, List.all_nil, Bool.and_true]
  | cons g rest ih => rw [List.foldl_cons, ih, List.all_cons, Formula.eval, Bool.and_assoc]

/-- A chain of `or` is true if one of its members is. -/
theorem eval_foldl_or (truth : List Piece → Bool) (f : Formula) (rest : List Formula) :
    (rest.foldl .or f).eval truth = (f.eval truth || rest.any (Formula.eval truth)) := by
  induction rest generalizing f with
  | nil => rw [List.foldl_nil, List.any_nil, Bool.or_false]
  | cons g rest ih => rw [List.foldl_cons, ih, List.any_cons, Formula.eval, Bool.or_assoc]

/-- **Operands joined by `and`** hold together exactly when all of them do. -/
theorem formula_joined_and {parts : List (List Piece)} {fs : List Formula} (h : ReadAs parts fs)
    (hne : parts ≠ []) :
    ∃ f, formula ([.plain andWord].intercalate parts) = some f ∧
      ∀ truth, f.eval truth = fs.all (Formula.eval truth) := by
  match fs, h with
  | [], h => exact absurd (List.forall₂_nil_right_iff.mp h) hne
  | f :: rest, h =>
    refine ⟨rest.foldl .and f, ?_, fun truth => eval_foldl_and truth f rest⟩
    have hunbroken := unbroken_of_readAs h
    -- no `or` stands between the operands either, so all of them are in one clause
    have hor : (itemsOf ([.plain andWord].intercalate parts)).splitOnP
        (fun item => item.1.isPlain orWord) = [itemsOf ([.plain andWord].intercalate parts)] := by
      refine List.splitOnP_eq_singleton ?_
      rw [itemsOf_eq_map]
      intro item hitem
      obtain ⟨p, hp, rfl⟩ := List.mem_map.mp hitem
      rcases mem_joined hp with rfl | ⟨part, hpart, hp⟩
      · rfl
      · exact (hunbroken part hpart p hp).2
    rw [formula, assemble, hor, mapM_singleton, clause, itemsOf_joined,
      splitOnP_joined rfl (by simpa using hne)
        (breakFree_items fun part hpart p hp => (hunbroken part hpart p hp).1),
      mapM_of_readAs h fun _ _ => rfl]
    rfl

/-- **Operands joined by `or`** hold together exactly when some of them does. -/
theorem formula_joined_or {parts : List (List Piece)} {fs : List Formula} (h : ReadAs parts fs)
    (hne : parts ≠ []) :
    ∃ f, formula ([.plain orWord].intercalate parts) = some f ∧
      ∀ truth, f.eval truth = fs.any (Formula.eval truth) := by
  match fs, h with
  | [], h => exact absurd (List.forall₂_nil_right_iff.mp h) hne
  | f :: rest, h =>
    refine ⟨rest.foldl .or f, ?_, fun truth => eval_foldl_or truth f rest⟩
    have hunbroken := unbroken_of_readAs h
    rw [formula, assemble, itemsOf_joined,
      splitOnP_joined rfl (by simpa using hne)
        (breakFree_items fun part hpart p hp => (hunbroken part hpart p hp).2),
      mapM_of_readAs h fun _ => clause_of_unbroken]
    rfl

end HomeScenes.Lua
