import HomeScenes.Proofs.Lua.Scan

/-!
# Reading scene code as a boolean expression

  A text is read as a boolean expression in four stages, each a function of its own:

  1. `symbols`: literals are skipped as units;
  2. `tokens`: letters, digits and underscores that stand together form a word, blanks separate, and
     any other character stands for itself;
  3. `pieces`: parentheses are matched, with a stack;
  4. `formula`: the pieces between one `or` and the next are clauses, those between one `and` and
     the next are operands.  An operand that is one pair of parentheses is read within, and any
     other is an atom.

  So `and` binds tighter than `or`, both bind looser than everything else, and words within a
  literal or within the parentheses of a call count for nothing.  The reading fails if a literal
  or a parenthesis is not closed, and if an operand is empty.

  The crux is `pieces_eq_some_iff`: pieces are nothing but tokens with their parentheses matched,
  so that the pieces of a text are found from those of its parts (`piecesOf_blank`,
  `piecesOf_paren`).
-/

namespace HomeScenes.Lua

/-! ## Tokens -/

/-- A token other than a parenthesis. -/
inductive Lexeme where
  | word (chars : List Char)
  | literal (body : List Char)
  | mark (c : Char)
deriving DecidableEq

/-- **A token** of the scene language, as far as boolean expressions depend on it. -/
inductive Token where
  | opening
  | closing
  | plain (lexeme : Lexeme)
deriving DecidableEq

/-- A character of a word. -/
def isWordChar (c : Char) : Bool :=
  c.isAlphanum || c == '_'

/-- A character that only separates. -/
def isBlank (c : Char) : Bool :=
  c == ' ' || c == '\t' || c == '\n' || c == '\r' || c == '\x0b' || c == '\x0c'

/-- A word that has come to its end. -/
def ended (word : List Char) : List Token :=
  if word.isEmpty then [] else [.plain (.word word)]

/-- What a character outside of words stands for. -/
def markOf (c : Char) : List Token :=
  if c = '(' then [.opening]
  else if c = ')' then [.closing]
  else if isBlank c then []
  else [.plain (.mark c)]

/-- The tokens of symbols that follow the beginning of a word. -/
def tokensFrom (word : List Char) : List Symbol → List Token
  | [] => ended word
  | .char c :: rest =>
    if isWordChar c then tokensFrom (word ++ [c]) rest
      else ended word ++ markOf c ++ tokensFrom [] rest
  | .literal body :: rest => ended word ++ .plain (.literal body) :: tokensFrom [] rest

/-- **The tokens** of symbols. -/
def tokens (syms : List Symbol) : List Token :=
  tokensFrom [] syms

/-! ## Pieces -/

/-- **A piece**: a token other than a parenthesis, or what stands between two parentheses. -/
inductive Piece where
  | plain (lexeme : Lexeme)
  | paren (inside : List Piece)

/-- The parentheses that are open, the innermost first, each with the pieces in it so far, the last
    first; the outermost stands for the text itself. -/
abbrev Stack := List (List Piece)

/-- One token more. -/
def matchStep : Token → Stack → Option Stack
  | .opening, stack => some ([] :: stack)
  | .closing, here :: outer :: rest => some ((.paren here.reverse :: outer) :: rest)
  | .closing, _ => none
  | .plain l, here :: rest => some ((.plain l :: here) :: rest)
  | .plain _, [] => none

/-- **Matching** parentheses over tokens. -/
def matchAll : List Token → Stack → Option Stack
  | [], stack => some stack
  | t :: rest, stack => (matchStep t stack).bind (matchAll rest)

/-- **The pieces** of tokens, if all parentheses are matched. -/
def pieces (ts : List Token) : Option (List Piece) :=
  match matchAll ts [[]] with
  | some [here] => some here.reverse
  | _ => none

/-- The pieces of a text. -/
def piecesOf (text : List Char) : Option (List Piece) :=
  (symbols text).bind fun syms => pieces (tokens syms)

/-! ## Formulas -/

/-- **A boolean expression** over atoms. -/
inductive Formula where
  | atom (ps : List Piece)
  | and (left right : Formula)
  | or (left right : Formula)

/-- **The value** of an expression under an assignment of truth values to atoms. -/
def Formula.eval (truth : List Piece → Bool) : Formula → Bool
  | .atom ps => truth ps
  | .and left right => left.eval truth && right.eval truth
  | .or left right => left.eval truth || right.eval truth

/-- The word between operands. -/
def andWord : Lexeme := .word ['a', 'n', 'd']

/-- The word between clauses. -/
def orWord : Lexeme := .word ['o', 'r']

/-- Whether a piece is a given token. -/
def Piece.isPlain (l : Lexeme) : Piece → Bool
  | .plain l' => l' = l
  | .paren _ => false

/-- A piece with the expression read within it, if it is a pair of parentheses. -/
abbrev Item := Piece × Option Formula

/-- An operand: one pair of parentheses is read within, anything else is an atom. -/
def operand : List Item → Option Formula
  | [] => none
  | [(.paren _, inner)] => inner
  | items => some (.atom (items.map Prod.fst))

/-- The expressions joined from left to right. -/
def chain (join : Formula → Formula → Formula) : List Formula → Option Formula
  | [] => none
  | f :: rest => some (rest.foldl join f)

/-- A clause: operands with `and` between them. -/
def clause (items : List Item) : Option Formula :=
  ((items.splitOnP fun item => item.1.isPlain andWord).mapM operand).bind (chain .and)

/-- An expression: clauses with `or` between them. -/
def assemble (items : List Item) : Option Formula :=
  ((items.splitOnP fun item => item.1.isPlain orWord).mapM clause).bind (chain .or)

mutual

/-- The expression within a piece. -/
def Piece.inner : Piece → Option Formula
  | .plain _ => none
  | .paren inside => assemble (itemsOf inside)

/-- Pieces with the expressions within them. -/
def itemsOf : List Piece → List Item
  | [] => []
  | p :: rest => (p, p.inner) :: itemsOf rest

end

/-- **The expression** that pieces form. -/
def formula (ps : List Piece) : Option Formula :=
  assemble (itemsOf ps)

/-- **Reading** a text as a boolean expression. -/
def read? (text : String) : Option Formula :=
  (piecesOf text.toList).bind formula

/-! ## Laws of tokens -/

/-- Whether a symbol may belong to a word. -/
def Symbol.isWord : Symbol → Bool
  | .char c => isWordChar c
  | .literal _ => false

/-- The tokens of a symbol outside of words. -/
def Symbol.marks : Symbol → List Token
  | .char c => markOf c
  | .literal body => [.plain (.literal body)]

/-- A symbol that belongs to no word separates the tokens before it from those after it. -/
theorem tokensFrom_append_cons (word : List Char) (x y : List Symbol) {s : Symbol}
    (hs : s.isWord = false) :
    tokensFrom word (x ++ s :: y) = tokensFrom word x ++ s.marks ++ tokens y := by
  induction x generalizing word with
  | nil =>
    cases s with
    | char c =>
      have hc : isWordChar c = false := hs
      simp [tokensFrom, tokens, Symbol.marks, hc]
    | literal body => simp [tokensFrom, tokens, Symbol.marks]
  | cons first rest ih =>
    cases first with
    | char d =>
      rw [List.cons_append, tokensFrom, tokensFrom]
      split
      · exact ih _
      · rw [ih]; simp only [List.append_assoc]
    | literal body =>
      rw [List.cons_append, tokensFrom, tokensFrom, ih]
      simp only [List.append_assoc, List.cons_append]

theorem eq_of_word_mem_ended {w word : List Char} (h : .plain (.word w) ∈ ended word) :
    w = word := by
  rw [ended] at h
  split at h
  · exact nomatch h
  · simpa using h

theorem word_not_mem_markOf (w : List Char) (c : Char) : .plain (.word w) ∉ markOf c := by
  rw [markOf]
  split
  · simp
  · split
    · simp
    · split <;> simp

/-- The characters of a word come from the symbols. -/
theorem mem_of_word_mem {word w : List Char} {syms : List Symbol}
    (h : .plain (.word w) ∈ tokensFrom word syms) : ∀ c ∈ w, c ∈ word ∨ .char c ∈ syms := by
  induction syms generalizing word with
  | nil =>
    intro c hc
    rw [eq_of_word_mem_ended h] at hc
    exact Or.inl hc
  | cons s rest ih =>
    intro c hc
    have hlater : .plain (.word w) ∈ tokensFrom [] rest → c ∈ word ∨ .char c ∈ s :: rest := by
      intro h
      rcases ih h c hc with hw | hs
      · exact nomatch hw
      · exact Or.inr (List.mem_cons_of_mem _ hs)
    cases s with
    | char d =>
      rw [tokensFrom] at h
      split at h
      · rcases ih h c hc with hw | hs
        · rcases List.mem_append.mp hw with hw | hd
          · exact Or.inl hw
          · rw [List.mem_singleton.mp hd]; exact Or.inr List.mem_cons_self
        · exact Or.inr (List.mem_cons_of_mem _ hs)
      · rcases List.mem_append.mp h with h | h
        · rcases List.mem_append.mp h with h | h
          · rw [eq_of_word_mem_ended h] at hc; exact Or.inl hc
          · exact absurd h (word_not_mem_markOf w d)
        · exact hlater h
    | literal body =>
      rw [tokensFrom] at h
      rcases List.mem_append.mp h with h | h
      · rw [eq_of_word_mem_ended h] at hc; exact Or.inl hc
      · rcases List.mem_cons.mp h with h | h
        · exact nomatch h
        · exact hlater h

/-! ## Laws of matching -/

theorem matchAll_append (a b : List Token) (stack : Stack) :
    matchAll (a ++ b) stack = (matchAll a stack).bind (matchAll b) := by
  induction a generalizing stack with
  | nil => rfl
  | cons t rest ih =>
    rw [List.cons_append, matchAll, matchAll, Option.bind_assoc]
    exact congrArg (Option.bind _) (funext ih)

mutual

/-- The tokens of a piece. -/
def Piece.flat : Piece → List Token
  | .plain l => [.plain l]
  | .paren inside => .opening :: (flatten inside ++ [.closing])

/-- **The tokens of pieces**, with their parentheses. -/
def flatten : List Piece → List Token
  | [] => []
  | p :: rest => p.flat ++ flatten rest

end

theorem flatten_append (ps qs : List Piece) : flatten (ps ++ qs) = flatten ps ++ flatten qs := by
  induction ps with
  | nil => rfl
  | cons p rest ih => rw [List.cons_append, flatten, flatten, ih, List.append_assoc]

/-- The tokens that a stack has taken in. -/
def Stack.taken : Stack → List Token
  | [] => []
  | [here] => flatten here.reverse
  | here :: outer :: rest => Stack.taken (outer :: rest) ++ .opening :: flatten here.reverse

/-- A piece on top of the stack adds its tokens to what was taken in. -/
theorem taken_push (p : Piece) (here : List Piece) (rest : Stack) :
    Stack.taken ((p :: here) :: rest) = Stack.taken (here :: rest) ++ p.flat := by
  have hflat : flatten (p :: here).reverse = flatten here.reverse ++ p.flat := by
    rw [List.reverse_cons, flatten_append, flatten, flatten, List.append_nil]
  cases rest with
  | nil => rw [Stack.taken, Stack.taken, hflat]
  | cons outer rest =>
    rw [Stack.taken, Stack.taken, hflat, List.append_assoc]
    rfl

/-- **One step** takes in its token, and leaves something on the stack. -/
theorem taken_matchStep {t : Token} {stack after : Stack} (hne : stack ≠ [])
    (h : matchStep t stack = some after) : after ≠ [] ∧ after.taken = stack.taken ++ [t] := by
  cases t with
  | opening =>
    injection h with h
    subst h
    cases stack with
    | nil => exact absurd rfl hne
    | cons here rest => exact ⟨List.cons_ne_nil _ _, rfl⟩
  | closing =>
    match stack, h with
    | here :: outer :: rest, h =>
      injection h with h
      subst h
      refine ⟨List.cons_ne_nil _ _, ?_⟩
      rw [taken_push, Stack.taken, List.append_assoc, Piece.flat]
      rfl
  | plain l =>
    match stack, h with
    | here :: rest, h =>
      injection h with h
      subst h
      exact ⟨List.cons_ne_nil _ _, taken_push (.plain l) here rest⟩

/-- **A run** takes in all of its tokens. -/
theorem taken_matchAll {ts : List Token} {stack after : Stack} (hne : stack ≠ [])
    (h : matchAll ts stack = some after) : after.taken = stack.taken ++ ts := by
  induction ts generalizing stack with
  | nil => injection h with h; rw [h, List.append_nil]
  | cons t rest ih =>
    rw [matchAll, Option.bind_eq_some_iff] at h
    obtain ⟨next, hstep, hrest⟩ := h
    obtain ⟨hnext, htaken⟩ := taken_matchStep hne hstep
    rw [ih hnext hrest, htaken, List.append_assoc]
    rfl

mutual

/-- The tokens of a piece put that piece on the stack. -/
theorem Piece.matchAll_flat : ∀ (p : Piece) (here : List Piece) (outer : Stack),
    matchAll p.flat (here :: outer) = some ((p :: here) :: outer)
  | .plain _, _, _ => rfl
  | .paren inside, here, outer => by
    rw [Piece.flat, matchAll, matchStep, Option.bind_some, matchAll_append,
      matchAll_flatten inside [] (here :: outer), Option.bind_some, List.append_nil, matchAll,
      matchStep, Option.bind_some, List.reverse_reverse]
    rfl

/-- The tokens of pieces put those pieces on the stack. -/
theorem matchAll_flatten : ∀ (ps here : List Piece) (outer : Stack),
    matchAll (flatten ps) (here :: outer) = some ((ps.reverse ++ here) :: outer)
  | [], _, _ => rfl
  | p :: rest, here, outer => by
    rw [flatten, matchAll_append, p.matchAll_flat here outer, Option.bind_some,
      matchAll_flatten rest (p :: here) outer, List.reverse_cons, List.append_assoc]
    rfl

end

/-- **Pieces are tokens with their parentheses matched**, and nothing is lost or added. -/
theorem pieces_eq_some_iff {ts : List Token} {ps : List Piece} :
    pieces ts = some ps ↔ flatten ps = ts := by
  constructor
  · intro h
    rw [pieces] at h
    split at h
    · rename_i here hrun
      injection h with h
      rw [← h]
      exact taken_matchAll (List.cons_ne_nil _ _) hrun
    · exact nomatch h
  · rintro rfl
    rw [pieces, matchAll_flatten, List.append_nil]
    simp

end HomeScenes.Lua
