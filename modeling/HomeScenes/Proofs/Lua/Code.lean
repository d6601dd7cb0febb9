import HomeScenes.Proofs.Lua.Joined
import HomeScenes.Proofs.Number.Numeral

/-!
# Reading any code

  `read?` knows the code that is put together from fixed parts and embedded ones: its literals
  have double quotes, and round parentheses are all that nests in it.  A fragment that somebody
  else wrote may be any code, so it is read by more of the rules of the scene language:

  * a literal has double quotes, single quotes or long brackets, `[[` or `[==[`;
  * a comment goes from two dashes to the end of the line, or is a long bracket after two dashes,
    and only separates;
  * square brackets, braces and blocks, from `function`, `if`, `do` or `repeat` to `end` or
    `until`, hide what is in them just as parentheses do.

  The scan is a machine that takes one character at a time (`Place.step`).  What a dash or a
  bracket begins is not known before the next character, so it is held back until then, or until
  the end (`Place.finish`).  A text that ends within a literal or a comment is not complete: what
  follows it would be part of it.

  The crux is `scan_append`: a complete text ends where it ends, whatever follows, as long as the
  next character is none that what is held back could go on with.
-/

namespace HomeScenes.Lua.Code

/-! ## Symbols -/

/-- Where a scan is.  What was read of a literal is kept, the last character first; of a long
    bracket it is also known whether it is a comment and how much of its end was read last. -/
inductive Place where
  | outside
  | dash
  | bracket (level : Nat)
  | comment
  | commentBracket (level : Nat)
  | line
  | quoted (quote : Char) (body : List Char)
  | escaped (quote : Char) (body : List Char)
  | long (level : Nat) (silent : Bool) (body : List Char) (closing : Option Nat)

/-- A character that ends a line. -/
def isNewline (c : Char) : Bool :=
  c == '\n' || c == '\r'

/-- A character with which a literal in quotes begins and ends. -/
def isQuote (c : Char) : Bool :=
  c == '"' || c == '\x27'

namespace Place

/-- The beginning of a long bracket that turned out to be none. -/
def bracketChars (level : Nat) : List Symbol :=
  .char '[' :: List.replicate level (.char '=')

/-- One character outside of everything. -/
def stepOutside (c : Char) : List Symbol × Place :=
  if isQuote c then ([], .quoted c [])
  else if c = '-' then ([], .dash)
  else if c = '[' then ([], .bracket 0)
  else ([.char c], .outside)

/-- What was held back, and then one character outside of everything. -/
def release (held : List Symbol) (c : Char) : List Symbol × Place :=
  (held ++ (stepOutside c).1, (stepOutside c).2)

/-- **One character more**: the symbols that are known by it, and where the scan is then. -/
def step : Place → Char → List Symbol × Place
  | .outside, c => stepOutside c
  | .dash, c => if c = '-' then ([.char ' '], .comment) else release [.char '-'] c
  | .bracket n, c =>
    if c = '=' then ([], .bracket (n + 1))
    else if c = '[' then ([], .long n false [] none)
    else release (bracketChars n) c
  | .comment, c =>
    if c = '[' then ([], .commentBracket 0) else if isNewline c then ([], .outside) else ([], .line)
  | .commentBracket n, c =>
    if c = '=' then ([], .commentBracket (n + 1))
    else if c = '[' then ([], .long n true [] none)
    else if isNewline c then ([], .outside)
    else ([], .line)
  | .line, c => if isNewline c then ([], .outside) else ([], .line)
  | .quoted q body, c =>
    if c = q then ([.literal body.reverse], .outside)
    else if c = '\\' then ([], .escaped q (c :: body))
    else ([], .quoted q (c :: body))
  | .escaped q body, c => ([], .quoted q (c :: body))
  | .long n silent body closing, c =>
    if c = ']' then
      if closing = some n then (if silent then [] else [.literal (body.drop (n + 1)).reverse],
        .outside)
      else ([], .long n silent (c :: body) (some 0))
    else if c = '=' then ([], .long n silent (c :: body) (closing.map (· + 1)))
    else ([], .long n silent (c :: body) none)

/-- What was held back when a text ends; within a literal or a comment it is not complete. -/
def finish : Place → Option (List Symbol)
  | .outside => some []
  | .dash => some [.char '-']
  | .bracket n => some (bracketChars n)
  | _ => none

end Place

/-- **The scan** from some place on. -/
def scan : Place → List Char → Option (List Symbol)
  | place, [] => place.finish
  | place, c :: rest => (scan (place.step c).2 rest).map ((place.step c).1 ++ ·)

/-- **The symbols** of a complete text. -/
def symbols (text : List Char) : Option (List Symbol) :=
  scan .outside text

/-! ## Pieces -/

/-- What begins something other than parentheses. -/
def openers : List Lexeme :=
  [.mark '[', .mark '{', .word "function".toList, .word "if".toList, .word "do".toList,
    .word "repeat".toList]

/-- What ends something other than parentheses. -/
def closers : List Lexeme :=
  [.mark ']', .mark '}', .word "end".toList, .word "until".toList]

/-- A token that begins or ends something, with the parenthesis that hides what is in it. -/
def widened : Token → List Token
  | .plain l =>
    if l ∈ openers then [.plain l, .opening] else if l ∈ closers then [.closing, .plain l]
      else [.plain l]
  | t => [t]

/-- **The pieces** of a text. -/
def piecesOf (text : List Char) : Option (List Piece) :=
  (symbols text).bind fun syms => pieces ((tokens syms).flatMap widened)

/-- **Reading** a text as a boolean expression. -/
def read? (text : String) : Option Formula :=
  (piecesOf text.toList).bind formula

/-! ## Laws of the scan -/

/-- A character that stands for itself, whatever was held back before it. -/
def isSeparate (c : Char) : Bool :=
  !isQuote c && c != '-' && c != '[' && c != '='

theorem stepOutside_of_isSeparate {c : Char} (hc : isSeparate c = true) :
    Place.stepOutside c = ([.char c], .outside) := by
  simp only [isSeparate, Bool.and_eq_true, Bool.not_eq_true', bne_iff_ne] at hc
  obtain ⟨⟨⟨hquote, hdash⟩, hbracket⟩, _⟩ := hc
  rw [Place.stepOutside, hquote, if_neg Bool.false_ne_true, if_neg hdash, if_neg hbracket]

/-- **A text that may end here** may go on with a separate character just as well. -/
theorem Place.step_of_finish {place : Place} {held : List Symbol} {c : Char}
    (hc : isSeparate c = true)
    (h : place.finish = some held) : place.step c = (held ++ [.char c], .outside) := by
  have hout := stepOutside_of_isSeparate hc
  simp only [isSeparate, Bool.and_eq_true, Bool.not_eq_true', bne_iff_ne] at hc
  obtain ⟨⟨⟨_, hdash⟩, hbracket⟩, hequals⟩ := hc
  cases place with
  | outside => rw [← Option.some.inj h, Place.step, hout]; rfl
  | dash => rw [← Option.some.inj h, Place.step, if_neg hdash, Place.release, hout]
  | bracket n =>
    rw [← Option.some.inj h, Place.step, if_neg hequals, if_neg hbracket, Place.release, hout]
  | comment | commentBracket | line | quoted | escaped | long => cases h

/-- **The scan goes on** after a complete text and a separate character as if nothing had come
    before. -/
theorem scan_append {place : Place} {a b : List Char} {c : Char} {x y : List Symbol}
    (hc : isSeparate c = true) (ha : scan place a = some x) (hb : symbols b = some y) :
    scan place (a ++ c :: b) = some (x ++ .char c :: y) := by
  induction a generalizing place x with
  | nil =>
    rw [symbols] at hb
    rw [List.nil_append, scan, Place.step_of_finish hc ha, hb, Option.map_some, List.append_assoc]
    rfl
  | cons d rest ih =>
    rw [scan, Option.map_eq_some_iff] at ha
    obtain ⟨z, hz, rfl⟩ := ha
    rw [List.cons_append, scan, ih hz, Option.map_some, List.append_assoc]

/-- Two texts may be scanned one by one if a character that belongs to neither stands between. -/
theorem symbols_append {a b : List Char} {c : Char} {x y : List Symbol} (hc : isSeparate c = true)
    (ha : symbols a = some x) (hb : symbols b = some y) :
    symbols (a ++ c :: b) = some (x ++ .char c :: y) :=
  scan_append hc ha hb

/-- A character that begins nothing. -/
def isOrdinary (c : Char) : Bool :=
  !isQuote c && c != '['

/-- **Ordinary characters** are their own symbols, unless two dashes are among them.  By
    induction, a dash being held back or not. -/
theorem scan_ordinary {a : List Char} (h : ∀ c ∈ a, isOrdinary c = true)
    (hdash : hasDouble '-' a = false) :
    scan .outside a = some (a.map .char) ∧
      (a.head? ≠ some '-' → scan .dash a = some (.char '-' :: a.map .char)) := by
  induction a with
  | nil => exact ⟨rfl, fun _ => rfl⟩
  | cons c rest ih =>
    have hc := h c List.mem_cons_self
    simp only [isOrdinary, Bool.and_eq_true, Bool.not_eq_true', bne_iff_ne] at hc
    have hrest : hasDouble '-' rest = false := by
      cases rest with
      | nil => rfl
      | cons d more => rw [hasDouble, Bool.or_eq_false_iff] at hdash; exact hdash.2
    obtain ⟨hout, hheld⟩ := ih (fun d hd => h d (List.mem_cons_of_mem _ hd)) hrest
    by_cases hcdash : c = '-'
    · subst hcdash
      have hhead : rest.head? ≠ some '-' := by
        intro hd
        cases rest with
        | nil => cases hd
        | cons d more =>
          rw [Option.some.inj hd, hasDouble, Bool.or_eq_false_iff] at hdash
          exact absurd hdash.1 (by decide)
      refine ⟨?_, fun hne => absurd rfl hne⟩
      rw [scan]
      show (scan .dash rest).map ([] ++ ·) = _
      rw [hheld hhead, Option.map_some]
      rfl
    · have hstep : Place.stepOutside c = ([.char c], .outside) := by
        rw [Place.stepOutside, hc.1, if_neg Bool.false_ne_true, if_neg hcdash, if_neg hc.2]
      constructor
      · rw [scan, Place.step, hstep, hout]
        rfl
      · intro _
        rw [scan, Place.step, if_neg hcdash, Place.release, hstep, hout]
        rfl

/-- One escaped character is passed over within a literal. -/
theorem scan_escapeChar (c : Char) (body rest : List Char) :
    scan (.quoted '"' body) (escapeChar c ++ rest) =
      scan (.quoted '"' ((escapeChar c).reverse ++ body)) rest := by
  have hdigit : ∀ n, Nat.digitChar n ≠ '"' ∧ Nat.digitChar n ≠ '\\' := by
    intro n
    rcases Nat.lt_or_ge n 16 with hn | hn
    · revert n; decide
    · rw [Nat.digitChar_eq_star.mpr hn]; decide
  rcases escapeChar_cases c with ⟨name, _, hc⟩ | ⟨_, hc⟩ | ⟨_, hbackslash, hquote, hc⟩
  · rw [hc]; simp [scan, Place.step]
  · rw [hc]; simp [decimalEscape, scan, Place.step, hdigit]
  · rw [hc]; simp [scan, Place.step, hbackslash, hquote]

/-- An escaped text never leaves the literal that it stands in. -/
theorem scan_escape (s body rest : List Char) :
    scan (.quoted '"' body) (s.flatMap escapeChar ++ rest) =
      scan (.quoted '"' ((s.flatMap escapeChar).reverse ++ body)) rest := by
  induction s generalizing body with
  | nil => rfl
  | cons c s ih =>
    rw [List.flatMap_cons, List.append_assoc, scan_escapeChar, ih, List.reverse_append,
      List.append_assoc]

/-- **An escaped text between quotes** is one literal. -/
theorem symbols_quote (s : String) :
    symbols (quote s).toList = some [.literal (escape s).toList] := by
  have htext : (quote s).toList = '"' :: (s.toList.flatMap escapeChar ++ ['"']) := by
    simp [quote, escape]
  have hbody : (escape s).toList = s.toList.flatMap escapeChar := by simp [escape]
  have hopen : Place.step .outside '"' = ([], .quoted '"' []) := rfl
  rw [htext, hbody, symbols, scan, hopen, scan_escape]
  simp [scan, Place.step, Place.finish]

/-! ## Laws of pieces -/

theorem piecesOf_eq_some_iff {text : List Char} {ps : List Piece} :
    piecesOf text = some ps ↔ ∃ syms, symbols text = some syms ∧
      flatten ps = (tokens syms).flatMap widened := by
  rw [piecesOf, Option.bind_eq_some_iff]
  simp only [pieces_eq_some_iff]

section Pieces

variable {a b : List Char} {ps qs : List Piece}

/-- **A character of its own between two texts**: the pieces of the first, what the character
    stands for, and the pieces of the second. -/
theorem piecesOf_mark {c : Char} {ms : List Piece} (hc : isSeparate c = true)
    (hword : isWordChar c = false)
    (hms : flatten ms = (markOf c).flatMap widened) (ha : piecesOf a = some ps)
    (hb : piecesOf b = some qs) :
    piecesOf (a ++ c :: b) = some (ps ++ ms ++ qs) := by
  obtain ⟨x, hx, hps⟩ := piecesOf_eq_some_iff.mp ha
  obtain ⟨y, hy, hqs⟩ := piecesOf_eq_some_iff.mp hb
  refine piecesOf_eq_some_iff.mpr ⟨_, symbols_append hc hx hy, ?_⟩
  have htokens : tokens (x ++ .char c :: y) = tokens x ++ markOf c ++ tokens y :=
    tokensFrom_append_cons [] x y hword
  rw [htokens, flatten_append, flatten_append, hps, hms, hqs, List.flatMap_append,
    List.flatMap_append]

/-- **A blank between two texts**: the pieces of the first, then those of the second. -/
theorem piecesOf_blank (ha : piecesOf a = some ps) (hb : piecesOf b = some qs) :
    piecesOf (a ++ ' ' :: b) = some (ps ++ qs) := by
  have h : piecesOf (a ++ ' ' :: b) = some (ps ++ [] ++ qs) :=
    piecesOf_mark (by decide) (by decide) rfl ha hb
  rw [List.append_nil] at h
  exact h

/-- **Parentheses after a text**: its pieces, and those between the parentheses in one pair. -/
theorem piecesOf_call (ha : piecesOf a = some ps) (hb : piecesOf b = some qs) :
    piecesOf (a ++ '(' :: (b ++ [')'])) = some (ps ++ [.paren qs]) := by
  obtain ⟨x, hx, hps⟩ := piecesOf_eq_some_iff.mp ha
  obtain ⟨y, hy, hqs⟩ := piecesOf_eq_some_iff.mp hb
  have hclose : symbols (b ++ ')' :: []) = some (y ++ .char ')' :: []) :=
    symbols_append (by decide) hy rfl
  refine piecesOf_eq_some_iff.mpr ⟨_, symbols_append (by decide) hx hclose, ?_⟩
  have htokens : tokens (x ++ .char '(' :: (y ++ [.char ')'])) =
      tokens x ++ [.opening] ++ (tokens y ++ [.closing] ++ []) := by
    have hinner : tokens (y ++ [.char ')']) = tokens y ++ [.closing] ++ [] :=
      tokensFrom_append_cons [] y [] (by decide)
    rw [← hinner]
    exact tokensFrom_append_cons [] x (y ++ [.char ')']) (s := .char '(') (by decide)
  have hopening : widened .opening = [.opening] := by decide
  have hclosing : widened .closing = [.closing] := by decide
  rw [htokens, flatten_append, flatten, flatten, Piece.flat, hps, hqs]
  simp only [List.flatMap_append, List.flatMap_cons, List.flatMap_nil, hopening, hclosing,
    List.append_nil, List.append_assoc, List.cons_append, List.nil_append]

theorem piecesOf_nil : piecesOf [] = some [] :=
  piecesOf_eq_some_iff.mpr ⟨[], rfl, rfl⟩

/-- **Parentheses around a text**: its pieces in one pair. -/
theorem piecesOf_paren (hb : piecesOf b = some qs) :
    piecesOf ('(' :: (b ++ [')'])) = some [.paren qs] :=
  piecesOf_call piecesOf_nil hb

/-- **A function**: what stands between its words is hidden. -/
theorem piecesOf_function (ha : piecesOf ('(' :: a) = some ps) :
    piecesOf ("function".toList ++ '(' :: a ++ ' ' :: "end".toList) =
      some [.plain (.word "function".toList), .paren ps, .plain (.word "end".toList)] := by
  obtain ⟨y, hy, hps⟩ := piecesOf_eq_some_iff.mp ha
  obtain ⟨z, hz, rfl⟩ := Option.map_eq_some_iff.mp hy
  have hfunction : symbols "function".toList = some ("function".toList.map .char) := by decide
  have hend : symbols "end".toList = some ("end".toList.map .char) := by decide
  have hcall : symbols ("function".toList ++ '(' :: a) =
      some ("function".toList.map .char ++ .char '(' :: z) :=
    symbols_append (by decide) hfunction hz
  refine piecesOf_eq_some_iff.mpr ⟨_, symbols_append (by decide) hcall hend, ?_⟩
  -- the words are tokens of their own, and what stands between them has the tokens that it has
  -- alone
  have halone : tokens (.char '(' :: z) = [] ++ [.opening] ++ tokens z :=
    tokensFrom_append_cons [] [] z (s := .char '(') (by decide)
  have hopen : tokens ("function".toList.map .char ++ .char '(' :: z) =
      [.plain (.word "function".toList)] ++ tokens (.char '(' :: z) := by
    rw [halone]
    exact tokensFrom_append_cons [] _ z (s := .char '(') (by decide)
  have hall : tokens ("function".toList.map .char ++ .char '(' :: z ++
      .char ' ' :: "end".toList.map .char) =
      tokens ("function".toList.map .char ++ .char '(' :: z) ++ [] ++
        [.plain (.word "end".toList)] :=
    tokensFrom_append_cons [] _ _ (s := .char ' ') (by decide)
  have hwide : widened (.plain (.word "function".toList)) =
      [.plain (.word "function".toList), .opening] := by
    decide
  have hwide' : widened (.plain (.word "end".toList)) = [.closing, .plain (.word "end".toList)] :=
    by decide
  have hflat : flatten ps = (tokens (.char '(' :: z)).flatMap widened := hps
  rw [hall, hopen, flatten, flatten, flatten, flatten, Piece.flat, Piece.flat, Piece.flat, hflat]
  simp only [List.flatMap_append, List.flatMap_cons, List.flatMap_nil, hwide, hwide',
    List.append_nil, List.append_assoc, List.cons_append, List.nil_append]

theorem piecesOf_and : piecesOf "and".toList = some [.plain andWord] :=
  piecesOf_eq_some_iff.mpr ⟨_, rfl, rfl⟩

theorem piecesOf_or : piecesOf "or".toList = some [.plain orWord] :=
  piecesOf_eq_some_iff.mpr ⟨_, rfl, rfl⟩

theorem piecesOf_quote (s : String) :
    piecesOf (quote s).toList = some [.plain (.literal (escape s).toList)] :=
  piecesOf_eq_some_iff.mpr ⟨_, symbols_quote s, rfl⟩

end Pieces

/-! ## What is embedded -/

/-- The characters of a token. -/
def charsOf : Lexeme → List Char
  | .word chars => chars
  | .literal body => body
  | .mark c => [c]

/-- What no operand has at its top: what begins or ends something, and the connectives. -/
def reserved : List Lexeme :=
  openers ++ closers ++ [andWord, orWord]

/-- Tokens of characters other than parentheses are none, and have the characters that they are
    made of. -/
theorem plain_of_mem_tokensFrom {good : Char → Bool} (hopen : good '(' = false)
    (hclose : good ')' = false)
    {word chars : List Char} (hword : ∀ c ∈ word, good c = true)
    (hchars : ∀ c ∈ chars, good c = true) :
    ∀ t ∈ tokensFrom word (chars.map .char), ∃ l, t = .plain l ∧ ∀ c ∈ charsOf l,
      good c = true := by
  have hended : ∀ w : List Char, (∀ c ∈ w, good c = true) →
      ∀ t ∈ ended w, ∃ l, t = .plain l ∧ ∀ c ∈ charsOf l, good c = true := by
    intro w hw t ht
    rw [ended] at ht
    split at ht
    · exact absurd ht List.not_mem_nil
    · exact ⟨.word w, List.mem_singleton.mp ht, hw⟩
  induction chars generalizing word with
  | nil => exact hended word hword
  | cons c rest ih =>
    rw [List.forall_mem_cons] at hchars
    intro t ht
    rw [List.map_cons, tokensFrom] at ht
    split at ht
    · refine ih ?_ hchars.2 t ht
      exact List.forall_mem_append.mpr ⟨hword, List.forall_mem_singleton.mpr hchars.1⟩
    · rcases List.mem_append.mp ht with ht | ht
      · rcases List.mem_append.mp ht with ht | ht
        · exact hended word hword t ht
        · have hne : c ≠ '(' ∧ c ≠ ')' := by
            constructor
            · rintro rfl; exact absurd hchars.1 (Bool.eq_false_iff.mp hopen)
            · rintro rfl; exact absurd hchars.1 (Bool.eq_false_iff.mp hclose)
          rw [markOf, if_neg hne.1, if_neg hne.2] at ht
          split at ht
          · exact absurd ht List.not_mem_nil
          · exact ⟨.mark c, List.mem_singleton.mp ht, List.forall_mem_singleton.mpr hchars.1⟩
      · exact ih (fun _ hc => absurd hc List.not_mem_nil) hchars.2 t ht

/-- A token that is nothing reserved and no parenthesis. -/
def isFree : Token → Bool
  | .plain l => decide (l ∉ reserved)
  | _ => false

/-- **Free tokens** are pieces of their own. -/
theorem exists_pieces_of_isFree {ts : List Token} (h : ∀ t ∈ ts, isFree t = true) :
    ∃ ls : List Lexeme, ts = ls.map .plain ∧ flatten (ls.map .plain) = ts.flatMap widened ∧
      Unbroken (ls.map .plain) := by
  induction ts with
  | nil => exact ⟨[], rfl, rfl, fun _ hp => absurd hp List.not_mem_nil⟩
  | cons t ts ih =>
    rw [List.forall_mem_cons] at h
    obtain ⟨ls, hls, hflat, hunbroken⟩ := ih h.2
    cases t with
    | opening | closing => exact absurd h.1 Bool.false_ne_true
    | plain l =>
      have hl : l ∉ reserved := of_decide_eq_true h.1
      simp only [reserved, List.mem_append, not_or, List.mem_cons, List.not_mem_nil, or_false] at hl
      obtain ⟨⟨hopener, hcloser⟩, hand, hor⟩ := hl
      refine ⟨l :: ls, by rw [List.map_cons, hls], ?_,
        List.forall_mem_cons.mpr ⟨⟨?_, ?_⟩, hunbroken⟩⟩
      · rw [List.map_cons, flatten, hflat, List.flatMap_cons, widened, if_neg hopener,
          if_neg hcloser]
        rfl
      · exact decide_eq_false hand
      · exact decide_eq_false hor

/-- Whether a text has free tokens only, by scanning it. -/
def isFreeText (text : List Char) : Bool :=
  (symbols text).any fun syms => (tokens syms).all isFree

/-- **The text of a number** has free tokens only: each reserved one has a character that is in no
    number. -/
theorem isFreeText_numeral {s : List Char} (h : Numeral s) : isFreeText s = true := by
  have hordinary : ∀ c ∈ s, isOrdinary c = true := by
    intro c hc
    have hdifferent : ∀ d, isNumeralChar d = false → c ≠ d := by
      rintro d hd rfl
      exact absurd (h.chars c hc) (Bool.eq_false_iff.mp hd)
    simp [isOrdinary, isQuote, hdifferent '"' rfl, hdifferent '\x27' rfl, hdifferent '[' rfl]
  have hsymbols : symbols s = some (s.map .char) := (scan_ordinary hordinary h.dashes).1
  have hreserved : ∀ l ∈ reserved, (charsOf l).all isNumeralChar = false := by
    have hall : (reserved.all fun l => !(charsOf l).all isNumeralChar) = true := by decide
    intro l hl
    exact (Bool.not_eq_true' _).mp (List.all_eq_true.mp hall l hl)
  rw [isFreeText, hsymbols, Option.any_some, List.all_eq_true]
  intro t ht
  obtain ⟨l, rfl, hl⟩ :=
    plain_of_mem_tokensFrom rfl rfl (fun _ hc => absurd hc List.not_mem_nil) h.chars t ht
  exact decide_eq_true fun hmem =>
    absurd (List.all_eq_true.mpr hl) (Bool.eq_false_iff.mp (hreserved l hmem))

theorem isFreeText_quote (s : String) : isFreeText (quote s).toList = true := by
  have hfree : ∀ body, isFree (.plain (.literal body)) = true := by
    intro body
    have hnone : Lexeme.literal body ∉ reserved := by
      simp [reserved, openers, closers, andWord, orWord]
    exact decide_eq_true hnone
  rw [isFreeText, symbols_quote, Option.any_some, List.all_eq_true]
  intro t ht
  rw [List.mem_singleton.mp ht]
  exact hfree _

/-- **A literal** has free tokens only. -/
theorem isFreeText_literal {v : Value} {text : String} (h : literal v = .ok text) :
    isFreeText text.toList = true := by
  have hnumber : ∀ w, (finite "value" w).map Number.text = .ok text →
      isFreeText text.toList = true := by
    intro w hw
    cases hfinite : finite "value" w with
    | error failure => rw [hfinite] at hw; cases hw
    | ok number =>
      rw [hfinite] at hw
      rw [← Except.ok.inj hw]
      exact isFreeText_numeral (Number.numeral_text (Number.isFinite_of_finite hfinite))
  cases v with
  | null => rw [← Except.ok.inj h]; decide
  | bool b => rw [← Except.ok.inj h]; cases b <;> decide
  | int i => rw [literal] at h; exact hnumber _ h
  | float x => rw [literal] at h; exact hnumber _ h
  | text s => rw [← Except.ok.inj h]; exact isFreeText_quote s
  | list | object => cases h

/-! ## Solid texts -/

/-- **Solid**: the text has pieces, and no connective is at their top. -/
def Solid (text : List Char) : Prop :=
  ∃ ps, piecesOf text = some ps ∧ Unbroken ps

/-- **Headed**: the text is solid and its first piece is no pair of parentheses. -/
def Headed (text : List Char) : Prop :=
  ∃ l ps, piecesOf text = some (.plain l :: ps) ∧ Unbroken (.plain l :: ps)

section Solid

variable {a b text : List Char}

/-- Free texts are solid. -/
theorem solid_of_isFreeText (h : isFreeText text = true) : Solid text := by
  obtain ⟨syms, hsyms, hfree⟩ := (Option.any_eq_true _ _).mp h
  obtain ⟨ls, _, hflat, hunbroken⟩ := exists_pieces_of_isFree (List.all_eq_true.mp hfree)
  exact ⟨_, piecesOf_eq_some_iff.mpr ⟨syms, hsyms, hflat⟩, hunbroken⟩

/-- Whether a text has free tokens only, and has some. -/
def isHeadedText (text : List Char) : Bool :=
  isFreeText text && (symbols text).any fun syms => !(tokens syms).isEmpty

theorem headed_of_isHeadedText (h : isHeadedText text = true) : Headed text := by
  obtain ⟨hfree, hsome⟩ := Bool.and_eq_true_iff.mp h
  obtain ⟨syms, hsyms, hne⟩ := (Option.any_eq_true _ _).mp hsome
  rw [isFreeText, hsyms, Option.any_some, List.all_eq_true] at hfree
  obtain ⟨ls, hls, hflat, hunbroken⟩ := exists_pieces_of_isFree hfree
  cases ls with
  | nil => rw [hls] at hne; cases hne
  | cons l ls => exact ⟨l, _, piecesOf_eq_some_iff.mpr ⟨syms, hsyms, hflat⟩, hunbroken⟩

/-- Two solid texts with a blank between them are solid. -/
theorem Solid.blank (ha : Solid a) (hb : Solid b) : Solid (a ++ ' ' :: b) := by
  obtain ⟨ps, hps, hunbroken⟩ := ha
  obtain ⟨qs, hqs, hunbroken'⟩ := hb
  exact ⟨ps ++ qs, piecesOf_blank hps hqs, List.forall_mem_append.mpr ⟨hunbroken, hunbroken'⟩⟩

theorem Headed.blank (ha : Headed a) (hb : Solid b) : Headed (a ++ ' ' :: b) := by
  obtain ⟨l, ps, hps, hunbroken⟩ := ha
  obtain ⟨qs, hqs, hunbroken'⟩ := hb
  exact ⟨l, ps ++ qs, piecesOf_blank hps hqs, List.forall_mem_append.mpr ⟨hunbroken, hunbroken'⟩⟩

/-- **A call** of something solid is solid, whatever stands between the parentheses. -/
theorem Solid.call {qs : List Piece} (ha : Solid a) (hb : piecesOf b = some qs) :
    Solid (a ++ '(' :: (b ++ [')'])) := by
  obtain ⟨ps, hps, hunbroken⟩ := ha
  exact ⟨ps ++ [Piece.paren qs], piecesOf_call hps hb,
    List.forall_mem_append.mpr ⟨hunbroken, unbroken_paren qs⟩⟩

theorem solid_paren {qs : List Piece} (hb : piecesOf b = some qs) : Solid ('(' :: (b ++ [')'])) :=
  ⟨[.paren qs], piecesOf_paren hb, unbroken_paren qs⟩

/-- **An operand**: a solid text that is read as an expression. -/
def Operand (text : List Char) : Prop :=
  ∃ ps f, piecesOf text = some ps ∧ Unbroken ps ∧ formula ps = some f

/-- Something solid and then something headed are more than a pair of parentheses, so together
    they are an atom. -/
theorem Solid.operand_blank (ha : Solid a) (hb : Headed b) : Operand (a ++ ' ' :: b) := by
  obtain ⟨ps, hps, hunbroken⟩ := ha
  obtain ⟨l, qs, hqs, hunbroken'⟩ := hb
  have hall : Unbroken (ps ++ .plain l :: qs) := List.forall_mem_append.mpr ⟨hunbroken, hunbroken'⟩
  have hmem : Piece.plain l ∈ ps ++ .plain l :: qs := List.mem_append_right _ List.mem_cons_self
  refine ⟨_, .atom (ps ++ .plain l :: qs), piecesOf_blank hps hqs, hall, ?_⟩
  rw [formula_of_unbroken hall]
  refine operand_eq_atom (List.ne_nil_of_mem hmem) fun inside he => ?_
  rw [he] at hmem
  cases List.mem_singleton.mp hmem

/-- Parentheses around an operand make an operand that says the same. -/
theorem Operand.paren (h : Operand a) : Operand ('(' :: (a ++ [')'])) := by
  obtain ⟨ps, f, hps, _, hf⟩ := h
  exact ⟨[.paren ps], f, piecesOf_paren hps, unbroken_paren ps, (formula_paren ps).trans hf⟩

end Solid

end HomeScenes.Lua.Code
