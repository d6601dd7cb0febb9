import HomeScenes.Lua.Embed

/-!
# Scanning scene code

  Scene code is scanned by the rule for double-quoted literals: a quote opens a literal, a
  backslash in it takes the next character along whatever that is, and the next quote closes it.
  What is left of a text is a list of *symbols*, each a character outside of literals or a whole
  literal.  A text whose last literal is never closed has no symbols.

  `emptied` leaves nothing between the quotes, so that it shows exactly what stands outside of
  literals; `level` counts the parentheses there.

  The crux is `scan_append`: a text that ends outside of literals can be scanned on its own,
  whatever follows it.  With it, and with `symbols_quote` for the texts that were escaped, the
  symbols of a text are found part by part.
-/

namespace HomeScenes.Lua

/-! ## Symbols -/

/-- A character outside of literals, or a literal with what stands between its quotes. -/
inductive Symbol where
  | char (c : Char)
  | literal (body : List Char)
deriving DecidableEq

/-- Where a scan is: outside of literals, in a literal, or in one right after a backslash.  What was
    read of the literal is kept, the last character first. -/
inductive Place where
  | outside
  | inside (body : List Char)
  | escaped (body : List Char)

/-- **The scan** from some place on. -/
def scan : Place → List Char → Option (List Symbol)
  | .outside, [] => some []
  | .inside _, [] => none
  | .escaped _, [] => none
  | .outside, c :: rest =>
    if c = '"' then scan (.inside []) rest else (scan .outside rest).map (.char c :: ·)
  | .inside body, c :: rest =>
    if c = '"' then (scan .outside rest).map (.literal body.reverse :: ·)
    else if c = '\\' then scan (.escaped (c :: body)) rest
    else scan (.inside (c :: body)) rest
  | .escaped body, c :: rest => scan (.inside (c :: body)) rest

/-- **The symbols** of a text. -/
def symbols (text : List Char) : Option (List Symbol) :=
  scan .outside text

/-- What stands outside of literals: every literal becomes an empty one. -/
def emptied : List Symbol → List Char
  | [] => []
  | .char c :: rest => c :: emptied rest
  | .literal _ :: rest => '"' :: '"' :: emptied rest

/-- **The text with every literal emptied**, if all of its literals are closed. -/
def emptied? (text : String) : Option (List Char) :=
  (symbols text.toList).map emptied

/-- The level of parentheses after one more character; there is none below zero. -/
def levelStep (n : Nat) (c : Char) : Option Nat :=
  if c = '(' then some (n + 1)
  else if c = ')' then (if n = 0 then none else some (n - 1))
  else some n

/-- **The level** of parentheses after some characters, from a level on. -/
def level (n : Nat) : List Char → Option Nat
  | [] => some n
  | c :: rest => (levelStep n c).bind fun m => level m rest

/-! ## Laws of the scan -/

/-- **The scan goes on** after a text that ends outside of literals as if nothing had come
    before. -/
theorem scan_append {place : Place} {a b : List Char} {syms : List Symbol}
    (h : scan place a = some syms) : scan place (a ++ b) = (scan .outside b).map (syms ++ ·) := by
  induction a generalizing place syms with
  | nil =>
    cases place with
    | outside =>
      injection h with h
      subst h
      simp
    | inside body => exact nomatch h
    | escaped body => exact nomatch h
  | cons c rest ih =>
    cases place with
    | outside =>
      rw [List.cons_append, scan] at *
      by_cases hc : c = '"'
      · rw [if_pos hc] at *; exact ih h
      · rw [if_neg hc, Option.map_eq_some_iff] at h
        obtain ⟨more, hmore, rfl⟩ := h
        rw [if_neg hc, ih hmore, Option.map_map]
        rfl
    | inside body =>
      rw [List.cons_append, scan] at *
      by_cases hc : c = '"'
      · rw [if_pos hc, Option.map_eq_some_iff] at h
        obtain ⟨more, hmore, rfl⟩ := h
        rw [if_pos hc, ih hmore, Option.map_map]
        rfl
      · rw [if_neg hc] at *
        by_cases hb : c = '\\'
        · rw [if_pos hb] at *; exact ih h
        · rw [if_neg hb] at *; exact ih h
    | escaped body =>
      rw [List.cons_append, scan] at *
      exact ih h

/-- Texts that end outside of literals may be scanned one by one. -/
theorem symbols_append {a b : List Char} {x y : List Symbol} (ha : symbols a = some x)
    (hb : symbols b = some y) : symbols (a ++ b) = some (x ++ y) := by
  rw [symbols, scan_append ha]
  rw [symbols] at hb
  rw [hb, Option.map_some]

/-- Characters without a quote are their own symbols. -/
theorem symbols_plain {a : List Char} (h : '"' ∉ a) : symbols a = some (a.map .char) := by
  induction a with
  | nil => rfl
  | cons c rest ih =>
    rw [List.mem_cons, not_or] at h
    have hrest : scan .outside rest = some (rest.map .char) := ih h.2
    rw [symbols, scan, if_neg (Ne.symm h.1), hrest]
    rfl

/-- The escapes that have a name: each character with what stands for it after a backslash. -/
def namedEscapes : List (Char × Char) :=
  [('\\', '\\'), ('"', '"'), ('\n', 'n'), ('\r', 'r'), ('\t', 't')]

/-- **How a character is escaped**: by name, by its code, or not at all. -/
theorem escapeChar_cases (c : Char) :
    (∃ name, (c, name) ∈ namedEscapes ∧ escapeChar c = ['\\', name]) ∨
    ((c.toNat < 0x20 ∨ c.toNat = 0x7f) ∧ escapeChar c = decimalEscape c.toNat) ∨
    (¬ (c.toNat < 0x20 ∨ c.toNat = 0x7f) ∧ c ≠ '\\' ∧ c ≠ '"' ∧ escapeChar c = [c]) := by
  rw [escapeChar]
  split
  · rename_i hc; rw [hc]; exact Or.inl ⟨'\\', by decide, rfl⟩
  · split
    · rename_i hc; rw [hc]; exact Or.inl ⟨'"', by decide, rfl⟩
    · split
      · rename_i hc; rw [hc]; exact Or.inl ⟨'n', by decide, rfl⟩
      · split
        · rename_i hc; rw [hc]; exact Or.inl ⟨'r', by decide, rfl⟩
        · split
          · rename_i hc; rw [hc]; exact Or.inl ⟨'t', by decide, rfl⟩
          · split
            · rename_i hcontrol
              exact Or.inr (Or.inl ⟨hcontrol, rfl⟩)
            · rename_i hbackslash hquote _ _ _ hcontrol
              exact Or.inr (Or.inr ⟨hcontrol, hbackslash, hquote, rfl⟩)

/-- One escaped character is passed over within a literal. -/
theorem scan_escapeChar (c : Char) (body rest : List Char) :
    scan (.inside body) (escapeChar c ++ rest) =
      scan (.inside ((escapeChar c).reverse ++ body)) rest := by
  have hdigit : ∀ n, Nat.digitChar n ≠ '"' ∧ Nat.digitChar n ≠ '\\' := by
    intro n
    rcases Nat.lt_or_ge n 16 with hn | hn
    · revert n; decide
    · have hstar : Nat.digitChar n = '*' := Nat.digitChar_eq_star.mpr hn
      rw [hstar]; decide
  rcases escapeChar_cases c with ⟨name, _, hc⟩ | ⟨_, hc⟩ | ⟨_, hbackslash, hquote, hc⟩
  · rw [hc]; simp [scan]
  · rw [hc]; simp [decimalEscape, scan, hdigit]
  · rw [hc]; simp [scan, hbackslash, hquote]

/-- An escaped text never leaves the literal that it stands in. -/
theorem scan_escape (s body rest : List Char) :
    scan (.inside body) (s.flatMap escapeChar ++ rest) =
      scan (.inside ((s.flatMap escapeChar).reverse ++ body)) rest := by
  induction s generalizing body with
  | nil => rfl
  | cons c s ih =>
    rw [List.flatMap_cons, List.append_assoc, scan_escapeChar, ih, List.reverse_append,
      List.append_assoc]

/-- **An escaped text between quotes** is one literal. -/
theorem symbols_quote (s : String) :
    symbols (quote s).toList = some [.literal (escape s).toList] := by
  have htext : (quote s).toList = '"' :: (s.toList.flatMap escapeChar ++ ['"']) := by
    simp [quote, escape]
  have hbody : (escape s).toList = s.toList.flatMap escapeChar := by simp [escape]
  rw [htext, hbody, symbols, scan, if_pos rfl, scan_escape, scan, if_pos rfl]
  simp [scan]

/-! ## Nothing gets lost -/

/-- Whether a symbol holds a character. -/
def Symbol.Holds (c : Char) : Symbol → Prop
  | .char d => d = c
  | .literal body => c ∈ body

/-- What a scan has read of a literal so far. -/
def Place.body : Place → List Char
  | .outside => []
  | .inside body => body
  | .escaped body => body

/-- **Every character** of a text, quotes apart, is in one of its symbols. -/
theorem exists_holds_of_mem {place : Place} {text : List Char} {syms : List Symbol}
    (h : scan place text = some syms) {c : Char} (hc : c ∈ place.body ∨ c ∈ text) :
    c = '"' ∨ ∃ s ∈ syms, s.Holds c := by
  induction text generalizing place syms with
  | nil =>
    cases place with
    | outside =>
      rcases hc with hc | hc
      · exact nomatch hc
      · exact nomatch hc
    | inside body => exact nomatch h
    | escaped body => exact nomatch h
  | cons d rest ih =>
    -- a character read within a literal moves from the text to what was read so far
    have hmove : ∀ body : List Char, (c ∈ body ∨ c ∈ d :: rest) → c ∈ d :: body ∨ c ∈ rest := by
      intro body hc
      rcases hc with hc | hc
      · exact Or.inl (List.mem_cons_of_mem d hc)
      · rcases List.mem_cons.mp hc with rfl | hc
        · exact Or.inl List.mem_cons_self
        · exact Or.inr hc
    -- what the rest holds is held by one more symbol too
    have hrest : ∀ {first : Symbol} {more : List Symbol},
        scan .outside rest = some more → c ∈ rest →
        c = '"' ∨ ∃ s ∈ first :: more, s.Holds c := by
      intro first more hmore hc
      rcases ih hmore (Or.inr hc) with hq | ⟨s, hs, hholds⟩
      · exact Or.inl hq
      · exact Or.inr ⟨s, List.mem_cons_of_mem first hs, hholds⟩
    cases place with
    | outside =>
      have hc : c ∈ d :: rest := hc.resolve_left (List.not_mem_nil)
      rw [scan] at h
      split at h
      · rename_i hd
        rcases List.mem_cons.mp hc with hc | hc
        · exact Or.inl (hc.trans hd)
        · exact ih h (Or.inr hc)
      · obtain ⟨more, hmore, rfl⟩ := Option.map_eq_some_iff.mp h
        rcases List.mem_cons.mp hc with hc | hc
        · exact Or.inr ⟨_, List.mem_cons_self, hc.symm⟩
        · exact hrest hmore hc
    | inside body =>
      rw [scan] at h
      split at h
      · rename_i hd
        obtain ⟨more, hmore, rfl⟩ := Option.map_eq_some_iff.mp h
        rcases hc with hc | hc
        · exact Or.inr ⟨_, List.mem_cons_self, List.mem_reverse.mpr hc⟩
        · rcases List.mem_cons.mp hc with hc | hc
          · exact Or.inl (hc.trans hd)
          · exact hrest hmore hc
      · split at h
        · exact ih h (hmove body hc)
        · exact ih h (hmove body hc)
    | escaped body => exact ih h (hmove body hc)

/-! ## Laws of what is left of a text -/

theorem mem_emptied {syms : List Symbol} {c : Char} (h : c ∈ emptied syms) :
    c = '"' ∨ .char c ∈ syms := by
  induction syms with
  | nil => exact nomatch h
  | cons s rest ih =>
    cases s with
    | char d =>
      rcases List.mem_cons.mp h with rfl | h
      · exact Or.inr List.mem_cons_self
      · exact (ih h).imp_right (List.mem_cons_of_mem _)
    | literal body =>
      rcases List.mem_cons.mp h with h | h
      · exact Or.inl h
      · rcases List.mem_cons.mp h with h | h
        · exact Or.inl h
        · exact (ih h).imp_right (List.mem_cons_of_mem _)

theorem emptied_append (x y : List Symbol) : emptied (x ++ y) = emptied x ++ emptied y := by
  induction x with
  | nil => rfl
  | cons s rest ih => cases s <;> simp [emptied, ih]

theorem emptied_chars (a : List Char) : emptied (a.map .char) = a := by
  induction a with
  | nil => rfl
  | cons c rest ih => rw [List.map_cons, emptied, ih]

/-- Levels add up from left to right. -/
theorem level_append (n : Nat) (a b : List Char) :
    level n (a ++ b) = (level n a).bind fun m => level m b := by
  induction a generalizing n with
  | nil => rfl
  | cons c rest ih =>
    rw [List.cons_append, level, level, Option.bind_assoc]
    exact congrArg (Option.bind _) (funext ih)

/-- Without parentheses the level stays. -/
theorem level_plain {a : List Char} (n : Nat) (h : ∀ c ∈ a, c ≠ '(' ∧ c ≠ ')') :
    level n a = some n := by
  induction a with
  | nil => rfl
  | cons c rest ih =>
    have hc := h c List.mem_cons_self
    rw [level, levelStep, if_neg hc.1, if_neg hc.2, Option.bind_some]
    exact ih fun d hd => h d (List.mem_cons_of_mem c hd)

theorem levelStep_raise {n m : Nat} {c : Char} (k : Nat) (h : levelStep n c = some m) :
    levelStep (n + k) c = some (m + k) := by
  rw [levelStep] at *
  split at h
  · rename_i hc
    injection h with h
    rw [if_pos hc, ← h, Nat.add_right_comm]
  · rename_i hc
    rw [if_neg hc]
    split at h
    · rename_i hd
      rw [if_pos hd]
      split at h
      · exact nomatch h
      · rename_i hn
        injection h with h
        rw [if_neg (by omega), ← h, show n + k - 1 = n - 1 + k from by omega]
    · rename_i hd
      injection h with h
      rw [if_neg hd, h]

/-- What is balanced at one level is balanced further out. -/
theorem level_raise {n m : Nat} {a : List Char} (k : Nat) (h : level n a = some m) :
    level (n + k) a = some (m + k) := by
  induction a generalizing n with
  | nil => injection h with h; rw [h]; rfl
  | cons c rest ih =>
    rw [level, Option.bind_eq_some_iff] at h
    obtain ⟨next, hstep, hrest⟩ := h
    rw [level, levelStep_raise k hstep, Option.bind_some]
    exact ih hrest

end HomeScenes.Lua
