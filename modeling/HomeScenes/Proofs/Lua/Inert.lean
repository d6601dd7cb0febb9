import HomeScenes.Proofs.Lua.Reading
import HomeScenes.Proofs.Number.Numeral

/-!
# Inert text

  Scene code is put together from fixed parts and from embedded ones: numbers, operators, escaped
  texts.  A text is *inert* when nothing in it reaches beyond itself: every literal is closed,
  every character can be printed, no comment, long bracket or second statement begins outside of
  literals, and no connective stands among its words unless connectives are allowed.

  `Inert` also says what the text shows outside of literals, and from which level of parentheses it
  leads to which, so that parentheses may be opened by one part and closed by a later one.

  The crux is `Inert.append`: two inert texts make an inert text, as long as the place where they
  meet is neutral, so that neither a word nor a pair of dashes forms across it (`Parted`).
-/

namespace HomeScenes.Lua

/-! ## Calm symbols -/

/-- A character that can be printed. -/
def isPrintable (c : Char) : Bool :=
  0x20 ≤ c.toNat && c.toNat != 0x7f

/-- A symbol that can be printed and, outside of literals, neither ends a statement nor is a
    bracket. -/
def Symbol.isSafe : Symbol → Bool
  | .char c => isPrintable c && c != ';' && c != '[' && c != ']'
  | .literal body => body.all isPrintable

/-- **Calm symbols**: safe ones, without a pair of dashes, and without a connective among their
    words unless `joined` allows it. -/
structure Calm (joined : Bool) (syms : List Symbol) : Prop where
  safe : ∀ s ∈ syms, s.isSafe = true
  dashes : hasDouble '-' (emptied syms) = false
  words : ∀ t ∈ tokens syms, t.isConnective = true → joined = true

instance (joined : Bool) (syms : List Symbol) : Decidable (Calm joined syms) :=
  decidable_of_iff ((∀ s ∈ syms, s.isSafe = true) ∧ hasDouble '-' (emptied syms) = false ∧
      ∀ t ∈ tokens syms, t.isConnective = true → joined = true)
    ⟨fun h => ⟨h.1, h.2.1, h.2.2⟩, fun h => ⟨h.safe, h.dashes, h.words⟩⟩

/-! ## Where two texts meet -/

/-- A character that belongs to no word and to no comment. -/
def isNeutral (c : Char) : Bool :=
  !isWordChar c && c != '-'

/-- Whether the last character is neutral. -/
def endsNeutral (out : List Char) : Bool :=
  out.getLast?.any isNeutral

/-- Whether the first character is neutral. -/
def startsNeutral (out : List Char) : Bool :=
  out.head?.any isNeutral

/-- **Parted**: a neutral character stands where two texts meet. -/
def Parted (a b : List Char) : Prop :=
  endsNeutral a = true ∨ startsNeutral b = true

theorem endsNeutral_append {a b : List Char} (h : endsNeutral b = true) :
    endsNeutral (a ++ b) = true := by
  rw [endsNeutral] at *
  rw [List.getLast?_append]
  cases hb : b.getLast? with
  | none => rw [hb] at h; exact nomatch h
  | some c => rw [hb] at h; exact h

/-- A symbol that shows a character of no word first or last belongs to no word. -/
theorem Symbol.isWord_eq_false {s : Symbol} {c : Char} (hc : isNeutral c = true)
    (h : (emptied [s]).head? = some c ∨ (emptied [s]).getLast? = some c) : s.isWord = false := by
  cases s with
  | literal body => rfl
  | char d =>
    have hd : d = c := by
      rcases h with h | h
      · injection h
      · injection h
    rw [isNeutral, Bool.and_eq_true, Bool.not_eq_true'] at hc
    rw [hd]
    exact hc.1

/-- **Tokens of two parts** that are parted are those of the first and then those of the second. -/
theorem tokens_append {x y : List Symbol} (h : Parted (emptied x) (emptied y)) :
    tokens (x ++ y) = tokens x ++ tokens y := by
  rcases h with h | h
  · -- the last symbol of the first part separates
    obtain ⟨c, hc, hneutral⟩ := (Option.any_eq_true _ _).mp h
    rcases List.eq_nil_or_concat x with rfl | ⟨before, s, rfl⟩
    · exact nomatch hc
    · rw [List.concat_eq_append] at *
      have hs : s.isWord = false := by
        refine Symbol.isWord_eq_false hneutral (Or.inr ?_)
        rw [emptied_append, List.getLast?_append] at hc
        cases s <;> exact hc
      have hleft : tokens (before ++ [s]) = tokens before ++ s.marks ++ [] :=
        tokensFrom_append_cons [] before [] hs
      rw [hleft, List.append_nil, List.append_assoc before, List.singleton_append]
      exact tokensFrom_append_cons [] before y hs
  · -- the first symbol of the second part separates
    obtain ⟨c, hc, hneutral⟩ := (Option.any_eq_true _ _).mp h
    cases y with
    | nil => exact nomatch hc
    | cons s after =>
      have hs : s.isWord = false := by
        refine Symbol.isWord_eq_false hneutral (Or.inl ?_)
        cases s <;> exact hc
      have hright : tokens ([] ++ s :: after) = [] ++ s.marks ++ tokens after :=
        tokensFrom_append_cons [] [] after hs
      rw [List.nil_append, List.nil_append] at hright
      rw [hright, ← List.append_assoc]
      exact tokensFrom_append_cons [] x after hs

/-- Calm texts may be joined where they are parted. -/
theorem Calm.append {joined : Bool} {x y : List Symbol} (hx : Calm joined x) (hy : Calm joined y)
    (h : Parted (emptied x) (emptied y)) : Calm joined (x ++ y) := by
  have hdash : isNeutral '-' = false := rfl
  refine ⟨List.forall_mem_append.mpr ⟨hx.safe, hy.safe⟩, ?_, ?_⟩
  · rw [emptied_append]
    refine hasDouble_append hx.dashes hy.dashes ?_
    rcases h with h | h
    · refine Or.inl fun he => ?_
      rw [endsNeutral, he] at h
      exact nomatch hdash.symm.trans h
    · refine Or.inr fun he => ?_
      rw [startsNeutral, he] at h
      exact nomatch hdash.symm.trans h
  · rw [tokens_append h]
    exact List.forall_mem_append.mpr ⟨hx.words, hy.words⟩

/-! ## Inert text -/

/-- **Inert**: the text is closed and calm, shows `out` outside of literals, and leads from one
    level of parentheses to another. -/
def Inert (joined : Bool) (text : String) (out : List Char) (n m : Nat) : Prop :=
  ∃ syms, symbols text.toList = some syms ∧ emptied syms = out ∧ level n out = some m ∧
    Calm joined syms

/-- Whether a text is inert, by scanning it. -/
def isInert (joined : Bool) (text : String) (out : List Char) (n m : Nat) : Bool :=
  match symbols text.toList with
  | none => false
  | some syms => emptied syms = out ∧ level n out = some m ∧ Calm joined syms

section Inert

variable {joined : Bool} {a b text : String} {x y out : List Char} {n m k : Nat}

/-- For fixed texts inertness can be evaluated. -/
theorem inert_of_isInert (h : isInert joined text out n m = true) : Inert joined text out n m := by
  rw [isInert] at h
  split at h
  · exact nomatch h
  · rename_i syms hsyms
    exact ⟨syms, hsyms, of_decide_eq_true h⟩

/-- **Two inert texts** that are parted make one. -/
theorem Inert.append (ha : Inert joined a x n m) (hb : Inert joined b y m k) (h : Parted x y) :
    Inert joined (a ++ b) (x ++ y) n k := by
  obtain ⟨s, hs, rfl, hlevel, hcalm⟩ := ha
  obtain ⟨t, ht, rfl, hlevel', hcalm'⟩ := hb
  refine ⟨s ++ t, ?_, emptied_append s t, ?_, hcalm.append hcalm' h⟩
  · rw [String.toList_append]; exact symbols_append hs ht
  · rw [level_append, hlevel, Option.bind_some, hlevel']

theorem Inert.relax (h : Inert false text out n m) : Inert true text out n m := by
  obtain ⟨syms, hsyms, hout, hlevel, hcalm⟩ := h
  exact ⟨syms, hsyms, hout, hlevel, hcalm.safe, hcalm.dashes, fun _ _ _ => rfl⟩

theorem Inert.emptied? (h : Inert joined text out n m) : emptied? text = some out := by
  obtain ⟨syms, hsyms, hout, _⟩ := h
  rw [Lua.emptied?, hsyms, Option.map_some, hout]

/-- Text that is balanced from the outermost level on is balanced wherever it stands. -/
theorem Inert.raise (h : Inert joined text out 0 0) : Inert joined text out n n := by
  obtain ⟨syms, hsyms, hout, hlevel, hcalm⟩ := h
  refine ⟨syms, hsyms, hout, ?_, hcalm⟩
  have hraised := level_raise n hlevel
  rw [Nat.zero_add] at hraised
  exact hraised

end Inert

/-! ## Harmless text -/

/-- **Harmless**: no control character; every literal is closed, parentheses outside of literals are
    balanced and never close before they open, and outside of literals there is no comment, no long
    bracket and no end of a statement. -/
structure Harmless (text : String) : Prop where
  printable : ∀ c ∈ text.toList, ¬ c.toNat < 0x20 ∧ c.toNat ≠ 0x7f
  contained : ∃ out, emptied? text = some out ∧ level 0 out = some 0 ∧ ¬ ['-', '-'] <:+: out ∧
    ¬ ['[', '['] <:+: out ∧ ¬ [']', ']'] <:+: out ∧ ';' ∉ out

theorem isPrintable_iff {c : Char} : isPrintable c = true ↔ ¬ c.toNat < 0x20 ∧ c.toNat ≠ 0x7f := by
  rw [isPrintable, Bool.and_eq_true, bne_iff_ne, decide_eq_true_eq, Nat.not_lt]

/-- The characters that safe symbols never show. -/
theorem not_mem_emptied {syms : List Symbol} (h : ∀ s ∈ syms, s.isSafe = true) {c : Char}
    (hquote : c ≠ '"') (hc : (Symbol.char c).isSafe = false) : c ∉ emptied syms := by
  intro hmem
  rcases mem_emptied hmem with hq | hchar
  · exact hquote hq
  · exact nomatch (h _ hchar).symm.trans hc

/-- **An inert text is harmless**: outside of its literals there is nothing to escape by. -/
theorem Inert.harmless {joined : Bool} {text : String} {out : List Char}
    (h : Inert joined text out 0 0) : Harmless text := by
  have hout := h.emptied?
  obtain ⟨syms, hsyms, rfl, hlevel, hcalm⟩ := h
  have hbracket : ∀ c, c ≠ '"' → (Symbol.char c).isSafe = false → ¬ [c, c] <:+: emptied syms :=
    fun c hquote hc hdouble =>
      not_mem_emptied hcalm.safe hquote hc (hdouble.subset List.mem_cons_self)
  refine ⟨?_, _, hout, hlevel, ?_, hbracket '[' (by decide) rfl, hbracket ']' (by decide) rfl,
    not_mem_emptied hcalm.safe (by decide) rfl⟩
  · intro c hc
    rw [← isPrintable_iff]
    rcases exists_holds_of_mem hsyms (Or.inr hc) with rfl | ⟨s, hs, hholds⟩
    · rfl
    · have hsafe := hcalm.safe s hs
      cases s with
      | char d =>
        rw [Symbol.isSafe, Bool.and_eq_true, Bool.and_eq_true, Bool.and_eq_true] at hsafe
        rw [← show d = c from hholds]
        exact hsafe.1.1.1
      | literal body => exact List.all_eq_true.mp hsafe c hholds
  · rw [← hasDouble_iff_double, hcalm.dashes]
    exact Bool.false_ne_true

/-! ## What is embedded -/

theorem isPrintable_digitChar (n : Nat) : isPrintable (Nat.digitChar n) = true := by
  rcases Nat.lt_or_ge n 16 with hn | hn
  · revert n; decide
  · rw [Nat.digitChar_eq_star.mpr hn]; rfl

/-- Whatever the character, its escaped form can be printed. -/
theorem isPrintable_of_mem_escapeChar {c d : Char} (h : d ∈ escapeChar c) :
    isPrintable d = true := by
  have hnames : ∀ pair ∈ namedEscapes, isPrintable pair.2 = true := List.all_eq_true.mp rfl
  rcases escapeChar_cases c with ⟨name, hname, hc⟩ | ⟨_, hc⟩ | ⟨hcontrol, _, _, hc⟩
  · rw [hc] at h
    rcases List.mem_cons.mp h with rfl | h
    · rfl
    · rw [List.mem_singleton.mp h]
      exact hnames _ hname
  · rw [hc, decimalEscape] at h
    simp only [List.mem_cons, List.not_mem_nil, or_false] at h
    rcases h with rfl | rfl | rfl | rfl
    · rfl
    · exact isPrintable_digitChar _
    · exact isPrintable_digitChar _
    · exact isPrintable_digitChar _
  · rw [hc] at h
    rw [List.mem_singleton.mp h, isPrintable_iff]
    exact not_or.mp hcontrol

/-- What every literal shows. -/
def emptyLiteral : List Char := ['"', '"']

/-- **An escaped text between quotes** is inert, whatever it says, and shows nothing of it. -/
theorem inert_quote (s : String) (n : Nat) : Inert false (quote s) emptyLiteral n n := by
  refine ⟨_, symbols_quote s, rfl, rfl, ?_, rfl, ?_⟩
  · intro t ht
    rw [List.mem_singleton.mp ht, Symbol.isSafe, List.all_eq_true]
    intro d hd
    rw [escape, String.toList_ofList, List.mem_flatMap] at hd
    obtain ⟨c, _, hd⟩ := hd
    exact isPrintable_of_mem_escapeChar hd
  · intro t ht hconnective
    rw [List.mem_singleton.mp ht] at hconnective
    exact absurd hconnective Bool.false_ne_true

theorem numeralChar_ne {c d : Char} (hc : isNumeralChar c = true) (hd : isNumeralChar d = false) :
    c ≠ d := by
  rintro rfl
  exact nomatch hc.symm.trans hd

theorem isSafe_of_isNumeralChar {c : Char} (h : isNumeralChar c = true) :
    (Symbol.char c).isSafe = true := by
  have hprintable : isPrintable c = true := by
    rw [isNumeralChar] at h
    simp only [Bool.or_eq_true, beq_iff_eq] at h
    rcases h with (((h | rfl) | rfl) | rfl) | rfl
    · simp only [Char.isDigit, Bool.and_eq_true, decide_eq_true_eq, UInt32.le_iff_toNat_le] at h
      have hlow : 48 ≤ c.toNat := h.1
      have hhigh : c.toNat ≤ 57 := h.2
      rw [isPrintable_iff]
      omega
    · rfl
    · rfl
    · rfl
    · rfl
  rw [Symbol.isSafe, hprintable, bne_iff_ne.mpr (numeralChar_ne h rfl),
    bne_iff_ne.mpr (numeralChar_ne h rfl), bne_iff_ne.mpr (numeralChar_ne h rfl)]
  rfl

/-- **The text of a number** is inert, and shows all of itself. -/
theorem inert_numeral {s : String} (h : Numeral s.toList) (n : Nat) :
    Inert false s s.toList n n := by
  have hquote : '"' ∉ s.toList := fun hmem => absurd (h.chars _ hmem) (by decide)
  refine ⟨_, symbols_plain hquote, emptied_chars _, ?_, ?_, ?_, ?_⟩
  · exact level_plain n fun c hc =>
      ⟨numeralChar_ne (h.chars c hc) rfl, numeralChar_ne (h.chars c hc) rfl⟩
  · intro t ht
    obtain ⟨c, hc, rfl⟩ := List.mem_map.mp ht
    exact isSafe_of_isNumeralChar (h.chars c hc)
  · rw [emptied_chars]; exact h.dashes
  · -- a connective would need a letter that is in no number
    intro t ht hconnective
    have hword : ∀ w, .plain (.word w) ∈ tokens (s.toList.map .char) → ∀ c ∈ w,
        isNumeralChar c = true := by
      intro w hw c hc
      rcases mem_of_word_mem hw c hc with hnil | hmem
      · exact absurd hnil List.not_mem_nil
      · obtain ⟨d, hd, hdc⟩ := List.mem_map.mp hmem
        injection hdc with hdc
        rw [← hdc]
        exact h.chars d hd
    rw [Token.isConnective, Bool.or_eq_true, decide_eq_true_eq, decide_eq_true_eq] at hconnective
    rcases hconnective with rfl | rfl
    · exact absurd (hword _ ht 'a' (by decide)) (by decide)
    · exact absurd (hword _ ht 'o' (by decide)) (by decide)

/-- What a literal shows: nothing of a text, and all of anything else. -/
def shownLiteral : Value → List Char
  | .text _ => emptyLiteral
  | v => (literal v).toOption.elim [] String.toList

/-- **A literal** is inert. -/
theorem inert_literal {v : Value} {text : String} (h : literal v = .ok text) (n : Nat) :
    Inert false text (shownLiteral v) n n := by
  have hnumber : ∀ w, (finite "value" w).map Number.text = .ok text →
      Inert false text text.toList n n := by
    intro w hw
    cases hfinite : finite "value" w with
    | error failure => rw [hfinite] at hw; exact nomatch hw
    | ok number =>
      rw [hfinite] at hw
      injection hw with hw
      rw [← hw]
      exact inert_numeral (Number.numeral_text (Number.isFinite_of_finite hfinite)) n
  cases v with
  | null => injection h with h; rw [← h]; exact (inert_of_isInert (by decide)).raise
  | bool b =>
    injection h with h
    rw [← h]
    cases b
    · exact (inert_of_isInert (by decide)).raise
    · exact (inert_of_isInert (by decide)).raise
  | int i =>
    simp only [shownLiteral, h]
    rw [literal] at h
    exact hnumber _ h
  | float x =>
    simp only [shownLiteral, h]
    rw [literal] at h
    exact hnumber _ h
  | text s => injection h with h; rw [← h]; exact inert_quote s n
  | list | object => exact nomatch h

/-! ## Reading inert text -/

/-- Symbols that show part of a word have a token that is no parenthesis. -/
theorem exists_plain_mem {syms : List Symbol} {word : List Char} {c : Char}
    (hc : isWordChar c = true) (h : c ∈ emptied syms) : ∃ l, .plain l ∈ tokensFrom word syms := by
  have hended : ∀ w : List Char, w ≠ [] → .plain (.word w) ∈ ended w := by
    intro w hw
    rw [ended, if_neg (by rw [List.isEmpty_iff]; exact hw)]
    exact List.mem_singleton_self _
  have hword : ∀ (syms : List Symbol) (w : List Char), w ≠ [] → ∃ l,
      .plain l ∈ tokensFrom w syms := by
    intro syms
    induction syms with
    | nil => intro w hw; exact ⟨_, hended w hw⟩
    | cons s rest ih =>
      intro w hw
      cases s with
      | char d =>
        rw [tokensFrom]
        split
        · exact ih _ (by simp)
        · exact ⟨_, List.mem_append_left _ (List.mem_append_left _ (hended w hw))⟩
      | literal body => exact ⟨_, List.mem_append_left _ (hended w hw)⟩
  induction syms generalizing word with
  | nil => exact absurd h List.not_mem_nil
  | cons s rest ih =>
    cases s with
    | char d =>
      rw [tokensFrom]
      split
      · exact hword rest _ (by simp)
      · rename_i hd
        rcases List.mem_cons.mp h with rfl | h
        · exact absurd hc hd
        · obtain ⟨l, hl⟩ : ∃ l, .plain l ∈ tokensFrom [] rest := ih h
          exact ⟨l, List.mem_append_right _ hl⟩
    | literal body => exact ⟨_, List.mem_append_right _ List.mem_cons_self⟩

/-- **Inert text without connectives**, if it shows part of a word, is read as a single operand. -/
theorem Inert.exists_operand {text : String} {out : List Char}
    (h : Inert false text out 0 0) {c : Char} (hc : isWordChar c = true) (hmem : c ∈ out) :
    ∃ ps f, piecesOf text.toList = some ps ∧ Unbroken ps ∧ operand (itemsOf ps) = some f := by
  obtain ⟨syms, hsyms, rfl, hlevel, hcalm⟩ := h
  obtain ⟨ps, hps⟩ := exists_flatten hlevel
  have hnone : ∀ t ∈ flatten ps, t.isConnective = false := by
    rw [hps]
    intro t ht
    exact Bool.eq_false_iff.mpr fun hconnective => nomatch hcalm.words t ht hconnective
  have hplain : ∃ l, .plain l ∈ flatten ps := by rw [hps]; exact exists_plain_mem hc hmem
  obtain ⟨f, hf⟩ := exists_formula ps hnone hplain
  exact ⟨ps, f, piecesOf_eq_some_iff.mpr ⟨syms, hsyms, hps⟩, unbroken_of_flatten hnone, hf⟩

end HomeScenes.Lua
