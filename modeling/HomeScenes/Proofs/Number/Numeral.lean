import HomeScenes.Lua.Embed

/-!
# The text of a number

  A finite number is written with digits, a point, an `e` and signs, and no two dashes ever stand
  side by side: a dash is the sign of the number or the sign of the exponent, and a digit follows
  either.  That is all that a text around a number has to know about it (`Numeral`).

  The crux is `unsigned_magnitude`: the text of a magnitude is a run of digits and points, or such
  a run with an exponent after it.
-/

namespace HomeScenes

/-! ## No character twice in a row -/

namespace Lua

/-- A pair does not start at another character. -/
theorem hasDouble_cons_of_ne {c a : Char} (h : a ≠ c) (rest : List Char) :
    hasDouble c (a :: rest) = hasDouble c rest := by
  cases rest with
  | nil => rfl
  | cons b rest => rw [hasDouble, beq_eq_false_iff_ne.mpr h, Bool.false_and, Bool.false_or]

/-- A character that does not occur does not occur twice. -/
theorem hasDouble_of_not_mem {c : Char} {a : List Char} (h : c ∉ a) : hasDouble c a = false := by
  induction a with
  | nil => rfl
  | cons b rest ih =>
    rw [List.mem_cons, not_or] at h
    rw [hasDouble_cons_of_ne (Ne.symm h.1)]
    exact ih h.2

/-- A character that occurs in neither of two texts twice in a row, and not at both sides of where
    they meet, does not occur twice in a row in both together. -/
theorem hasDouble_append {c : Char} {a b : List Char} (ha : hasDouble c a = false)
    (hb : hasDouble c b = false) (h : a.getLast? ≠ some c ∨ b.head? ≠ some c) :
    hasDouble c (a ++ b) = false := by
  induction a with
  | nil => exact hb
  | cons x rest ih =>
    cases rest with
    | nil =>
      cases b with
      | nil => rfl
      | cons y more =>
        rw [List.cons_append, List.nil_append, hasDouble, hb, Bool.or_false, Bool.and_eq_false_iff]
        rcases h with h | h
        · exact Or.inl (beq_eq_false_iff_ne.mpr fun he => h (by rw [he]; rfl))
        · exact Or.inr (beq_eq_false_iff_ne.mpr fun he => h (by rw [he]; rfl))
    | cons y more =>
      rw [hasDouble, Bool.or_eq_false_iff] at ha
      rw [List.cons_append, List.cons_append, hasDouble, ha.1, Bool.false_or]
      rw [List.getLast?_cons_cons] at h
      exact ih ha.2 h

/-- The test is right: a character occurs twice in a row exactly when its double is part of the
    text. -/
theorem hasDouble_iff_double {c : Char} {a : List Char} : hasDouble c a = true ↔ [c, c] <:+: a := by
  induction a with
  | nil => simp [hasDouble]
  | cons x rest ih =>
    rw [List.infix_cons_iff, ← ih]
    cases rest with
    | nil => simp [hasDouble]
    | cons y more =>
      rw [hasDouble, Bool.or_eq_true, Bool.and_eq_true, beq_iff_eq, beq_iff_eq]
      rw [List.cons_prefix_cons, List.cons_prefix_cons, eq_comm, @eq_comm _ y c]
      exact or_congr_left (and_congr_right fun _ => (and_iff_left (List.nil_prefix)).symm)

end Lua

/-! ## Numerals -/

/-- A character of the text of a finite number. -/
def isNumeralChar (c : Char) : Bool :=
  c.isDigit || c == '.' || c == 'e' || c == '+' || c == '-'

/-- **The text of a number**, as far as the text around it is concerned. -/
structure Numeral (cs : List Char) : Prop where
  chars : ∀ c ∈ cs, isNumeralChar c = true
  dashes : Lua.hasDouble '-' cs = false

/-- A digit or the point. -/
def isDecimalChar (c : Char) : Bool :=
  c.isDigit || c == '.'

/-- **The text of a magnitude**: digits and points, with an exponent or without. -/
inductive Unsigned : List Char → Prop where
  | positional {cs : List Char} (h : ∀ c ∈ cs, isDecimalChar c = true) : Unsigned cs
  | scientific {mantissa exponent : List Char} {sign : Char}
    (hm : ∀ c ∈ mantissa, isDecimalChar c = true) (hs : sign = '+' ∨ sign = '-')
    (he : ∀ c ∈ exponent, c.isDigit = true) : Unsigned (mantissa ++ 'e' :: sign :: exponent)

/-- Digits are characters of a numeral. -/
theorem isNumeralChar_of_isDigit {c : Char} (h : c.isDigit = true) : isNumeralChar c = true := by
  rw [isNumeralChar, h]; rfl

/-- So is everything that a decimal notation has. -/
theorem isNumeralChar_of_isDecimalChar {c : Char} (h : isDecimalChar c = true) :
    isNumeralChar c = true := by
  rw [isDecimalChar] at h
  rw [isNumeralChar, h]
  rfl

/-- Where all characters have a property that a dash lacks, there is no dash. -/
theorem dash_not_mem {cs : List Char} {p : Char → Bool} (hp : p '-' = false)
    (h : ∀ c ∈ cs, p c = true) : '-' ∉ cs := by
  intro hmem
  rw [h '-' hmem] at hp
  exact nomatch hp

/-- A numeral without a sign is a numeral. -/
theorem Unsigned.numeral {cs : List Char} (h : Unsigned cs) : Numeral cs := by
  cases h with
  | positional h =>
    exact ⟨fun c hc => isNumeralChar_of_isDecimalChar (h c hc),
      Lua.hasDouble_of_not_mem (dash_not_mem (by decide) h)⟩
  | @scientific mantissa exponent sign hm hs he =>
    refine ⟨?_, ?_⟩
    · intro c hc
      rcases List.mem_append.mp hc with hc | hc
      · exact isNumeralChar_of_isDecimalChar (hm c hc)
      · rcases List.mem_cons.mp hc with rfl | hc
        · rfl
        · rcases List.mem_cons.mp hc with rfl | hc
          · rcases hs with rfl | rfl <;> rfl
          · exact isNumeralChar_of_isDigit (he c hc)
    · -- the only dash is the one after the `e`, and only digits follow it
      have hexponent : '-' ∉ exponent := dash_not_mem (by decide) he
      have hsign : Lua.hasDouble '-' ([sign] ++ exponent) = false := by
        refine Lua.hasDouble_append rfl (Lua.hasDouble_of_not_mem hexponent) (Or.inr ?_)
        intro hhead
        exact hexponent (List.mem_of_head? hhead)
      refine Lua.hasDouble_append (Lua.hasDouble_of_not_mem (dash_not_mem (by decide) hm)) ?_
        (Or.inr (by simp))
      rw [Lua.hasDouble_cons_of_ne (by decide)]
      exact hsign

/-- An unsigned text does not start with a dash, so a sign may stand before it. -/
theorem Unsigned.negated {cs : List Char} (h : Unsigned cs) : Numeral ('-' :: cs) := by
  have hhead : cs.head? ≠ some '-' := by
    cases h with
    | positional h => exact fun he => dash_not_mem (by decide) h (List.mem_of_head? he)
    | @scientific mantissa exponent sign hm hs he =>
      cases mantissa with
      | nil => simp
      | cons d more =>
        intro he
        injection he with he
        exact dash_not_mem (by decide) hm (by rw [he]; exact List.mem_cons_self)
  have hnumeral := h.numeral
  refine ⟨?_, ?_⟩
  · intro c hc
    rcases List.mem_cons.mp hc with rfl | hc
    · rfl
    · exact hnumeral.chars c hc
  · show Lua.hasDouble '-' (['-'] ++ cs) = false
    exact Lua.hasDouble_append rfl hnumeral.dashes (Or.inr hhead)

/-! ## Integers -/

theorem isDigit_of_mem_toDigits {n : Nat} {c : Char} (h : c ∈ Nat.toDigits 10 n) :
    c.isDigit = true :=
  Nat.isDigit_of_mem_toDigits (by decide) (by decide) h

theorem isDecimalChar_of_isDigit {c : Char} (h : c.isDigit = true) : isDecimalChar c = true := by
  rw [isDecimalChar, h]; rfl

/-- **The digits of a natural number** form a numeral without a sign. -/
theorem unsigned_toDigits (n : Nat) : Unsigned (Nat.toDigits 10 n) :=
  .positional fun _ hc => isDecimalChar_of_isDigit (isDigit_of_mem_toDigits hc)

/-- An integer in decimal is a numeral: digits, behind a dash if it is negative. -/
theorem numeral_intRepr (n : Int) : Numeral n.repr.toList := by
  cases n with
  | ofNat m =>
    have htext : (Int.repr (.ofNat m)).toList = Nat.toDigits 10 m := by simp [Int.repr]
    rw [htext]
    exact (unsigned_toDigits m).numeral
  | negSucc m =>
    have htext : (Int.repr (.negSucc m)).toList = '-' :: Nat.toDigits 10 (m + 1) := by
      simp [Int.repr]
    rw [htext]
    exact (unsigned_toDigits (m + 1)).negated

/-! ## Double-precision numbers -/

/-- The shortest digits of a double-precision number are digits. -/
theorem isDigit_of_mem_digits {exponent : Fin 2047} {fraction : Fraction} {c : Char}
    (h : c ∈ (Shortest.digits exponent fraction).1) : c.isDigit = true := by
  unfold Shortest.digits at h
  generalize Shortest.Interval.of exponent fraction = i at h
  dsimp only at h
  split at h
  · exact nomatch h
  · rw [List.mem_reverse] at h
    exact isDigit_of_mem_toDigits (List.mem_reverse.mp ((List.dropWhile_sublist _).mem h))

theorem isDecimalChar_replicate {n : Nat} {c : Char} (h : c ∈ List.replicate n '0') :
    isDecimalChar c = true := by
  rw [List.eq_of_mem_replicate h]; rfl

/-- The exponent has a sign and digits. -/
theorem exists_exponentText (e : Int) : ∃ sign ds, Shortest.exponentText e = sign :: ds ∧
    (sign = '+' ∨ sign = '-') ∧ ∀ c ∈ ds, c.isDigit = true := by
  refine ⟨_, _, rfl, ?_, ?_⟩
  · split
    · exact Or.inr rfl
    · exact Or.inl rfl
  · intro c hc
    split at hc
    · rcases List.mem_cons.mp hc with rfl | hc
      · rfl
      · exact isDigit_of_mem_toDigits hc
    · exact isDigit_of_mem_toDigits hc

/-- Either layout of the digits, plain or with an exponent, is a numeral without a sign. -/
theorem unsigned_layout {ds : List Char} (hds : ∀ c ∈ ds, c.isDigit = true) (e : Int) :
    Unsigned (Shortest.layout ds e) := by
  have hdecimal : ∀ c ∈ ds, isDecimalChar c = true :=
    fun c hc => isDecimalChar_of_isDigit (hds c hc)
  have hzeros : ∀ n, ∀ c ∈ List.replicate n '0', isDecimalChar c = true :=
    fun n c hc => isDecimalChar_replicate hc
  unfold Shortest.layout
  split
  · refine .positional ?_
    split
    · exact List.forall_mem_cons.mpr ⟨rfl, List.forall_mem_cons.mpr ⟨rfl, hdecimal⟩⟩
    · refine List.forall_mem_cons.mpr ⟨rfl, List.forall_mem_cons.mpr ⟨rfl, ?_⟩⟩
      exact List.forall_mem_append.mpr ⟨hzeros _, hdecimal⟩
    · split
      · refine List.forall_mem_append.mpr ⟨?_, List.all_eq_true.mp rfl⟩
        exact List.forall_mem_append.mpr ⟨hdecimal, hzeros _⟩
      · refine List.forall_mem_append.mpr ⟨fun c hc => hdecimal c (List.mem_of_mem_take hc), ?_⟩
        exact List.forall_mem_cons.mpr ⟨rfl, fun c hc => hdecimal c (List.mem_of_mem_drop hc)⟩
  · obtain ⟨sign, exponent, hexponent, hsign, hdigits⟩ := exists_exponentText (e - 1)
    split
    · exact .positional fun _ hc => nomatch hc
    · rename_i d
      rw [hexponent]
      show Unsigned ([d] ++ 'e' :: sign :: exponent)
      exact .scientific hdecimal hsign hdigits
    · rename_i d more _
      rw [hexponent]
      show Unsigned ((d :: '.' :: more) ++ 'e' :: sign :: exponent)
      obtain ⟨hd, hmore⟩ := List.forall_mem_cons.mp hdecimal
      refine .scientific ?_ hsign hdigits
      exact List.forall_mem_cons.mpr ⟨hd, List.forall_mem_cons.mpr ⟨rfl, hmore⟩⟩

/-- So the magnitude of a double-precision number is one. -/
theorem unsigned_magnitude (exponent : Fin 2047) (fraction : Fraction) :
    Unsigned (Shortest.magnitude exponent fraction) := by
  unfold Shortest.magnitude
  split
  · exact .positional (List.all_eq_true.mp rfl)
  · have hdigits := @isDigit_of_mem_digits exponent fraction
    -- the search for the digits is never looked into: its numbers are far too large to compute with
    generalize Shortest.digits exponent fraction = found at *
    obtain ⟨ds, e⟩ := found
    exact unsigned_layout (fun c hc => hdigits hc) e

/-- A finite number, of either kind. -/
def Number.IsFinite : Number → Prop
  | .int _ => True
  | .float x => x.isFinite = true

/-- **The text of a finite number** is a numeral. -/
theorem Number.numeral_text {n : Number} (h : n.IsFinite) : Numeral n.text.toList := by
  cases n with
  | int n => exact numeral_intRepr n
  | float x =>
    cases x with
    | nan => exact nomatch h
    | infinite negative => exact nomatch h
    | finite negative exponent fraction =>
      have htext : (Binary64.text (.finite negative exponent fraction)).toList =
          if negative then '-' :: Shortest.magnitude exponent fraction
          else Shortest.magnitude exponent fraction := by
        rw [Binary64.text]; simp
      rw [Number.text, htext]
      split
      · exact (unsigned_magnitude exponent fraction).negated
      · exact (unsigned_magnitude exponent fraction).numeral

/-- What passes the check of finiteness is finite. -/
theorem Number.isFinite_of_finite {context : String} {v : Value} {n : Number}
    (h : Lua.finite context v = .ok n) : n.IsFinite := by
  cases v with
  | int m =>
    rw [Lua.finite] at h
    split at h
    · injection h with h; rw [← h]; exact trivial
    · exact nomatch h
  | float x =>
    rw [Lua.finite] at h
    split at h
    · rename_i hx; injection h with h; rw [← h]; exact hx
    · exact nomatch h
  | null | bool | text | list | object => exact nomatch h

/-- Leaving out the sign keeps a number finite. -/
theorem Number.isFinite_abs {n : Number} (h : n.IsFinite) : n.abs.IsFinite := by
  cases n with
  | int n => exact trivial
  | float x =>
    cases x with
    | nan => exact nomatch h
    | infinite negative => exact nomatch h
    | finite negative exponent fraction => exact rfl

end HomeScenes
