import HomeScenes.Proofs.Lua.Scan

/-!
# Reading a quoted text back

  The scene language reads a text between double quotes character by character.  A backslash
  starts an *escape*: a named one (`n`, `r`, `t`, a backslash, a quote), or a decimal one, the
  code of a character in at most three digits, of which as many are taken as there are.  A quote
  ends the text, and a line break within it is an error.

  `readLiteral` is that reader; it knows nothing of how texts are escaped.  The main result is
  that it undoes escaping, whatever the text and whatever follows it (`escaped_text_reads_back`).

  The crux is the single character (`readChar_escapeChar`).  A decimal escape has no end of its
  own: were it written with fewer digits than three, a digit of the text after it would become
  part of it.
-/

namespace HomeScenes.Lua

/-! ## The reader -/

/-- What a character after a backslash stands for, if it names an escape. -/
def namedEscape? : Char → Option Char
  | 'n' => some '\n'
  | 'r' => some '\r'
  | 't' => some '\t'
  | '\\' => some '\\'
  | '"' => some '"'
  | _ => none

/-- The digits of a decimal escape: as many as there are, and at most three. -/
def escapeDigits (text : List Char) : List Char :=
  (text.take 3).takeWhile Char.isDigit

/-- The character of a decimal escape; a code has to fit into a byte. -/
def decimalChar? (digits : List Char) : Option Char :=
  let code := Nat.ofDigitChars 10 digits 0
  if code < 256 then some (Char.ofNat code) else none

/-- What an escape stands for and what follows it, from after its backslash on. -/
def readEscape : List Char → Option (Char × List Char)
  | [] => none
  | c :: rest =>
    if c.isDigit then
      let digits := escapeDigits (c :: rest)
      (decimalChar? digits).map fun d => (d, (c :: rest).drop digits.length)
    else (namedEscape? c).map fun d => (d, rest)

/-- **One character** of a quoted text and what follows it.  The quote at the end is none, and
    neither is a line break. -/
def readChar : List Char → Option (Char × List Char)
  | [] => none
  | c :: rest =>
    if c = '\\' then readEscape rest
    else if c = '"' ∨ c = '\n' ∨ c = '\r' then none
    else some (c, rest)

theorem length_lt_of_readEscape {text rest : List Char} {c : Char}
    (h : readEscape text = some (c, rest)) : rest.length < text.length := by
  cases text with
  | nil => cases h
  | cons a tail =>
    rw [readEscape] at h
    split at h
    · rename_i hdigit
      obtain ⟨d, _, hpair⟩ := Option.map_eq_some_iff.mp h
      have hrest : rest = (a :: tail).drop (escapeDigits (a :: tail)).length :=
        (Prod.mk.inj hpair).2.symm
      -- the first digit at least is taken
      have htaken : escapeDigits (a :: tail) = a :: (tail.take 2).takeWhile Char.isDigit := by
        rw [escapeDigits, List.take_succ_cons, List.takeWhile_cons_of_pos hdigit]
      rw [hrest, htaken, List.length_drop, List.length_cons, List.length_cons]
      omega
    · obtain ⟨d, _, hpair⟩ := Option.map_eq_some_iff.mp h
      have hrest : tail = rest := (Prod.mk.inj hpair).2
      rw [hrest, List.length_cons]
      omega

/-- Reading a character takes something off the text. -/
theorem length_lt_of_readChar {text rest : List Char} {c : Char}
    (h : readChar text = some (c, rest)) : rest.length < text.length := by
  cases text with
  | nil => cases h
  | cons a tail =>
    rw [readChar] at h
    split at h
    · have hless : rest.length < tail.length := length_lt_of_readEscape h
      rw [List.length_cons]
      omega
    · split at h
      · cases h
      · have hrest : tail = rest := (Prod.mk.inj (Option.some.inj h)).2
        rw [hrest, List.length_cons]
        omega

/-- A text up to the quote that ends it, and what follows the quote. -/
def readBody (text : List Char) : Option (List Char × List Char) :=
  if text.head? = some '"' then some ([], text.tail)
  else
    match h : readChar text with
    | none => none
    | some (c, rest) =>
      have : rest.length < text.length := length_lt_of_readChar h
      (readBody rest).map fun (body, after) => (c :: body, after)
termination_by text.length

/-- **A literal** at the start of some code: the text that it stands for, and the code after it. -/
def readLiteral (code : String) : Option (String × String) :=
  match code.toList with
  | '"' :: text =>
    (readBody text).map fun (body, after) => (String.ofList body, String.ofList after)
  | _ => none

/-! ## What was escaped is read back -/

/-- Three digits give back the code that they were made from. -/
theorem ofDigitChars_decimalEscape {code : Nat} (h : code < 1000) :
    Nat.ofDigitChars 10 [Nat.digitChar (code / 100), Nat.digitChar (code / 10 % 10),
      Nat.digitChar (code % 10)] 0 = code := by
  have hhigh : (Nat.digitChar (code / 100)).toNat - '0'.toNat = code / 100 :=
    Nat.toNat_digitChar_sub_48_of_lt_ten (by omega)
  have hmiddle : (Nat.digitChar (code / 10 % 10)).toNat - '0'.toNat = code / 10 % 10 :=
    Nat.toNat_digitChar_sub_48_of_lt_ten (by omega)
  have hlow : (Nat.digitChar (code % 10)).toNat - '0'.toNat = code % 10 :=
    Nat.toNat_digitChar_sub_48_of_lt_ten (by omega)
  rw [Nat.ofDigitChars_cons, Nat.ofDigitChars_cons, Nat.ofDigitChars_cons, hhigh, hmiddle, hlow]
  show 10 * (10 * (10 * 0 + code / 100) + code / 10 % 10) + code % 10 = code
  omega

/-- A decimal escape ends after its third digit, also when more digits follow. -/
theorem readChar_decimalEscape {code : Nat} (h : code < 256) (rest : List Char) :
    readChar (decimalEscape code ++ rest) = some (Char.ofNat code, rest) := by
  have hdigit : ∀ n : Nat, n < 10 → (Nat.digitChar n).isDigit = true := by
    intro n hn
    rw [Nat.isDigit_digitChar, decide_eq_true hn]
  have hhigh := hdigit (code / 100) (by omega)
  have hmiddle := hdigit (code / 10 % 10) (by omega)
  have hlow := hdigit (code % 10) (by omega)
  have htaken : escapeDigits (Nat.digitChar (code / 100) :: Nat.digitChar (code / 10 % 10) ::
      Nat.digitChar (code % 10) :: rest) = [Nat.digitChar (code / 100),
        Nat.digitChar (code / 10 % 10), Nat.digitChar (code % 10)] := by
    simp [escapeDigits, hhigh, hmiddle, hlow]
  have hcode : code < 1000 := by omega
  show readEscape (Nat.digitChar (code / 100) :: Nat.digitChar (code / 10 % 10) ::
    Nat.digitChar (code % 10) :: rest) = _
  rw [readEscape, if_pos hhigh]
  simp only [htaken, decimalChar?, ofDigitChars_decimalEscape hcode, if_pos h]
  rfl

-- With one digit in place of three the digit after it is lost.
example : readChar ['\\', '0', '0', '1', '7'] = some ('\x01', ['7']) := by decide
example : readChar ['\\', '1', '7'] = some ('\x11', []) := by decide

/-- **An escaped character** is read back, whatever follows it. -/
theorem readChar_escapeChar (c : Char) (rest : List Char) :
    readChar (escapeChar c ++ rest) = some (c, rest) := by
  have hnames : ∀ pair ∈ namedEscapes, pair.2.isDigit = false ∧
      namedEscape? pair.2 = some pair.1 := by
    decide
  rcases escapeChar_cases c with ⟨name, hname, hc⟩ | ⟨hcontrol, hc⟩ |
    ⟨hcontrol, hbackslash, hquote, hc⟩
  · obtain ⟨hdigit, hnamed⟩ := hnames (c, name) hname
    rw [hc]
    show readEscape (name :: rest) = some (c, rest)
    rw [readEscape, if_neg (Bool.eq_false_iff.mp hdigit), hnamed]
    rfl
  · have hbyte : c.toNat < 256 := by omega
    rw [hc, readChar_decimalEscape hbyte, Char.ofNat_toNat]
  · -- a line break is a control character
    have hplain : ¬ (c = '"' ∨ c = '\n' ∨ c = '\r') := by
      rintro (rfl | rfl | rfl)
      · exact hquote rfl
      · exact hcontrol (by decide)
      · exact hcontrol (by decide)
    rw [hc, List.singleton_append, readChar, if_neg hbackslash, if_neg hplain]

/-- No escaped character can be taken for the quote at the end. -/
theorem head?_escapeChar_append (c : Char) (rest : List Char) :
    (escapeChar c ++ rest).head? ≠ some '"' := by
  intro hhead
  -- a text that starts with a quote has no character to read
  have hnone : readChar (escapeChar c ++ rest) = none := by
    cases htext : escapeChar c ++ rest with
    | nil => rfl
    | cons a tail =>
      rw [htext, List.head?_cons] at hhead
      rw [Option.some.inj hhead]
      rfl
  rw [readChar_escapeChar] at hnone
  cases hnone

/-- **One step** of reading: a character is taken off, and the rest is read in its turn. -/
theorem readBody_of_readChar {text rest : List Char} {c : Char} (hhead : text.head? ≠ some '"')
    (h : readChar text = some (c, rest)) :
    readBody text = (readBody rest).map fun (body, after) => (c :: body, after) := by
  rw [readBody, if_neg hhead]
  split
  · rename_i hnone
    rw [h] at hnone
    cases hnone
  · rename_i d after hsome
    have hpair : (c, rest) = (d, after) := Option.some.inj (h.symm.trans hsome)
    cases hpair
    rfl

/-- **An escaped text** is read back up to its quote.  By induction on the text: reading takes off
    one escaped character at a time. -/
theorem readBody_escape (s rest : List Char) :
    readBody (s.flatMap escapeChar ++ '"' :: rest) = some (s, rest) := by
  induction s with
  | nil => rw [readBody]; rfl
  | cons c s ih =>
    rw [List.flatMap_cons, List.append_assoc,
      readBody_of_readChar (head?_escapeChar_append c _) (readChar_escapeChar c _), ih]
    rfl

/-- **Escaping is undone by reading**: every text can be escaped, and the escaped text between
    quotes is read as exactly that text, with exactly what follows it left over. -/
theorem escaped_text_reads_back (s rest : String) :
    ∃ escaped, escapeValue (.text s) = .ok escaped ∧
      readLiteral ("\"" ++ escaped ++ "\"" ++ rest) = some (s, rest) := by
  refine ⟨escape s, rfl, ?_⟩
  have hcode : ("\"" ++ escape s ++ "\"" ++ rest).toList =
      '"' :: (s.toList.flatMap escapeChar ++ '"' :: rest.toList) := by
    simp [escape]
  rw [readLiteral, hcode]
  show (readBody (s.toList.flatMap escapeChar ++ '"' :: rest.toList)).map _ = _
  rw [readBody_escape]
  show some (String.ofList s.toList, String.ofList rest.toList) = some (s, rest)
  rw [String.ofList_toList, String.ofList_toList]

end HomeScenes.Lua
