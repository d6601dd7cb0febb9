import HomeScenes.Proofs.Condition.Agreement
import HomeScenes.Proofs.Lua.Inert

/-!
# What compiled conditions show

  The *outline* of a leaf is the text that it compiles to with every literal emptied.  It is
  written down here from the parts of the leaf alone: names and texts, which come from a user, do
  not occur in it.  A leaf that compiles is inert and shows its outline (`Leaf.inert_compile`),
  unless it is a custom fragment, of which nothing can be said.

  The proof follows the text from left to right.  A fixed part starts and ends with a neutral
  character wherever an embedded part stands beside it, and an embedded part is inert by what was
  checked of it.
-/

namespace HomeScenes

/-! ## Numbers that pass the check -/

/-- A finite number is the value that it was checked as. -/
theorem Number.eq_toValue_of_finite {context : String} {v : Value} {n : Number}
    (h : Lua.finite context v = .ok n) : v = n.toValue := by
  cases v with
  | int i =>
    rw [Lua.finite] at h
    split at h
    · injection h with h; rw [← h]; rfl
    · cases h
  | float x =>
    rw [Lua.finite] at h
    split at h
    · injection h with h; rw [← h]; rfl
    · cases h
  | null | bool | text | list | object => cases h

/-- What a number is checked for only decides the message of a refusal. -/
theorem Number.finite_of_finite {context other : String} {v : Value} {n : Number}
    (h : Lua.finite context v = .ok n) : Lua.finite other v = .ok n := by
  cases v with
  | int i => rw [Lua.finite] at *; exact h
  | float x =>
    rw [Lua.finite] at *
    split at h
    · rename_i hx; rw [if_pos hx]; exact h
    · cases h
  | null | bool | text | list | object => cases h

/-- Integers and double-precision numbers are kept apart. -/
theorem Number.toValue_inj {n m : Number} (h : n.toValue = m.toValue) : n = m := by
  cases n <;> cases m <;> simp_all [Number.toValue]

namespace Condition

/-! ## Outlines -/

/-- The token of an operator. -/
def Leaf.operatorOutline (leaf : Leaf) : List Char :=
  leaf.comparison?.elim [] fun c => c.lua.toList

/-- The offset of the sun, none counting as zero. -/
def offsetOf (offset : Slot Number) : Number :=
  offset.toOption.getD (.int 0)

/-- The sign of an offset, which is written apart from its magnitude. -/
def signText (offset : Number) : String :=
  if offset.isNegative then "-" else "+"

/-- What a variable shows in its comparison. -/
def variableOutline (value : Slot Literal) (operator literal : List Char) : List Char :=
  let getter := "fibaro.getGlobalVariable(".toList ++ Lua.emptyLiteral ++ ")".toList
  match value with
  | .given (.bool _) => "(".toList ++ getter ++ " ".toList ++ operator ++ " \"\")".toList
  | .given (.number _) =>
    "tonumber(".toList ++ getter ++ ") ".toList ++ operator ++ " ".toList ++ literal
  | _ => getter ++ " ".toList ++ operator ++ " ".toList ++ literal

/-- What a position of the sun shows in its comparison. -/
def sunOutline (operator : List Char) (offset : Number) : List Char :=
  "(os.date(\"\").hour * 60 + os.date(\"\").min) ".toList ++ operator ++
    (" (function() local h,m = string.match(fibaro.getValue(1, \"\"), \"\") " ++
      "return tonumber(h)*60 + tonumber(m) ").toList ++
    (signText offset).toList ++ " ".toList ++ offset.abs.text.toList ++ " end)()".toList

/-- **The outline of a leaf.**  A fragment of code has none. -/
def Leaf.outline (leaf : Leaf) : List Char :=
  match leaf.subject with
  | .deviceState deviceId _ =>
    "fibaro.getValue(".toList ++
      (deviceId.toOption.elim [] fun id => (Number.int id).text.toList) ++
      ", ".toList ++ Lua.emptyLiteral ++ ") ".toList ++ leaf.operatorOutline ++ " ".toList ++
      Lua.shownLiteral leaf.valueOf
  | .globalVariable _ =>
    variableOutline leaf.value leaf.operatorOutline (Lua.shownLiteral leaf.valueOf)
  | .time =>
    "os.time() ".toList ++ leaf.operatorOutline ++ " ".toList ++ Lua.shownLiteral leaf.valueOf
  | .sunPosition _ offset => sunOutline leaf.operatorOutline (offsetOf offset)
  | .custom _ => []
  | .unknown .. => []

/-! ## The texts of leaves are inert -/

section Texts

open Lua (Inert inert_of_isInert inert_quote inert_literal inert_numeral endsNeutral_append)

/-- An operator opens and closes nothing. -/
theorem inert_operator (c : Comparison) (n : Nat) : Inert false c.lua c.lua.toList n n := by
  cases c <;> exact (inert_of_isInert (by decide)).raise

/-- Neither does a finite number. -/
theorem inert_number {n : Number} (h : n.IsFinite) (k : Nat) :
    Inert false n.text n.text.toList k k :=
  inert_numeral (Number.numeral_text h) k

/-- The text about a device: name and value are literals, the rest is fixed. -/
theorem inert_deviceText {id : Number} (hid : id.IsFinite) (name : String) (c : Comparison)
    {v : Value} {literal : String} (hliteral : Lua.literal v = .ok literal) :
    Inert false (Leaf.deviceText id name c.lua literal)
      ("fibaro.getValue(".toList ++ id.text.toList ++ ", ".toList ++ Lua.emptyLiteral ++
        ") ".toList ++ c.lua.toList ++ " ".toList ++ Lua.shownLiteral v) 0 0 := by
  have hopen : Inert false "fibaro.getValue(" "fibaro.getValue(".toList 0 1 :=
    inert_of_isInert (by decide)
  have hcomma : Inert false ", " ", ".toList 1 1 := inert_of_isInert (by decide)
  have hclose : Inert false ") " ") ".toList 1 0 := inert_of_isInert (by decide)
  have hblank : Inert false " " " ".toList 0 0 := inert_of_isInert (by decide)
  have hcall := ((hopen.append (inert_number hid 1) (Or.inl rfl)).append hcomma (Or.inr rfl)).append
    (inert_quote name 1) (Or.inr rfl)
  have hoperator := (hcall.append hclose (Or.inr rfl)).append (inert_operator c 0)
    (Or.inl (endsNeutral_append rfl))
  exact (hoperator.append hblank (Or.inr rfl)).append (inert_literal hliteral 0)
    (Or.inl (endsNeutral_append rfl))

theorem inert_getter (name : String) (n : Nat) :
    Inert false ("fibaro.getGlobalVariable(" ++ Lua.quote name ++ ")")
      ("fibaro.getGlobalVariable(".toList ++ Lua.emptyLiteral ++ ")".toList) n n := by
  have hopen : Inert false "fibaro.getGlobalVariable(" "fibaro.getGlobalVariable(".toList 0 1 :=
    inert_of_isInert (by decide)
  have hclose : Inert false ")" ")".toList 1 0 := inert_of_isInert (by decide)
  exact ((hopen.append (inert_quote name 1) (Or.inl rfl)).append hclose (Or.inr rfl)).raise

/-- The text about a variable, in each of the forms that its value selects. -/
theorem inert_variableText (name : String) (c : Comparison) {value : Slot Literal}
    {literal : String} (hliteral : Lua.literal (value.toValue Literal.toValue) = .ok literal) :
    Inert false
      (Leaf.variableText value ("fibaro.getGlobalVariable(" ++ Lua.quote name ++ ")") c.lua literal)
      (variableOutline value c.lua.toList (Lua.shownLiteral (value.toValue Literal.toValue))) 0
        0 := by
  have hblank : Inert false " " " ".toList 0 0 := inert_of_isInert (by decide)
  have hplain : Inert false
      ("fibaro.getGlobalVariable(" ++ Lua.quote name ++ ")" ++ " " ++ c.lua ++ " " ++ literal)
      ("fibaro.getGlobalVariable(".toList ++ Lua.emptyLiteral ++ ")".toList ++ " ".toList ++
        c.lua.toList ++ " ".toList ++ Lua.shownLiteral (value.toValue Literal.toValue)) 0 0 := by
    have hoperator := ((inert_getter name 0).append hblank (Or.inr rfl)).append (inert_operator c 0)
      (Or.inl (endsNeutral_append rfl))
    exact (hoperator.append hblank (Or.inr rfl)).append (inert_literal hliteral 0)
      (Or.inl (endsNeutral_append rfl))
  rcases value with _ | _ | (b | number | s)
  · exact hplain
  · exact hplain
  · -- a truth value is compared as a text: its quotes and its word are one fixed part
    have hopen : Inert false "(" "(".toList 0 1 := inert_of_isInert (by decide)
    have hmiddle : Inert false " " " ".toList 1 1 := inert_of_isInert (by decide)
    have hclose : Inert false (" \"" ++ literal ++ "\")") " \"\")".toList 1 0 := by
      have hword : Lua.boolText b = literal := Except.ok.inj hliteral
      rw [← hword]
      cases b <;> exact inert_of_isInert (by decide)
    have hgetter := hopen.append (inert_getter name 1) (Or.inl rfl)
    have hoperator := (hgetter.append hmiddle (Or.inr rfl)).append (inert_operator c 1)
      (Or.inl (endsNeutral_append rfl))
    have hall := hoperator.append hclose (Or.inr rfl)
    rw [← String.append_assoc, ← String.append_assoc] at hall
    exact hall
  · have hopen : Inert false "tonumber(" "tonumber(".toList 0 1 := inert_of_isInert (by decide)
    have hclose : Inert false ") " ") ".toList 1 0 := inert_of_isInert (by decide)
    have hgetter := hopen.append (inert_getter name 1) (Or.inl rfl)
    have hoperator := (hgetter.append hclose (Or.inr rfl)).append (inert_operator c 0)
      (Or.inl (endsNeutral_append rfl))
    exact (hoperator.append hblank (Or.inr rfl)).append (inert_literal hliteral 0)
      (Or.inl (endsNeutral_append rfl))
  · exact hplain

/-- The text about the sun, with an offset of either sign or with none. -/
theorem inert_sunText {position property : String}
    (hproperty : sunProperty? position = some property)
    (c : Comparison) {offset : Number} (hoffset : offset.IsFinite) :
    Inert false (Leaf.sunText property c.lua offset) (sunOutline c.lua.toList offset) 0 0 := by
  have hclock : Inert false "(os.date(\"*t\").hour * 60 + os.date(\"*t\").min) "
      "(os.date(\"\").hour * 60 + os.date(\"\").min) ".toList 0 0 := inert_of_isInert (by decide)
  have hsun : Inert false
      (" (function() local h,m = string.match(fibaro.getValue(1, \"" ++ property ++
        "\"), \"(%d+):(%d+)\") return tonumber(h)*60 + tonumber(m) ")
      (" (function() local h,m = string.match(fibaro.getValue(1, \"\"), \"\") " ++
        "return tonumber(h)*60 + tonumber(m) ").toList 0 1 := by
    -- the parts are scanned apart, since a joined text is slow to compute with
    refine inert_of_isInert ?_
    simp only [Lua.isInert, String.toList_append]
    unfold sunProperty? at hproperty
    split at hproperty
    · rw [← Option.some.inj hproperty]; decide +kernel
    · rw [← Option.some.inj hproperty]; decide +kernel
    · cases hproperty
  have hsign : Inert false (signText offset) (signText offset).toList 1 1 := by
    rw [signText]
    split
    · exact inert_of_isInert (by decide)
    · exact inert_of_isInert (by decide)
  have hblank : Inert false " " " ".toList 1 1 := inert_of_isInert (by decide)
  have hend : Inert false " end)()" " end)()".toList 1 0 := inert_of_isInert (by decide)
  have htime := (hclock.append (inert_operator c 0) (Or.inl rfl)).append hsun (Or.inr rfl)
  have hshift := ((htime.append hsign (Or.inl (endsNeutral_append rfl))).append hblank
    (Or.inr rfl)).append (inert_number (Number.isFinite_abs hoffset) 1)
    (Or.inl (endsNeutral_append rfl))
  have hall := hshift.append hend (Or.inr rfl)
  rw [← String.append_assoc, ← String.append_assoc] at hall
  exact hall

/-- The text about the clock. -/
theorem inert_timeText (c : Comparison) {n : Number} (hn : n.IsFinite) :
    Inert false ("os.time() " ++ c.lua ++ " " ++ n.text)
      ("os.time() ".toList ++ c.lua.toList ++ " ".toList ++ n.text.toList) 0 0 := by
  have hclock : Inert false "os.time() " "os.time() ".toList 0 0 := inert_of_isInert (by decide)
  have hblank : Inert false " " " ".toList 0 0 := inert_of_isInert (by decide)
  have hoperator := (hclock.append (inert_operator c 0) (Or.inl rfl)).append hblank (Or.inr rfl)
  exact hoperator.append (inert_number hn 0) (Or.inl (endsNeutral_append rfl))

end Texts

/-! ## Leaves are inert -/

namespace Leaf

variable {leaf : Leaf} {text : String}

theorem operatorOutline_eq {c : Comparison} (h : leaf.comparison? = some c) :
    leaf.operatorOutline = c.lua.toList := by
  rw [operatorOutline, h]; rfl

/-- A number shows all of its text. -/
theorem shownLiteral_of_finite {context : String} {v : Value} {n : Number}
    (h : Lua.finite context v = .ok n) : Lua.shownLiteral v = n.text.toList := by
  have hvalue : Lua.finite "value" v = .ok n := Number.finite_of_finite h
  cases v with
  | int i => simp only [Lua.shownLiteral, Lua.literal, hvalue]; rfl
  | float x => simp only [Lua.shownLiteral, Lua.literal, hvalue]; rfl
  | null | bool | text | list | object => cases h

/-- The offset that is compiled is the one of the slot, zero if there is none, and is finite. -/
theorem sunOffset_finite {offset : Slot Number} {n : Number} (h : sunOffset offset = .ok n) :
    offsetOf offset = n ∧ n.IsFinite := by
  rcases sunOffset_eq_ok_iff.mp h with ⟨hnone, rfl⟩ | ⟨given, rfl, hfinite⟩
  · rw [offsetOf, hnone]; exact ⟨rfl, trivial⟩
  · exact ⟨Number.toValue_inj (Number.eq_toValue_of_finite hfinite),
      Number.isFinite_of_finite hfinite⟩

/-- **A leaf that compiles** is inert and shows its outline, unless it is a fragment of code. -/
theorem inert_compile (h : leaf.compile = .ok text) (hcustom : leaf.subject.kind ≠ .custom) :
    Lua.Inert false text leaf.outline 0 0 := by
  rw [compile] at h
  rw [outline]
  cases hs : leaf.subject with
  | deviceState deviceId property =>
    rw [hs] at h
    obtain ⟨id, name, c, n, literal, rfl, _, _, hc, hn, _, hliteral, rfl⟩ :=
      compileDevice_eq_ok_iff.mp h
    have hid : Number.int id = n := Number.toValue_inj (Number.eq_toValue_of_finite hn)
    have hfinite := Number.isFinite_of_finite hn
    rw [← hid] at hfinite ⊢
    rw [operatorOutline_eq hc]
    exact inert_deviceText hfinite name c hliteral
  | globalVariable slot =>
    rw [hs] at h
    obtain ⟨name, c, literal, _, _, hc, _, hliteral, rfl⟩ := compileVariable_eq_ok_iff.mp h
    rw [operatorOutline_eq hc]
    exact inert_variableText name c hliteral
  | time =>
    rw [hs] at h
    obtain ⟨c, n, _, hc, hn, rfl⟩ := compileTime_eq_ok_iff.mp h
    rw [operatorOutline_eq hc, shownLiteral_of_finite hn]
    exact inert_timeText c (Number.isFinite_of_finite hn)
  | sunPosition slot offset =>
    rw [hs] at h
    obtain ⟨position, property, c, n, _, hproperty, hc, hn, rfl⟩ := compileSun_eq_ok_iff.mp h
    obtain ⟨hoffset, hfinite⟩ := sunOffset_finite hn
    show Lua.Inert false _ (sunOutline leaf.operatorOutline (offsetOf offset)) 0 0
    rw [operatorOutline_eq hc, hoffset]
    exact inert_sunText hproperty c hfinite
  | custom code => rw [hs] at hcustom; exact absurd rfl hcustom
  | unknown tag extra => rw [hs] at h; cases h

/-- The outline starts with a word, at most one parenthesis before it. -/
theorem exists_wordChar_outline (h : leaf.compile = .ok text)
    (hcustom : leaf.subject.kind ≠ .custom) :
    ∃ c ∈ leaf.outline, Lua.isWordChar c = true := by
  rw [compile] at h
  rw [outline]
  cases hs : leaf.subject with
  | deviceState deviceId property => exact ⟨'f', List.mem_cons_self, rfl⟩
  | globalVariable slot =>
    rcases leaf.value with _ | _ | (b | number | s)
    · exact ⟨'f', List.mem_cons_self, rfl⟩
    · exact ⟨'f', List.mem_cons_self, rfl⟩
    · exact ⟨'f', List.mem_cons_of_mem _ List.mem_cons_self, rfl⟩
    · exact ⟨'t', List.mem_cons_self, rfl⟩
    · exact ⟨'f', List.mem_cons_self, rfl⟩
  | time => exact ⟨'o', List.mem_cons_self, rfl⟩
  | sunPosition slot offset => exact ⟨'o', List.mem_cons_of_mem _ List.mem_cons_self, rfl⟩
  | custom code => rw [hs] at hcustom; exact absurd rfl hcustom
  | unknown tag extra => rw [hs] at h; cases h

end Leaf

end Condition
end HomeScenes
