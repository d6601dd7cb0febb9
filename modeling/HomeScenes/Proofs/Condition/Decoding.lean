import HomeScenes.Proofs.Condition.Outline
import HomeScenes.Proofs.Lua.Literal
import Mathlib

/-!
# What a leaf says can be read off its text

  Two leaves that compile to the same text say the same thing: they are of one kind, compare with
  one operator, and have the same content (`leaf_texts_eq_iff`).  Nothing that a user chose is
  lost or mixed up on the way, whatever names and texts imitate of the code around them.

  The text of a leaf is a row of parts, and each part shows where it ends: an integer at the first
  character that is in no number, an operator at the blank, a quoted text where reading it back
  ends.  So a part can be *cut off*: if two rows are the same text, their first parts are the same
  and so is what follows (`cut_at`, `Lua.cut_quote`).

  That the kinds do not mix needs no cutting.  A leaf is written in one of six forms, and no form
  opens as another does (`Form.eq_of_opens`); a truth value, a number and a text that a variable
  is compared with have forms of their own.
-/

namespace HomeScenes

/-! ## Cutting off a part -/

/-- **A part that ends at a character** can be cut off if the character does not occur in it. -/
theorem cut_at {c : Char} {a a' b b' : List Char} (ha : c ∉ a) (ha' : c ∉ a')
    (h : a ++ c :: b = a' ++ c :: b') : a = a' ∧ b = b' := by
  induction a generalizing a' with
  | nil =>
    cases a' with
    | nil => exact ⟨rfl, (List.cons.inj h).2⟩
    | cons d rest =>
      rw [(List.cons.inj h).1] at ha'
      exact absurd List.mem_cons_self ha'
  | cons d rest ih =>
    cases a' with
    | nil =>
      rw [← (List.cons.inj h).1] at ha
      exact absurd List.mem_cons_self ha
    | cons d' rest' =>
      obtain ⟨hd, htail⟩ := List.cons.inj h
      obtain ⟨hrest, hb⟩ := ih (fun hc => ha (List.mem_cons_of_mem _ hc))
        (fun hc => ha' (List.mem_cons_of_mem _ hc)) htail
      exact ⟨by rw [hd, hrest], hb⟩

namespace Lua

theorem toList_quote (s : String) :
    (quote s).toList = '"' :: (s.toList.flatMap escapeChar ++ ['"']) := by
  simp [quote, escape]

/-- **A quoted text** can be cut off: reading it back gives the text and what follows it. -/
theorem cut_quote {s s' : String} {b b' : List Char}
    (h : (quote s).toList ++ b = (quote s').toList ++ b') :
    s = s' ∧ b = b' := by
  have hread : ∀ (t : String) (rest : List Char),
      readBody ((quote t).toList ++ rest).tail = some (t.toList, rest) := by
    intro t rest
    rw [toList_quote, List.cons_append, List.tail_cons, List.append_assoc]
    exact readBody_escape t.toList rest
  have hsame : some (s.toList, b) = some (s'.toList, b') := by
    rw [← hread s b, ← hread s' b', h]
  obtain ⟨hs, hb⟩ := Prod.mk.inj (Option.some.inj hsame)
  exact ⟨String.toList_inj.mp hs, hb⟩

end Lua

/-- A character that no numeral has does not occur in an integer. -/
theorem not_mem_intRepr {c : Char} (hc : isNumeralChar c = false) (n : Int) :
    c ∉ n.repr.toList := by
  intro hmem
  rw [(numeral_intRepr n).chars c hmem] at hc
  cases hc

/-- **An integer** can be cut off at any character that is in no number. -/
theorem cut_int {c : Char} (hc : isNumeralChar c = false) {n m : Int} {b b' : List Char}
    (h : n.repr.toList ++ c :: b = m.repr.toList ++ c :: b') : n = m ∧ b = b' := by
  obtain ⟨hrepr, hb⟩ := cut_at (not_mem_intRepr hc n) (not_mem_intRepr hc m) h
  exact ⟨Int.repr_inj.mp (String.toList_inj.mp hrepr), hb⟩

/-! ## Literals -/

/-- A number that is an integer. -/
def Number.isInt : Number → Bool
  | .int _ => true
  | .float _ => false

theorem Number.exists_of_isInt {n : Number} (h : n.isInt = true) : ∃ i, n = .int i := by
  cases n with
  | int i => exact ⟨i, rfl⟩
  | float x => cases h

namespace Lua

/-- The three ways to write a literal that is no double-precision number. -/
inductive Spelling where
  | word
  | integer
  | quotation
deriving DecidableEq

/-- How a text is spelt, by its characters: only a quotation has quotes, and only an integer has
    nothing but characters of numbers. -/
def spelling (text : List Char) : Spelling :=
  if text.contains '"' then .quotation else if text.all isNumeralChar then .integer else .word

/-- How the literal of a value is spelt. -/
def spellingOf : Value → Spelling
  | .text _ => .quotation
  | .int _ => .integer
  | _ => .word

/-- An integer is its own literal. -/
theorem text_of_literal_int {n : Int} {text : String} (h : literal (.int n) = .ok text) :
    text = n.repr := by
  rw [literal, finite] at h
  split at h
  · exact (Except.ok.inj h).symm
  · cases h

/-- **The spelling of a literal** tells which value it was made from. -/
theorem spelling_of_literal {v : Value} {text : String} (h : literal v = .ok text)
    (hfloat : ∀ x, v ≠ .float x) : spelling text.toList = spellingOf v := by
  cases v with
  | null => rw [← Except.ok.inj h]; decide
  | bool b => rw [← Except.ok.inj h]; cases b <;> decide
  | int n =>
    have hquote : n.repr.toList.contains '"' = false := by
      rw [List.contains_eq_mem]
      exact decide_eq_false (not_mem_intRepr rfl n)
    have hdigits : n.repr.toList.all isNumeralChar = true :=
      List.all_eq_true.mpr (numeral_intRepr n).chars
    rw [text_of_literal_int h, spelling, hquote, hdigits]
    rfl
  | float x => exact absurd rfl (hfloat x)
  | text s =>
    rw [← Except.ok.inj h, spelling, toList_quote, List.contains_cons,
      beq_self_eq_true, Bool.true_or]
    rfl
  | list | object => cases h

/-- **Literals are faithful**: values other than double-precision numbers are told apart by their
    literals. -/
theorem eq_of_literal {v w : Value} {text : String} (hv : literal v = .ok text)
    (hw : literal w = .ok text)
    (hvfloat : ∀ x, v ≠ .float x) (hwfloat : ∀ x, w ≠ .float x) : v = w := by
  have hspelling : spellingOf v = spellingOf w := by
    rw [← spelling_of_literal hv hvfloat, ← spelling_of_literal hw hwfloat]
  -- the kinds are settled by the spelling, so only values spelt alike are left to compare
  cases v with
  | null =>
    cases w with
    | null => rfl
    | bool b => cases b <;> exact absurd (Except.ok.inj (hv.trans hw.symm)) (by decide)
    | float x => exact absurd rfl (hwfloat x)
    | int | text => cases hspelling
    | list | object => cases hw
  | bool b =>
    cases w with
    | null => cases b <;> exact absurd (Except.ok.inj (hv.trans hw.symm)) (by decide)
    | bool b' =>
      have hword : boolText b = boolText b' := Except.ok.inj (hv.trans hw.symm)
      have hinj : ∀ b b' : Bool, boolText b = boolText b' → b = b' := by decide
      rw [hinj b b' hword]
    | float x => exact absurd rfl (hwfloat x)
    | int | text => cases hspelling
    | list | object => cases hw
  | int n =>
    cases w with
    | int m =>
      have hrepr : n.repr = m.repr := by rw [← text_of_literal_int hv, ← text_of_literal_int hw]
      rw [Int.repr_inj.mp hrepr]
    | float x => exact absurd rfl (hwfloat x)
    | null | bool | text => cases hspelling
    | list | object => cases hw
  | float x => exact absurd rfl (hvfloat x)
  | text s =>
    cases w with
    | text s' =>
      have hquote : quote s = quote s' := Except.ok.inj (hv.trans hw.symm)
      have hcut : (quote s).toList ++ [] = (quote s').toList ++ [] := by rw [hquote]
      rw [(cut_quote hcut).1]
    | float x => exact absurd rfl (hwfloat x)
    | null | bool | int => cases hspelling
    | list | object => cases hw
  | list | object => cases hv

end Lua

namespace Condition

/-! ## Operators and slots -/

/-- No two comparisons have the same text in the scene language. -/
theorem Comparison.lua_injective {c c' : Comparison} (h : c.lua = c'.lua) : c = c' := by
  revert h
  cases c <;> cases c' <;> decide

/-- **An operator** can be cut off at the blank after it. -/
theorem cut_operator {c c' : Comparison} {b b' : List Char}
    (h : c.lua.toList ++ ' ' :: b = c'.lua.toList ++ ' ' :: b') : c = c' ∧ b = b' := by
  have hblank : ∀ d : Comparison, ' ' ∉ d.lua.toList := by
    intro d
    cases d <;> decide
  obtain ⟨hlua, hb⟩ := cut_at (hblank c) (hblank c') h
  exact ⟨Comparison.lua_injective (String.toList_inj.mp hlua), hb⟩

/-- The operator of a document that stands for a comparison. -/
def Comparison.written : Comparison → String
  | .equal => "=="
  | .unequal => "!="
  | .greater => ">"
  | .less => "<"
  | .atLeast => ">="
  | .atMost => "<="

/-- Each comparison is written in one way in a document. -/
theorem Comparison.eq_written_of_ofText? {s : String} {c : Comparison}
    (h : Comparison.ofText? s = some c) :
    s = c.written := by
  unfold Comparison.ofText? at h
  split at h <;> cases h <;> rfl

/-- So the operator is known from its comparison. -/
theorem Leaf.operator_eq_given {leaf : Leaf} {c : Comparison} (h : leaf.comparison? = some c) :
    leaf.operator = .given c.written := by
  rw [comparison?] at h
  cases hoperator : leaf.operator with
  | given s =>
    rw [hoperator] at h
    rw [Comparison.eq_written_of_ofText? h]
  | absent | null => rw [hoperator] at h; cases h

theorem eq_given_of_nonEmpty? {slot : Slot String} {s : String} (h : nonEmpty? slot = some s) :
    slot = .given s :=
  toOption_eq_some_iff.mp (Option.filter_eq_some_iff.mp h).1

/-- No two positions have the same property. -/
theorem sunProperty?_injective {position position' property : String}
    (h : sunProperty? position = some property) (h' : sunProperty? position' = some property) :
    position = position' := by
  unfold sunProperty? at h h'
  split at h <;> split at h'
  · rfl
  · exact absurd (Option.some.inj (h.trans h'.symm)) (by decide)
  · cases h'
  · exact absurd (Option.some.inj (h.trans h'.symm)) (by decide)
  · rfl
  · cases h'
  · cases h
  · cases h
  · cases h

/-! ## What leaves say -/

/-- Whether no double-precision number is in a leaf. -/
def Leaf.isFloatFree (leaf : Leaf) : Bool :=
  (match leaf.value with
    | .given (.number n) => n.isInt
    | _ => true) &&
  (match leaf.subject with
    | .sunPosition _ (.given n) => n.isInt
    | _ => true)

/-- **Two leaves have the same content**: they look at the same thing and compare it with the
    same.  An offset that is left out or null counts as zero. -/
def Leaf.SameContent (a b : Leaf) : Prop :=
  match a.subject, b.subject with
  | .deviceState id property, .deviceState id' property' =>
    id = id' ∧ property = property' ∧ a.value = b.value
  | .globalVariable name, .globalVariable name' => name = name' ∧ a.value = b.value
  | .time, .time => a.value = b.value
  | .sunPosition position offset, .sunPosition position' offset' =>
    position = position' ∧ offsetOf offset = offsetOf offset'
  | _, _ => False

theorem Literal.toValue_ne_null (l : Literal) : l.toValue ≠ .null := by
  rcases l with b | (n | x) | s <;> exact Value.noConfusion

/-- A literal is known from its value. -/
theorem Literal.toValue_injective {l l' : Literal} (h : l.toValue = l'.toValue) : l = l' := by
  rcases l with b | (n | x) | s <;> rcases l' with b' | (n' | x') | s' <;> cases h <;> rfl

/-- A literal that is supplied, be it null, is not taken for another. -/
theorem eq_of_toValue {v w : Slot Literal} (hv : v.isSupplied = true) (hw : w.isSupplied = true)
    (h : v.toValue Literal.toValue = w.toValue Literal.toValue) : v = w := by
  rcases v with _ | _ | l <;> rcases w with _ | _ | l'
  · cases hv
  · cases hv
  · cases hv
  · cases hw
  · rfl
  · exact absurd h.symm (Literal.toValue_ne_null l')
  · cases hw
  · exact absurd h (Literal.toValue_ne_null l)
  · rw [Literal.toValue_injective h]

namespace Leaf

variable {a b : Leaf} {text : String}

/-- A leaf without double-precision numbers has none as its value. -/
theorem valueOf_ne_float {leaf : Leaf} (h : leaf.isFloatFree = true) (x : Binary64) :
    leaf.valueOf ≠ .float x := by
  have hvalue := (Bool.and_eq_true_iff.mp h).1
  rw [valueOf]
  rcases hslot : leaf.value with _ | _ | (b | n | s)
  · exact Value.noConfusion
  · exact Value.noConfusion
  · exact Value.noConfusion
  · rw [hslot] at hvalue
    obtain ⟨i, rfl⟩ := Number.exists_of_isInt hvalue
    exact Value.noConfusion
  · exact Value.noConfusion

/-- **The value of a leaf** is known from its literal. -/
theorem value_eq_of_literal {literal : String} (ha : Lua.literal a.valueOf = .ok literal)
    (hb : Lua.literal b.valueOf = .ok literal) (hasupplied : a.value.isSupplied = true)
    (hbsupplied : b.value.isSupplied = true) (hafree : a.isFloatFree = true)
    (hbfree : b.isFloatFree = true) :
    a.value = b.value :=
  eq_of_toValue hasupplied hbsupplied
    (Lua.eq_of_literal ha hb (valueOf_ne_float hafree) (valueOf_ne_float hbfree))

/-- The operator of a leaf is known from its comparison. -/
theorem operator_eq_of_comparison? {c : Comparison} (ha : a.comparison? = some c)
    (hb : b.comparison? = some c) :
    a.operator = b.operator := by
  rw [operator_eq_given ha, operator_eq_given hb]

end Leaf

/-! ## Forms -/

/-- **The forms** in which leaves are written; a variable has three, by what it is compared with. -/
inductive Form where
  | device
  | plainVariable
  | flagVariable
  | numberVariable
  | time
  | sun
deriving DecidableEq

namespace Form

/-- The fixed text with which a form opens. -/
def opening : Form → String
  | .device => "fibaro.getValue("
  | .plainVariable => "fibaro.getGlobalVariable("
  | .flagVariable => "(fibaro.getGlobalVariable("
  | .numberVariable => "tonumber(fibaro.getGlobalVariable("
  | .time => "os.time() "
  | .sun => "(os.date(\"*t\").hour * 60 + os.date(\"*t\").min) "

/-- **No form opens as another does.** -/
theorem eq_of_opens {f g : Form} (h : f.opening.toList <+: g.opening.toList) : f = g := by
  revert h
  cases f <;> cases g <;> decide

/-- No opening is the beginning of another. -/
theorem eq_of_openings {f g : Form} {text : List Char} (hf : f.opening.toList <+: text)
    (hg : g.opening.toList <+: text) : f = g := by
  rcases List.prefix_or_prefix_of_prefix hf hg with h | h
  · exact eq_of_opens h
  · exact (eq_of_opens h).symm

/-- What closes the call after a name. -/
def closing : Form → String
  | .numberVariable => ")) "
  | _ => ") "

/-- What stands around a literal. -/
def marks : Form → String × String
  | .flagVariable => ("\"", "\")")
  | _ => ("", "")

/-- **From the name on**, a device and a variable are written alike: the name, the operator, the
    literal. -/
def comparison (form : Form) (name : String) (c : Comparison) (literal : String) : List Char :=
  (Lua.quote name).toList ++ (form.closing.toList ++
    (c.lua.toList ++ ' ' :: (form.marks.1.toList ++ (literal.toList ++ form.marks.2.toList))))

/-- The three parts of a comparison are known from its text. -/
theorem comparison_injective (form : Form) {name name' literal literal' : String}
    {c c' : Comparison} (h : form.comparison name c literal = form.comparison name' c' literal') :
    name = name' ∧ c = c' ∧ literal = literal' := by
  obtain ⟨hname, h⟩ := Lua.cut_quote h
  obtain ⟨hc, h⟩ := cut_operator (List.append_cancel_left h)
  exact ⟨hname, hc, String.toList_inj.mp (List.append_cancel_right (List.append_cancel_left h))⟩

/-- The form of a variable that is compared with a value. -/
def ofVariable : Slot Literal → Form
  | .given (.bool _) => .flagVariable
  | .given (.number _) => .numberVariable
  | _ => .plainVariable

end Form

namespace Leaf

/-- The text about a device, from its opening on. -/
theorem toList_deviceText (id : Int) (name : String) (c : Comparison) (literal : String) :
    (deviceText (.int id) name c.lua literal).toList =
      Form.device.opening.toList ++
        (id.repr.toList ++ ',' :: ' ' :: Form.device.comparison name c literal) := by
  have hopening : Form.device.opening = "fibaro.getValue(" := rfl
  have hclosing : Form.device.closing = ") " := rfl
  have hmarks : Form.device.marks = ("", "") := rfl
  delta deviceText Form.comparison
  rw [hopening, hclosing, hmarks]
  simp only [Number.text, String.toList_append, String.reduceToList, List.append_assoc,
    List.cons_append, List.nil_append, List.append_nil]

/-- The text about a variable, from its opening on. -/
theorem toList_variableText (value : Slot Literal) (name : String) (c : Comparison)
    (literal : String) :
    (variableText value ("fibaro.getGlobalVariable(" ++ Lua.quote name ++
      ")") c.lua literal).toList =
      (Form.ofVariable value).opening.toList ++
        (Form.ofVariable value).comparison name c literal := by
  have hplain : ("fibaro.getGlobalVariable(" ++ Lua.quote name ++ ")" ++ " " ++ c.lua ++ " " ++
      literal).toList =
      Form.plainVariable.opening.toList ++ Form.plainVariable.comparison name c literal := by
    delta Form.comparison
    rw [show Form.plainVariable.opening = "fibaro.getGlobalVariable(" from rfl,
      show Form.plainVariable.closing = ") " from rfl,
      show Form.plainVariable.marks = ("", "") from rfl]
    simp only [String.toList_append, String.reduceToList, List.append_assoc, List.cons_append,
      List.nil_append, List.append_nil]
  rcases value with _ | _ | (b | n | s)
  · exact hplain
  · exact hplain
  · delta Form.comparison
    rw [show Form.ofVariable (.given (.bool b)) = .flagVariable from rfl,
      show Form.flagVariable.opening = "(fibaro.getGlobalVariable(" from rfl,
      show Form.flagVariable.closing = ") " from rfl,
      show Form.flagVariable.marks = ("\"", "\")") from rfl]
    show ("(" ++ ("fibaro.getGlobalVariable(" ++ Lua.quote name ++ ")") ++ " " ++ c.lua ++
        " \"" ++ literal ++
      "\")").toList = _
    simp only [String.toList_append, String.reduceToList, List.append_assoc, List.cons_append,
      List.nil_append]
  · delta Form.comparison
    rw [show Form.ofVariable (.given (.number n)) = .numberVariable from rfl,
      show Form.numberVariable.opening = "tonumber(fibaro.getGlobalVariable(" from rfl,
      show Form.numberVariable.closing = ")) " from rfl,
      show Form.numberVariable.marks = ("", "") from rfl]
    show ("tonumber(" ++ ("fibaro.getGlobalVariable(" ++ Lua.quote name ++ ")") ++ ") " ++
        c.lua ++ " " ++
      literal).toList = _
    simp only [String.toList_append, String.reduceToList, List.append_assoc, List.cons_append,
      List.nil_append, List.append_nil]
  · exact hplain

/-- The text about the clock, from its opening on. -/
theorem toList_timeText (c : Comparison) (n : Int) :
    ("os.time() " ++ c.lua ++ " " ++ (Number.int n).text).toList =
      Form.time.opening.toList ++ (c.lua.toList ++ ' ' :: n.repr.toList) := by
  rw [show Form.time.opening = "os.time() " from rfl]
  simp only [String.toList_append, String.reduceToList, List.append_assoc, List.cons_append,
    List.nil_append, Number.text]

/-- What leads from the operator to the property of the sun. -/
def sunLead : String :=
  "(function() local h,m = string.match(fibaro.getValue(1, \""

/-- What leads from there to the offset. -/
def sunMiddle : String :=
  "), \"(%d+):(%d+)\") return tonumber(h)*60 + tonumber(m) "

/-- The text about the sun, from its opening on. -/
theorem toList_sunText (property : String) (c : Comparison) (n : Int) :
    (sunText property c.lua (.int n)).toList =
      Form.sun.opening.toList ++
        (c.lua.toList ++ ' ' :: (sunLead.toList ++ (property.toList ++ '"' ::
        (sunMiddle.toList ++ ((signText (.int n)).toList ++ ' ' ::
          ((n.natAbs : Int).repr.toList ++ ' ' :: "end)()".toList)))))) := by
  delta sunText sunLead sunMiddle
  rw [show Form.sun.opening = "(os.date(\"*t\").hour * 60 + os.date(\"*t\").min) " from rfl]
  simp only [String.toList_append, String.reduceToList, List.append_assoc, List.cons_append,
    List.nil_append, signText, Number.abs, Number.text]

/-- The sign and the magnitude make up the offset. -/
theorem eq_of_sign_of_natAbs {n m : Int} (hsign : signText (.int n) = signText (.int m))
    (habs : (n.natAbs : Int) = m.natAbs) : n = m := by
  have hnegative : n < 0 ↔ m < 0 := by
    rw [signText, signText, Number.isNegative, Number.isNegative] at hsign
    by_cases hn : n < 0 <;> by_cases hm : m < 0
    · exact iff_of_true hn hm
    · rw [decide_eq_true hn, decide_eq_false hm] at hsign
      exact absurd hsign (by decide)
    · rw [decide_eq_false hn, decide_eq_true hm] at hsign
      exact absurd hsign (by decide)
    · exact iff_of_false hn hm
  omega

/-! ## Leaves of one kind -/

variable {leaf a b : Leaf} {text : String}

theorem exists_int_of_valueOf {n : Number} (h : leaf.valueOf = n.toValue)
    (hfree : leaf.isFloatFree = true) :
    ∃ i, n = .int i := by
  cases n with
  | int i => exact ⟨i, rfl⟩
  | float x => exact absurd h (valueOf_ne_float hfree x)

/-- A device, from its opening on. -/
theorem device_text {slot : Slot Int} {property : Slot String}
    (h : leaf.compileDevice slot property = .ok text) :
    ∃ id name c literal, slot = .given id ∧ property = .given name ∧ leaf.value.isSupplied = true ∧
      leaf.comparison? = some c ∧ Lua.literal leaf.valueOf = .ok literal ∧
      text.toList = Form.device.opening.toList ++
        (id.repr.toList ++ ',' :: ' ' :: Form.device.comparison name c literal) := by
  obtain ⟨id, name, c, n, literal, hid, hname, hvalue, hc, hn, _, hliteral, rfl⟩ :=
    compileDevice_eq_ok_iff.mp h
  have hint : Number.int id = n := Number.toValue_inj (Number.eq_toValue_of_finite hn)
  refine ⟨id, name, c, literal, hid, eq_given_of_nonEmpty? hname, hvalue, hc, hliteral, ?_⟩
  rw [← hint, toList_deviceText]

/-- A variable, from its opening on. -/
theorem variable_text {slot : Slot String} (h : leaf.compileVariable slot = .ok text) :
    ∃ name c literal, slot = .given name ∧ leaf.value.isSupplied = true ∧
      leaf.comparison? = some c ∧ Lua.literal leaf.valueOf = .ok literal ∧
      text.toList = (Form.ofVariable leaf.value).opening.toList ++
        (Form.ofVariable leaf.value).comparison name c literal := by
  obtain ⟨name, c, literal, hname, hvalue, hc, _, hliteral, rfl⟩ := compileVariable_eq_ok_iff.mp h
  exact ⟨name, c, literal, eq_given_of_nonEmpty? hname, hvalue, hc, hliteral,
    toList_variableText ..⟩

/-- A time, from its opening on. -/
theorem time_text (h : leaf.compileTime = .ok text) (hfree : leaf.isFloatFree = true) :
    ∃ c n, leaf.value.isSupplied = true ∧ leaf.comparison? = some c ∧ leaf.valueOf = .int n ∧
      text.toList = Form.time.opening.toList ++ (c.lua.toList ++ ' ' :: n.repr.toList) := by
  obtain ⟨c, n, hvalue, hc, hn, rfl⟩ := compileTime_eq_ok_iff.mp h
  have hvalueOf := Number.eq_toValue_of_finite hn
  obtain ⟨i, rfl⟩ := exists_int_of_valueOf hvalueOf hfree
  exact ⟨c, i, hvalue, hc, hvalueOf, toList_timeText c i⟩

/-- A position of the sun, from its opening on. -/
theorem sun_text {slot : Slot String} {offset : Slot Number}
    (h : leaf.compileSun slot offset = .ok text) (hfree : (offsetOf offset).isInt = true) :
    ∃ position property c n, slot = .given position ∧ sunProperty? position = some property ∧
      leaf.comparison? = some c ∧ offsetOf offset = .int n ∧
      text.toList = Form.sun.opening.toList ++
        (c.lua.toList ++ ' ' :: (sunLead.toList ++ (property.toList ++ '"' ::
        (sunMiddle.toList ++ ((signText (.int n)).toList ++ ' ' ::
          ((n.natAbs : Int).repr.toList ++ ' ' :: "end)()".toList)))))) := by
  obtain ⟨position, property, c, n, hposition, hproperty, hc, hn, rfl⟩ := compileSun_eq_ok_iff.mp h
  have hoffset := (sunOffset_finite hn).1
  rw [hoffset] at hfree
  obtain ⟨i, rfl⟩ := Number.exists_of_isInt hfree
  exact ⟨position, property, c, i, eq_given_of_nonEmpty? hposition, hproperty, hc, hoffset,
    toList_sunText ..⟩

/-- **Devices** with the same text say the same. -/
theorem device_eq {slot slot' : Slot Int} {property property' : Slot String}
    (ha : a.compileDevice slot property = .ok text)
    (hb : b.compileDevice slot' property' = .ok text)
    (hafree : a.isFloatFree = true) (hbfree : b.isFloatFree = true) :
    a.operator = b.operator ∧ slot = slot' ∧ property = property' ∧ a.value = b.value := by
  obtain ⟨id, name, c, literal, rfl, rfl, hvalue, hc, hliteral, htext⟩ := device_text ha
  obtain ⟨id', name', c', literal', rfl, rfl, hvalue', hc', hliteral', htext'⟩ := device_text hb
  obtain ⟨rfl, hrest⟩ := cut_int rfl (List.append_cancel_left (htext.symm.trans htext'))
  obtain ⟨rfl, rfl, rfl⟩ := Form.device.comparison_injective (List.cons.inj hrest).2
  exact ⟨operator_eq_of_comparison? hc hc', rfl, rfl,
    value_eq_of_literal hliteral hliteral' hvalue hvalue' hafree hbfree⟩

/-- **Variables** with the same text say the same. -/
theorem variable_eq {slot slot' : Slot String} (ha : a.compileVariable slot = .ok text)
    (hb : b.compileVariable slot' = .ok text)
    (hform : Form.ofVariable a.value = Form.ofVariable b.value)
    (hafree : a.isFloatFree = true) (hbfree : b.isFloatFree = true) :
    a.operator = b.operator ∧ slot = slot' ∧ a.value = b.value := by
  obtain ⟨name, c, literal, rfl, hvalue, hc, hliteral, htext⟩ := variable_text ha
  obtain ⟨name', c', literal', rfl, hvalue', hc', hliteral', htext'⟩ := variable_text hb
  rw [← hform] at htext'
  obtain ⟨rfl, rfl, rfl⟩ :=
    Form.comparison_injective _ (List.append_cancel_left (htext.symm.trans htext'))
  exact ⟨operator_eq_of_comparison? hc hc', rfl,
    value_eq_of_literal hliteral hliteral' hvalue hvalue' hafree hbfree⟩

/-- **Times** with the same text say the same. -/
theorem time_eq (ha : a.compileTime = .ok text) (hb : b.compileTime = .ok text)
    (hafree : a.isFloatFree = true) (hbfree : b.isFloatFree = true) :
    a.operator = b.operator ∧ a.value = b.value := by
  obtain ⟨c, n, hvalue, hc, hn, htext⟩ := time_text ha hafree
  obtain ⟨c', n', hvalue', hc', hn', htext'⟩ := time_text hb hbfree
  obtain ⟨rfl, hrepr⟩ := cut_operator (List.append_cancel_left (htext.symm.trans htext'))
  have hstamp : n = n' := Int.repr_inj.mp (String.toList_inj.mp hrepr)
  exact ⟨operator_eq_of_comparison? hc hc',
    eq_of_toValue hvalue hvalue' ((hn.trans (congrArg Value.int hstamp)).trans hn'.symm)⟩

/-- **Positions of the sun** with the same text say the same. -/
theorem sun_eq {slot slot' : Slot String} {offset offset' : Slot Number}
    (ha : a.compileSun slot offset = .ok text) (hb : b.compileSun slot' offset' = .ok text)
    (hafree : (offsetOf offset).isInt = true) (hbfree : (offsetOf offset').isInt = true) :
    a.operator = b.operator ∧ slot = slot' ∧ offsetOf offset = offsetOf offset' := by
  obtain ⟨position, property, c, n, rfl, hproperty, hc, hn, htext⟩ := sun_text ha hafree
  obtain ⟨position', property', c', n', rfl, hproperty', hc', hn', htext'⟩ := sun_text hb hbfree
  have hquote : ∀ {s t : String}, sunProperty? s = some t → '"' ∉ t.toList := by
    intro s t h
    unfold sunProperty? at h
    split at h
    · rw [← Option.some.inj h]; decide
    · rw [← Option.some.inj h]; decide
    · cases h
  have hblank : ∀ m : Number, ' ' ∉ (signText m).toList := by
    intro m
    rw [signText]
    split <;> decide
  obtain ⟨rfl, h⟩ := cut_operator (List.append_cancel_left (htext.symm.trans htext'))
  obtain ⟨hname, h⟩ := cut_at (hquote hproperty) (hquote hproperty') (List.append_cancel_left h)
  obtain ⟨hsign, h⟩ := cut_at (hblank _) (hblank _) (List.append_cancel_left h)
  obtain ⟨habs, _⟩ := cut_int rfl h
  rw [← String.toList_inj.mp hname] at hproperty'
  rw [sunProperty?_injective hproperty hproperty', hn, hn',
    eq_of_sign_of_natAbs (String.toList_inj.mp hsign) habs]
  exact ⟨operator_eq_of_comparison? hc hc', rfl, rfl⟩

/-! ## Leaves of all kinds -/

/-- The form in which a leaf is written. -/
def form (leaf : Leaf) : Form :=
  match leaf.subject with
  | .deviceState .. => .device
  | .globalVariable _ => .ofVariable leaf.value
  | .time => .time
  | _ => .sun

end Leaf

/-- The kind of leaves that are written in a form. -/
def Form.kind : Form → Kind
  | .device => .deviceState
  | .plainVariable | .flagVariable | .numberVariable => .globalVariable
  | .time => .time
  | .sun => .sunPosition

namespace Leaf

variable {leaf a b : Leaf} {text : String}

theorem offset_isInt {slot : Slot String} {offset : Slot Number}
    (hsubject : leaf.subject = .sunPosition slot offset)
    (hfree : leaf.isFloatFree = true) : (offsetOf offset).isInt = true := by
  have hoffset := (Bool.and_eq_true_iff.mp hfree).2
  rw [hsubject] at hoffset
  cases offset with
  | absent | null => rfl
  | given n => exact hoffset

/-- **A leaf that compiles** opens with its form, and the form tells its kind. -/
theorem opens_with_form (h : leaf.compile = .ok text) (hcustom : leaf.subject.kind ≠ .custom)
    (hfree : leaf.isFloatFree = true) :
    leaf.form.opening.toList <+: text.toList ∧ leaf.form.kind = leaf.subject.kind := by
  rw [compile] at h
  rw [form]
  cases hsubject : leaf.subject with
  | deviceState slot property =>
    rw [hsubject] at h
    obtain ⟨id, name, c, literal, _, _, _, _, _, htext⟩ := device_text h
    exact ⟨⟨_, htext.symm⟩, rfl⟩
  | globalVariable slot =>
    rw [hsubject] at h
    obtain ⟨name, c, literal, _, _, _, _, htext⟩ := variable_text h
    refine ⟨⟨_, htext.symm⟩, ?_⟩
    rcases leaf.value with _ | _ | (b | n | s) <;> rfl
  | time =>
    rw [hsubject] at h
    obtain ⟨c, n, _, _, _, htext⟩ := time_text h hfree
    exact ⟨⟨_, htext.symm⟩, rfl⟩
  | sunPosition slot offset =>
    rw [hsubject] at h
    obtain ⟨position, property, c, n, _, _, _, _, htext⟩ := sun_text h (offset_isInt hsubject hfree)
    exact ⟨⟨_, htext.symm⟩, rfl⟩
  | custom code => rw [hsubject] at hcustom; exact absurd rfl hcustom
  | unknown tag extra => rw [hsubject] at h; cases h

/-- **Leaves with the same text** say the same. -/
theorem same_of_compile (ha : a.compile = .ok text) (hb : b.compile = .ok text)
    (hacustom : a.subject.kind ≠ .custom) (hbcustom : b.subject.kind ≠ .custom)
    (hafree : a.isFloatFree = true) (hbfree : b.isFloatFree = true) :
    a.subject.kind = b.subject.kind ∧ a.operator = b.operator ∧ a.SameContent b := by
  obtain ⟨haopen, hakind⟩ := opens_with_form ha hacustom hafree
  obtain ⟨hbopen, hbkind⟩ := opens_with_form hb hbcustom hbfree
  have hform : a.form = b.form := Form.eq_of_openings haopen hbopen
  have hkind : a.subject.kind = b.subject.kind := by rw [← hakind, ← hbkind, hform]
  refine ⟨hkind, ?_⟩
  rw [compile] at ha hb
  rw [form, form] at hform
  rw [SameContent]
  cases hsa : a.subject with
  | deviceState slot property =>
    cases hsb : b.subject with
    | deviceState slot' property' =>
      rw [hsa] at ha
      rw [hsb] at hb
      exact device_eq ha hb hafree hbfree
    | globalVariable | time | sunPosition | custom | unknown => rw [hsa, hsb] at hkind; cases hkind
  | globalVariable slot =>
    cases hsb : b.subject with
    | globalVariable slot' =>
      rw [hsa] at ha hform
      rw [hsb] at hb hform
      exact variable_eq ha hb hform hafree hbfree
    | deviceState | time | sunPosition | custom | unknown => rw [hsa, hsb] at hkind; cases hkind
  | time =>
    cases hsb : b.subject with
    | time =>
      rw [hsa] at ha
      rw [hsb] at hb
      exact time_eq ha hb hafree hbfree
    | deviceState | globalVariable | sunPosition | custom | unknown =>
      rw [hsa, hsb] at hkind; cases hkind
  | sunPosition slot offset =>
    cases hsb : b.subject with
    | sunPosition slot' offset' =>
      rw [hsa] at ha
      rw [hsb] at hb
      exact sun_eq ha hb (offset_isInt hsa hafree) (offset_isInt hsb hbfree)
    | deviceState | globalVariable | time | custom | unknown => rw [hsa, hsb] at hkind; cases hkind
  | custom code => rw [hsa] at hacustom; exact absurd rfl hacustom
  | unknown tag extra => rw [hsa] at ha; cases ha

/-- Whether the document names the kind does not matter to the text of a leaf. -/
theorem compile_congr (hoperator : a.operator = b.operator) (hvalue : a.value = b.value)
    (hsubject : a.subject = b.subject) : a.compile = b.compile := by
  obtain ⟨operator, value, tagged, subject⟩ := a
  obtain ⟨operator', value', tagged', subject'⟩ := b
  obtain rfl : operator = operator' := hoperator
  obtain rfl : value = value' := hvalue
  obtain rfl : subject = subject' := hsubject
  rfl

/-- **Leaves that say the same** have the same text. -/
theorem text_eq_of_same {text' : String} (ha : a.compile = .ok text) (hb : b.compile = .ok text')
    (hoperator : a.operator = b.operator) (hcontent : a.SameContent b) : text = text' := by
  rw [SameContent] at hcontent
  split at hcontent
  · rename_i id property id' property' hsa hsb
    obtain ⟨rfl, rfl, hvalue⟩ := hcontent
    exact Except.ok.inj (ha.symm.trans
      ((compile_congr hoperator hvalue (hsa.trans hsb.symm)).trans hb))
  · rename_i name name' hsa hsb
    obtain ⟨rfl, hvalue⟩ := hcontent
    exact Except.ok.inj (ha.symm.trans
      ((compile_congr hoperator hvalue (hsa.trans hsb.symm)).trans hb))
  · rename_i hsa hsb
    exact Except.ok.inj (ha.symm.trans
      ((compile_congr hoperator hcontent (hsa.trans hsb.symm)).trans hb))
  · -- the offsets may be written differently, so the leaves are compared by what they compile to
    rename_i slot offset slot' offset' hsa hsb
    obtain ⟨rfl, hoffset⟩ := hcontent
    rw [compile, hsa] at ha
    rw [compile, hsb] at hb
    obtain ⟨position, property, c, n, hposition, hproperty, hc, hn, rfl⟩ :=
      compileSun_eq_ok_iff.mp ha
    obtain ⟨position', property', c', n', hposition', hproperty', hc', hn', rfl⟩ :=
      compileSun_eq_ok_iff.mp hb
    obtain rfl : position = position' := Option.some.inj (hposition.symm.trans hposition')
    obtain rfl : property = property' := Option.some.inj (hproperty.symm.trans hproperty')
    have hcomparison : a.comparison? = b.comparison? := by rw [comparison?, comparison?, hoperator]
    obtain rfl : c = c' := Option.some.inj (hc.symm.trans (hcomparison.trans hc'))
    obtain rfl : n = n' :=
      (sunOffset_finite hn).1.symm.trans (hoffset.trans (sunOffset_finite hn').1)
    rfl
  · exact hcontent.elim

end Leaf

/-- **What a leaf says can be read off its text.**  Leaves other than fragments of code, with no
    double-precision number in them, compile to the same text exactly when they are of one kind,
    have the same operator and have the same content. -/
theorem leaf_texts_eq_iff {a b : Leaf} {text text' : String} (ha : a.compile = .ok text)
    (hb : b.compile = .ok text') (hacustom : a.subject.kind ≠ .custom)
    (hbcustom : b.subject.kind ≠ .custom)
    (hafree : a.isFloatFree = true) (hbfree : b.isFloatFree = true) :
    text = text' ↔ a.subject.kind = b.subject.kind ∧ a.operator = b.operator ∧ a.SameContent b := by
  constructor
  · rintro rfl
    exact Leaf.same_of_compile ha hb hacustom hbcustom hafree hbfree
  · rintro ⟨_, hoperator, hcontent⟩
    exact Leaf.text_eq_of_same ha hb hoperator hcontent

/-- A leaf about sunset with some offset; its value plays no part. -/
def sunsetLeaf (offset : Slot Number) (value : Slot Literal) : Leaf :=
  ⟨.given ">=", value, true, .sunPosition (.given "sunset") offset⟩

/-- No offset and an offset of zero are the same content, and a negative offset is another. -/
theorem sunsetLeaf_texts :
    ∃ text shifted, (sunsetLeaf .absent .absent).compile = .ok text ∧
      (sunsetLeaf (.given (.int 0)) (.given (.bool true))).compile = .ok text ∧
      (sunsetLeaf (.given (.int (-30))) .null).compile = .ok shifted ∧
      (sunsetLeaf .absent .absent).SameContent
        (sunsetLeaf (.given (.int 0)) (.given (.bool true))) ∧
      text ≠ shifted := by
  have hnone : (sunsetLeaf .absent .absent).compile =
      .ok (Leaf.sunText "sunsetHour" ">=" (.int 0)) :=
    ok_of_toOption_eq_some (by decide +kernel)
  have hzero : (sunsetLeaf (.given (.int 0)) (.given (.bool true))).compile =
      .ok (Leaf.sunText "sunsetHour" ">=" (.int 0)) := ok_of_toOption_eq_some (by decide +kernel)
  have hshifted : (sunsetLeaf (.given (.int (-30))) .null).compile =
      .ok (Leaf.sunText "sunsetHour" ">=" (.int (-30))) :=
        ok_of_toOption_eq_some (by decide +kernel)
  have hsame := (leaf_texts_eq_iff hnone hzero (by decide) (by decide) rfl rfl).mp rfl
  refine ⟨_, _, hnone, hzero, hshifted, hsame.2.2, fun htexts => ?_⟩
  have hother := (leaf_texts_eq_iff hnone hshifted (by decide) (by decide) rfl rfl).mp htexts
  have hoffset : offsetOf .absent = offsetOf (.given (.int (-30))) := hother.2.2.2
  exact absurd hoffset (by decide)

end Condition
end HomeScenes
