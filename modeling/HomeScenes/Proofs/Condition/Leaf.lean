import HomeScenes.Condition.Compile

/-!
# What leaves compile to

  Compiling a leaf is a chain of checks that ends in one text.  For each kind of leaf this file
  turns the chain around: the leaf compiles to a text exactly when every check passes, and then
  the text is put together from what the checks gave.  Everything said about compiled leaves
  later, whether they compile, what they mean, what they contain, starts from these equivalences
  and never opens the compiler again.

  The crux is `bind_eq_ok_iff`: a chain of two steps succeeds exactly when both do.
-/

namespace HomeScenes

/-- A step and what follows it succeed together exactly when each does. -/
theorem bind_eq_ok_iff {ε α β : Type} {x : Except ε α} {f : α → Except ε β} {b : β} :
    (x >>= f) = .ok b ↔ ∃ a, x = .ok a ∧ f a = .ok b := by
  cases x with
  | error e =>
    constructor
    · intro h; exact nomatch h
    · rintro ⟨a, ha, _⟩; exact nomatch ha
  | ok a =>
    constructor
    · intro h; exact ⟨a, rfl, h⟩
    · rintro ⟨a', ha, h⟩; injection ha with ha; subst ha; exact h

/-- The last step of a chain returns what it is given. -/
theorem pure_eq_ok_iff {ε α : Type} {a b : α} : (pure a : Except ε α) = .ok b ↔ b = a := by
  constructor
  · intro h; injection h with h; exact h.symm
  · rintro rfl; rfl

theorem ok_of_toOption_eq_some {ε α : Type} {x : Except ε α} {a : α} (h : x.toOption = some a) :
    x = .ok a := by
  cases x with
  | error e => exact nomatch h
  | ok b => exact congrArg Except.ok (Option.some.inj h)

namespace Condition

/-! ## The single checks -/

theorem numberText_eq_ok_iff {context text : String} {v : Value} :
    numberText context v = .ok text ↔ ∃ n, Lua.finite context v = .ok n ∧ text = n.text := by
  rw [numberText]
  cases h : Lua.finite context v with
  | error failure => simp
  | ok n => simp [eq_comm]

theorem identifierText_eq_ok_iff {context s text : String} :
    identifierText context s = .ok text ↔ Lua.isIdentifier s.toList = true ∧ text = s := by
  rw [identifierText, Lua.identifier]
  by_cases h : Lua.isIdentifier s.toList = true
  · rw [if_pos h]; simp [h, eq_comm]
  · rw [if_neg h]; simp [h]

theorem literalText_eq_ok_iff {v : Value} {text : String} :
    literalText v = .ok text ↔ Lua.literal v = .ok text := by
  rw [literalText]
  cases h : Lua.literal v with
  | error failure => simp
  | ok t => simp

/-- A literal, and then a text around it. -/
theorem literalStep_eq_ok_iff {v : Value} {around : String → String} {text : String} :
    ((do let literal ← literalText v; return around literal) : Except Error String) = .ok text ↔
      ∃ literal, Lua.literal v = .ok literal ∧ text = around literal := by
  rw [bind_eq_ok_iff]
  constructor
  · rintro ⟨literal, hl, ht⟩; exact ⟨literal, literalText_eq_ok_iff.mp hl, pure_eq_ok_iff.mp ht⟩
  · rintro ⟨literal, hl, ht⟩; exact ⟨literal, literalText_eq_ok_iff.mpr hl, pure_eq_ok_iff.mpr ht⟩

theorem toOption_eq_some_iff {α : Type} {slot : Slot α} {a : α} :
    slot.toOption = some a ↔ slot = .given a := by
  cases slot <;> simp [Slot.toOption]

namespace Leaf

variable {leaf : Leaf} {text : String}

/-- The comparison that the operator of a leaf stands for. -/
def comparison? (leaf : Leaf) : Option Comparison :=
  Comparison.ofValue? (leaf.operator.toValue .text)

theorem requireValue_eq_ok_iff {defect : Defect} {u : Unit} :
    leaf.requireValue defect = .ok u ↔ leaf.value.isSupplied = true := by
  rw [requireValue]
  by_cases h : leaf.value.isSupplied = true
  · rw [if_pos h]; simp [h]
  · rw [if_neg h]; simp [h]

theorem operatorText_eq_ok_iff :
    leaf.operatorText = .ok text ↔ ∃ c, leaf.comparison? = some c ∧ text = c.lua := by
  rw [operatorText, bind_eq_ok_iff]
  have hread : ∀ c, Comparison.read (leaf.operator.toValue .text) = .ok c ↔
      leaf.comparison? = some c := by
    intro c
    rw [Comparison.read, comparison?]
    cases Comparison.ofValue? (leaf.operator.toValue .text) <;> simp
  constructor
  · rintro ⟨c, hc, ht⟩; exact ⟨c, (hread c).mp hc, pure_eq_ok_iff.mp ht⟩
  · rintro ⟨c, hc, ht⟩; exact ⟨c, (hread c).mpr hc, pure_eq_ok_iff.mpr ht⟩

/-! ## The kinds of leaves -/

/-- How the property of a device is compared with the text of a literal. -/
def deviceText (id : Number) (name operator literal : String) : String :=
  "fibaro.getValue(" ++ id.text ++ ", " ++ Lua.quote name ++ ") " ++ operator ++ " " ++ literal

/-- **A device** compiles exactly when it has an id, a property and a value, and each of them and
    the operator is fit to be written. -/
theorem compileDevice_eq_ok_iff {deviceId : Slot Int} {property : Slot String} :
    leaf.compileDevice deviceId property = .ok text ↔
      ∃ id name c n literal, deviceId = .given id ∧ nonEmpty? property = some name ∧
        leaf.value.isSupplied = true ∧ leaf.comparison? = some c ∧
        Lua.finite "deviceId" (.int id) = .ok n ∧ Lua.isIdentifier name.toList = true ∧
        Lua.literal leaf.valueOf = .ok literal ∧
        text = deviceText n name c.lua literal := by
  constructor
  · intro h
    rw [compileDevice] at h
    split at h
    · rename_i id name hid hname
      obtain ⟨_, hvalue, h⟩ := bind_eq_ok_iff.mp h
      obtain ⟨operator, hoperator, h⟩ := bind_eq_ok_iff.mp h
      obtain ⟨device, hdevice, h⟩ := bind_eq_ok_iff.mp h
      obtain ⟨name', hname', h⟩ := bind_eq_ok_iff.mp h
      obtain ⟨literal, hliteral, htext⟩ := bind_eq_ok_iff.mp h
      obtain ⟨c, hc, rfl⟩ := operatorText_eq_ok_iff.mp hoperator
      obtain ⟨n, hn, rfl⟩ := numberText_eq_ok_iff.mp hdevice
      obtain ⟨hident, rfl⟩ := identifierText_eq_ok_iff.mp hname'
      exact ⟨id, _, c, n, literal, toOption_eq_some_iff.mp hid, hname,
        requireValue_eq_ok_iff.mp hvalue, hc, hn, hident, literalText_eq_ok_iff.mp hliteral,
        pure_eq_ok_iff.mp htext⟩
    · exact nomatch h
  · rintro ⟨id, name, c, n, literal, rfl, hname, hvalue, hc, hn, hident, hliteral, rfl⟩
    rw [compileDevice, Slot.toOption, hname]
    refine bind_eq_ok_iff.mpr ⟨(), requireValue_eq_ok_iff.mpr hvalue, ?_⟩
    refine bind_eq_ok_iff.mpr ⟨_, operatorText_eq_ok_iff.mpr ⟨c, hc, rfl⟩, ?_⟩
    refine bind_eq_ok_iff.mpr ⟨_, numberText_eq_ok_iff.mpr ⟨n, hn, rfl⟩, ?_⟩
    refine bind_eq_ok_iff.mpr ⟨_, identifierText_eq_ok_iff.mpr ⟨hident, rfl⟩, ?_⟩
    exact bind_eq_ok_iff.mpr ⟨_, literalText_eq_ok_iff.mpr hliteral, rfl⟩

/-- How a variable is compared with the text of a literal: a truth value is compared as a text, a
    number as a number, and anything else as it is. -/
def variableText (value : Slot Literal) (getter operator literal : String) : String :=
  match value with
  | .given (.bool _) => "(" ++ getter ++ " " ++ operator ++ " \"" ++ literal ++ "\")"
  | .given (.number _) => "tonumber(" ++ getter ++ ") " ++ operator ++ " " ++ literal
  | _ => getter ++ " " ++ operator ++ " " ++ literal

/-- The last steps of a variable: the literal is written, then put into its comparison. -/
theorem variableSteps_eq_ok_iff {getter operator : String} :
    ((match leaf.value with
      | .given (.bool b) =>
        return "(" ++ getter ++ " " ++ operator ++ " \"" ++ Lua.boolText b ++ "\")"
      | .given (.number n) => do
        let literal ← literalText n.toValue
        return "tonumber(" ++ getter ++ ") " ++ operator ++ " " ++ literal
      | _ => do
        let literal ← literalText leaf.valueOf
        return getter ++ " " ++ operator ++ " " ++ literal : Except Error String) = .ok text) ↔
      ∃ literal, Lua.literal leaf.valueOf = .ok literal ∧
        text = variableText leaf.value getter operator literal := by
  rw [valueOf]
  rcases leaf.value with _ | _ | (b | n | s)
  · exact literalStep_eq_ok_iff
  · exact literalStep_eq_ok_iff
  · -- the text of a truth value is its literal, so nothing is left to check
    simp [Slot.toValue, Literal.toValue, Lua.literal, variableText, pure_eq_ok_iff]
  · exact literalStep_eq_ok_iff
  · exact literalStep_eq_ok_iff

/-- **A variable** compiles exactly when it has a name and a value, and each of them and the
    operator is fit to be written. -/
theorem compileVariable_eq_ok_iff {slot : Slot String} :
    leaf.compileVariable slot = .ok text ↔
      ∃ name c literal, nonEmpty? slot = some name ∧ leaf.value.isSupplied = true ∧
        leaf.comparison? = some c ∧ Lua.isIdentifier name.toList = true ∧
        Lua.literal leaf.valueOf = .ok literal ∧
        text = variableText leaf.value ("fibaro.getGlobalVariable(" ++ Lua.quote name ++ ")") c.lua
          literal := by
  constructor
  · intro h
    rw [compileVariable] at h
    split at h
    · rename_i name hname
      obtain ⟨_, hvalue, h⟩ := bind_eq_ok_iff.mp h
      obtain ⟨operator, hoperator, h⟩ := bind_eq_ok_iff.mp h
      obtain ⟨name', hname', hsteps⟩ := bind_eq_ok_iff.mp h
      obtain ⟨c, hc, rfl⟩ := operatorText_eq_ok_iff.mp hoperator
      obtain ⟨hident, rfl⟩ := identifierText_eq_ok_iff.mp hname'
      obtain ⟨literal, hliteral, ht⟩ := variableSteps_eq_ok_iff.mp hsteps
      exact ⟨_, c, literal, hname, requireValue_eq_ok_iff.mp hvalue, hc, hident, hliteral, ht⟩
    · exact nomatch h
  · rintro ⟨name, c, literal, hname, hvalue, hc, hident, hliteral, ht⟩
    rw [compileVariable, hname]
    refine bind_eq_ok_iff.mpr ⟨(), requireValue_eq_ok_iff.mpr hvalue, ?_⟩
    refine bind_eq_ok_iff.mpr ⟨_, operatorText_eq_ok_iff.mpr ⟨c, hc, rfl⟩, ?_⟩
    refine bind_eq_ok_iff.mpr ⟨_, identifierText_eq_ok_iff.mpr ⟨hident, rfl⟩, ?_⟩
    exact variableSteps_eq_ok_iff.mpr ⟨literal, hliteral, ht⟩

/-- **A time** compiles exactly when its operator is one and its value is a finite number. -/
theorem compileTime_eq_ok_iff :
    leaf.compileTime = .ok text ↔
      ∃ c n, leaf.value.isSupplied = true ∧ leaf.comparison? = some c ∧
        Lua.finite "time value" leaf.valueOf = .ok n ∧
        text = "os.time() " ++ c.lua ++ " " ++ n.text := by
  constructor
  · intro h
    rw [compileTime] at h
    obtain ⟨_, hvalue, h⟩ := bind_eq_ok_iff.mp h
    obtain ⟨operator, hoperator, h⟩ := bind_eq_ok_iff.mp h
    obtain ⟨stamp, hstamp, h⟩ := bind_eq_ok_iff.mp h
    obtain ⟨c, hc, rfl⟩ := operatorText_eq_ok_iff.mp hoperator
    obtain ⟨n, hn, rfl⟩ := numberText_eq_ok_iff.mp hstamp
    exact ⟨c, n, requireValue_eq_ok_iff.mp hvalue, hc, hn, pure_eq_ok_iff.mp h⟩
  · rintro ⟨c, n, hvalue, hc, hn, rfl⟩
    rw [compileTime]
    refine bind_eq_ok_iff.mpr ⟨(), requireValue_eq_ok_iff.mpr hvalue, ?_⟩
    refine bind_eq_ok_iff.mpr ⟨_, operatorText_eq_ok_iff.mpr ⟨c, hc, rfl⟩, ?_⟩
    exact bind_eq_ok_iff.mpr ⟨_, numberText_eq_ok_iff.mpr ⟨n, hn, rfl⟩, rfl⟩

/-- The offset of the sun is zero if none is given, and else the number given, which is finite. -/
theorem sunOffset_eq_ok_iff {offset : Slot Number} {n : Number} :
    sunOffset offset = .ok n ↔
      (offset.toOption = none ∧ n = .int 0) ∨
        ∃ given, offset = .given given ∧ Lua.finite "timeOffset" given.toValue = .ok n := by
  rw [sunOffset]
  rcases offset with _ | _ | given
  · simp [Slot.toOption, eq_comm]
  · simp [Slot.toOption, eq_comm]
  · simp only [Slot.toOption]
    cases h : Lua.finite "timeOffset" given.toValue <;> simp [h]

/-- How the time of day is compared with that of the sun. -/
def sunText (property operator : String) (offset : Number) : String :=
  "(os.date(\"*t\").hour * 60 + os.date(\"*t\").min) " ++ operator ++
    " (function() local h,m = string.match(fibaro.getValue(1, \"" ++ property ++
    "\"), \"(%d+):(%d+)\") return tonumber(h)*60 + tonumber(m) " ++
    (if offset.isNegative then "-" else "+") ++ " " ++ offset.abs.text ++ " end)()"

/-- **A position of the sun** compiles exactly when it is one of the two, the operator is one and
    the offset, if there is any, is a finite number. -/
theorem compileSun_eq_ok_iff {slot : Slot String} {offset : Slot Number} :
    leaf.compileSun slot offset = .ok text ↔
      ∃ position property c n, nonEmpty? slot = some position ∧
        sunProperty? position = some property ∧ leaf.comparison? = some c ∧
        sunOffset offset = .ok n ∧ text = sunText property c.lua n := by
  constructor
  · intro h
    rw [compileSun] at h
    split at h
    · exact nomatch h
    · rename_i position hposition
      split at h
      · exact nomatch h
      · rename_i property hproperty
        obtain ⟨operator, hoperator, h⟩ := bind_eq_ok_iff.mp h
        obtain ⟨n, hn, h⟩ := bind_eq_ok_iff.mp h
        obtain ⟨c, hc, rfl⟩ := operatorText_eq_ok_iff.mp hoperator
        exact ⟨position, property, c, n, hposition, hproperty, hc, hn, pure_eq_ok_iff.mp h⟩
  · rintro ⟨position, property, c, n, hposition, hproperty, hc, hn, rfl⟩
    simp only [compileSun, hposition, hproperty]
    refine bind_eq_ok_iff.mpr ⟨_, operatorText_eq_ok_iff.mpr ⟨c, hc, rfl⟩, ?_⟩
    exact bind_eq_ok_iff.mpr ⟨n, hn, rfl⟩

/-- **A custom fragment** compiles to itself, exactly when it is not empty and its operator is
    one. -/
theorem compileCustom_eq_ok_iff {slot : Slot String} :
    leaf.compileCustom slot = .ok text ↔
      nonEmpty? slot = some text ∧ ∃ c, leaf.comparison? = some c := by
  rw [compileCustom]
  cases hslot : nonEmpty? slot with
  | none => simp
  | some code =>
    constructor
    · intro h
      obtain ⟨operator, hoperator, h⟩ := bind_eq_ok_iff.mp h
      obtain ⟨c, hc, _⟩ := operatorText_eq_ok_iff.mp hoperator
      exact ⟨congrArg some (pure_eq_ok_iff.mp h).symm, c, hc⟩
    · rintro ⟨hcode, c, hc⟩
      injection hcode with hcode
      subst hcode
      exact bind_eq_ok_iff.mpr ⟨_, operatorText_eq_ok_iff.mpr ⟨c, hc, rfl⟩, rfl⟩

end Leaf

/-! ## The leaves of a tree -/

mutual

/-- The leaves of a node. -/
def Node.leaves : Node → List Leaf
  | .leaf l => [l]
  | .group _ children => leavesOf children

/-- The leaves of nodes. -/
def leavesOf : List Node → List Leaf
  | [] => []
  | node :: rest => node.leaves ++ leavesOf rest

end

/-- **The leaves** of a condition tree. -/
def Group.leaves (g : Group) : List Leaf :=
  leavesOf g.children

end Condition
end HomeScenes
