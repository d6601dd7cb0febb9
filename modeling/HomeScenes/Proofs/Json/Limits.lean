import HomeScenes.Json.Reader

/-!
# What a JSON text denotes

  The reader refuses some texts that may well be JSON: it gives up at an integer with too many
  digits and at lists and objects that are nested too deep.  What a text *denotes* does not depend
  on these limits: it is the value that is read within limits that are wide enough (`Denotes`).

  The crux is `lifted_value`: wider limits make no difference to what is read, or found malformed,
  within narrower ones.  So a text denotes one value at most (`Denotes.unique`), the reader gives
  what it denotes (`denotes_of_read`), and a malformed text denotes nothing
  (`not_denotes_of_malformed`).
-/

namespace HomeScenes.Json

/-! ## Wider limits -/

/-- **Limits are lifted** from one outcome to the other: the outcome is the same, unless it was a
    refusal. -/
inductive Lifted {α : Type} : Except Error α → Except Error α → Prop where
  | same (x : Except Error α) : Lifted x x
  | refused {why : Error} {y : Except Error α} (h : why ≠ .malformed) : Lifted (.error why) y

section Lifted

variable {α β : Type} {x y : Except Error α}

/-- What is made of a part does not depend on limits. -/
theorem Lifted.map (h : Lifted x y) (f : α → β) : Lifted (x.map f) (y.map f) := by
  cases h with
  | same => exact .same _
  | refused hwhy => exact .refused hwhy

/-- One part after another. -/
theorem Lifted.bind (h : Lifted x y) {f g : α → Except Error β} (hfg : ∀ a, Lifted (f a) (g a)) :
    Lifted (x.bind f) (y.bind g) := by
  cases h with
  | refused hwhy => exact .refused hwhy
  | same =>
    cases x with
    | error why => exact .same _
    | ok a => exact hfg a

end Lifted

/-- Of a number only an integer is limited. -/
theorem lifted_magnitude {maxDigits more : Nat} (h : maxDigits ≤ more) (negative : Bool)
    (chars : List Char) :
    Lifted (magnitude maxDigits negative chars) (magnitude more negative chars) := by
  rw [magnitude, magnitude]
  refine (Lifted.same _).bind fun (digits, rest) => ?_
  by_cases hwhole : ((fraction rest).1.isEmpty && (exponent (fraction rest).2).1.isNone) = true
  · simp only [hwhole, if_true]
    by_cases hlong : maxDigits < digits.length
    · rw [if_pos hlong]
      exact .refused nofun
    · have hshort : ¬ more < digits.length := by omega
      rw [if_neg hlong, if_neg hshort]
      exact .same _
  · simp only [hwhole]
    exact .same _

mutual

/-- **A value** within wider limits.  By induction on the fuel, along the reader: the room is
    looked at where a list or an object is opened, and the digits where an integer ends. -/
theorem lifted_value {maxDigits more : Nat} (h : maxDigits ≤ more) :
    ∀ (fuel : Nat) {room room' : Nat} (_ : room ≤ room') (chars : List Char),
      Lifted (value maxDigits fuel room chars) (value more fuel room' chars)
  | 0, room, room', _, chars => by
    rw [value, value]
    exact .same _
  | fuel + 1, room, room', hroom, chars => by
    unfold value
    split
    · exact .same _
    · cases room with
      | zero => exact .refused nofun
      | succ room =>
        obtain ⟨room', rfl⟩ : ∃ k, room' = k + 1 := ⟨room' - 1, by omega⟩
        simp only
        split
        · exact .same _
        · exact (lifted_fields h fuel (by omega) _).map _
    · cases room with
      | zero => exact .refused nofun
      | succ room =>
        obtain ⟨room', rfl⟩ : ∃ k, room' = k + 1 := ⟨room' - 1, by omega⟩
        simp only
        split
        · exact .same _
        · exact (lifted_items h fuel (by omega) _).map _
    all_goals first | exact .same _ | exact lifted_magnitude h _ _

theorem lifted_items {maxDigits more : Nat} (h : maxDigits ≤ more) :
    ∀ (fuel : Nat) {room room' : Nat} (_ : room ≤ room') (chars : List Char),
      Lifted (items maxDigits fuel room chars) (items more fuel room' chars)
  | 0, room, room', _, chars => by
    rw [items, items]
    exact .same _
  | fuel + 1, room, room', hroom, chars => by
    rw [items, items]
    refine (lifted_value h fuel hroom chars).bind fun (v, rest) => ?_
    simp only
    split
    · exact .same _
    · exact (lifted_items h fuel hroom _).map _
    · exact .same _

theorem lifted_fields {maxDigits more : Nat} (h : maxDigits ≤ more) :
    ∀ (fuel : Nat) {room room' : Nat} (_ : room ≤ room') (chars : List Char),
      Lifted (fields maxDigits fuel room chars) (fields more fuel room' chars)
  | 0, room, room', _, chars => by
    rw [fields, fields]
    exact .same _
  | fuel + 1, room, room', hroom, chars => by
    unfold fields
    split
    · refine (Lifted.same _).bind fun (key, rest) => ?_
      simp only
      split
      · refine (lifted_value h fuel hroom _).bind fun (v, rest) => ?_
        simp only
        split
        · exact .same _
        · exact (lifted_fields h fuel hroom _).map _
        · exact .same _
      · exact .same _
    · exact .same _

end

/-- **A whole text** within wider limits. -/
theorem lifted_valueWithin {maxDigits more room wider : Nat} (h : maxDigits ≤ more)
    (hroom : room ≤ wider) (chars : List Char) :
    Lifted (valueWithin maxDigits room chars) (valueWithin more wider chars) := by
  rw [valueWithin, valueWithin]
  exact (lifted_value h _ hroom _).bind fun _ => .same _

/-! ## What a text denotes -/

/-- **A text denotes a value**: the value is read from it within some limits. -/
def Denotes (s : String) (v : Value) : Prop :=
  ∃ maxDigits room, valueWithin maxDigits room s.toList = .ok v

/-- **What is not refused** within some limits is the same within wider ones. -/
theorem valueWithin_eq_of_le {maxDigits more room wider : Nat} {chars : List Char}
    (hread : ∀ why, valueWithin maxDigits room chars = .error why → why = .malformed)
    (h : maxDigits ≤ more) (hroom : room ≤ wider) :
    valueWithin more wider chars = valueWithin maxDigits room chars := by
  have hlifted := lifted_valueWithin h hroom chars
  generalize valueWithin more wider chars = outcome at hlifted ⊢
  generalize valueWithin maxDigits room chars = narrow at hlifted hread ⊢
  cases hlifted with
  | same => rfl
  | refused hwhy => exact absurd (hread _ rfl) hwhy

/-- What is read within some limits is read within wider ones. -/
theorem valueWithin_of_le {maxDigits more room wider : Nat} {chars : List Char} {v : Value}
    (hread : valueWithin maxDigits room chars = .ok v) (h : maxDigits ≤ more)
    (hroom : room ≤ wider) : valueWithin more wider chars = .ok v := by
  refine (valueWithin_eq_of_le ?_ h hroom).trans hread
  intro why hwhy
  rw [hread] at hwhy
  cases hwhy

/-- What is malformed within some limits is malformed within wider ones. -/
theorem malformed_of_le {maxDigits more room wider : Nat} {chars : List Char}
    (hread : valueWithin maxDigits room chars = .error .malformed) (h : maxDigits ≤ more)
    (hroom : room ≤ wider) : valueWithin more wider chars = .error .malformed := by
  refine (valueWithin_eq_of_le ?_ h hroom).trans hread
  intro why hwhy
  rw [hread] at hwhy
  exact (Except.error.inj hwhy).symm

/-- **A text denotes one value** at most. -/
theorem Denotes.unique {s : String} {v w : Value} (hv : Denotes s v) (hw : Denotes s w) :
    v = w := by
  obtain ⟨digits, room, hv⟩ := hv
  obtain ⟨digits', room', hw⟩ := hw
  have hv' := valueWithin_of_le hv (Nat.le_max_left digits digits') (Nat.le_max_left room room')
  have hw' := valueWithin_of_le hw (Nat.le_max_right digits digits') (Nat.le_max_right room room')
  exact Except.ok.inj (hv'.symm.trans hw')

section Read

variable [Stack] {s : String} {v : Value}

/-- What is read is what the text denotes. -/
theorem denotes_of_read (h : Json.read s = .ok v) : Denotes s v :=
  ⟨_, _, h⟩

/-- A malformed text denotes nothing. -/
theorem not_denotes_of_malformed (h : Json.read s = .error .malformed) : ¬ Denotes s v := by
  rintro ⟨digits, room, hv⟩
  have hmalformed := malformed_of_le h (Nat.le_max_left Whole.maxDigits digits)
    (Nat.le_max_left Stack.reading room)
  have hread := valueWithin_of_le hv (Nat.le_max_right Whole.maxDigits digits)
    (Nat.le_max_right Stack.reading room)
  cases hread.symm.trans hmalformed

end Read

end HomeScenes.Json
