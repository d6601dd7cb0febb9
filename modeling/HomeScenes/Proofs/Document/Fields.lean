import HomeScenes.Document.Reading

/-!
# What readings accept

  A reading of several parts is good exactly when the reading of each part is.  For a field that
  may be left out or null, more can be said: the slot that is read determines what the document
  says, and the other way round (`Field.slot_eq_good_iff`).  Everything proved about what a
  document has to look like, and about what is read from it, starts from these equivalences and
  never opens a reader again.
-/

namespace HomeScenes

/-! ## Readings of several parts -/

namespace Reading

variable {α β : Type}

/-- A changed result was there before the change. -/
theorem map_eq_good_iff {f : α → β} {r : Reading α} {b : β} :
    (f <$> r) = .good b ↔ ∃ a, r = .good a ∧ b = f a := by
  cases r with
  | good a =>
    constructor
    · intro h; injection h with h; exact ⟨a, rfl, h.symm⟩
    · rintro ⟨a', ha, rfl⟩; injection ha with ha; rw [ha]; rfl
  | bad issues =>
    constructor
    · intro h; cases h
    · rintro ⟨a', ha, _⟩; cases ha

/-- Both readings gave a result if their combination did. -/
theorem seq_eq_good_iff {first : Reading (α → β)} {second : Reading α} {b : β} :
    (first <*> second) = .good b ↔ ∃ f a, first = .good f ∧ second = .good a ∧ b = f a := by
  cases first with
  | good f =>
    cases second with
    | good a =>
      constructor
      · intro h; injection h with h; exact ⟨f, a, rfl, rfl, h.symm⟩
      · rintro ⟨f', a', hf, ha, rfl⟩
        injection hf with hf
        injection ha with ha
        rw [hf, ha]
        rfl
    | bad issues =>
      constructor
      · intro h; cases h
      · rintro ⟨_, _, _, ha, _⟩; cases ha
  | bad issues =>
    constructor
    · intro h; cases second <;> cases h
    · rintro ⟨_, _, hf, _⟩; cases hf

/-- Two parts, combined by a function of both. -/
theorem map_seq_eq_good_iff {γ : Type} {f : α → β → γ} {first : Reading α}
    {second : Reading β} {c : γ} :
    (f <$> first <*> second) = .good c ↔
      ∃ a b, first = .good a ∧ second = .good b ∧ c = f a b := by
  rw [seq_eq_good_iff]
  constructor
  · rintro ⟨g, b, hg, hb, rfl⟩
    obtain ⟨a, ha, rfl⟩ := map_eq_good_iff.mp hg
    exact ⟨a, b, ha, hb, rfl⟩
  · rintro ⟨a, b, ha, hb, rfl⟩
    exact ⟨f a, b, map_eq_good_iff.mpr ⟨a, ha, rfl⟩, hb, rfl⟩

@[simp] theorem map_good (f : α → β) (a : α) : f <$> Reading.good a = .good (f a) := rfl

@[simp] theorem seq_good (f : α → β) (a : α) :
  Reading.good f <*> Reading.good a = .good (f a) := rfl

@[simp] theorem under_good (step : Step) (a : α) : (Reading.good a).under step = .good a := rfl

/-- A place is only ever added to issues, never to a result. -/
theorem under_eq_good_iff {r : Reading α} {step : Step} {a : α} :
    r.under step = .good a ↔ r = .good a := by
  cases r with
  | good b => exact Iff.rfl
  | bad issues =>
    constructor
    · intro h; cases h
    · intro h; cases h

end Reading

/-! ## Where results come from -/

section From

variable {α : Type}

/-- What is read for a field that has to be there was read from some value. -/
theorem Field.exists_of_required {field : Field} {reader : Value → Reading α}
    {fields : List (String × Value)} {a : α} (h : field.required reader fields = .good a) :
    ∃ v, reader v = .good a := by
  rw [Field.required] at h
  split at h
  · rename_i v _
    exact ⟨v, Reading.under_eq_good_iff.mp h⟩
  · cases h

/-- The same for a field with a default, unless it is the default. -/
theorem Field.exists_of_defaulted {field : Field} {default : α} {reader : Value → Reading α}
    {fields : List (String × Value)} {a : α} (h : field.defaulted default reader fields = .good a) :
    a = default ∨ ∃ v, reader v = .good a := by
  rw [Field.defaulted] at h
  split at h
  · rename_i v _
    exact Or.inr ⟨v, Reading.under_eq_good_iff.mp h⟩
  · injection h with h
    exact Or.inl h.symm

/-- Every element of a list that was read was read from some value. -/
theorem Read.exists_of_mem_items {item : Value → Reading α} {i : Nat}
    {vs : List Value} {as : List α}
    (h : Read.items item i vs = .good as) : ∀ a ∈ as, ∃ v, item v = .good a := by
  induction vs generalizing i as with
  | nil =>
    injection h with h
    subst h
    exact List.forall_mem_nil _
  | cons v rest ih =>
    rw [Read.items, Reading.map_seq_eq_good_iff] at h
    obtain ⟨first, others, hfirst, hothers, rfl⟩ := h
    exact List.forall_mem_cons.mpr ⟨⟨v, Reading.under_eq_good_iff.mp hfirst⟩, ih hothers⟩

/-- Every item of a list that is read was read. -/
theorem Read.exists_of_mem_list {item : Value → Reading α} {v : Value} {as : List α}
    (h : Read.list item v = .good as) : ∀ a ∈ as, ∃ v, item v = .good a := by
  cases v with
  | list vs => exact Read.exists_of_mem_items h
  | null | bool | int | float | text | object => cases h

/-- Items that are each read are read as a list. -/
theorem Read.items_map {β : Type} {item : Value → Reading β} {write : α → Value} {back : α → β}
    {as : List α} (h : ∀ a ∈ as, item (write a) = .good (back a)) (i : Nat) :
    Read.items item i (as.map write) = .good (as.map back) := by
  induction as generalizing i with
  | nil => rfl
  | cons a rest ih =>
    obtain ⟨hfirst, hrest⟩ := List.forall_mem_cons.mp h
    rw [List.map_cons, Read.items, hfirst, ih hrest]
    rfl

end From

/-! ## What a document says about a field -/

/-- **What a document says about a field**: the value under the wire name, or else under the plain
    name. -/
def Field.given? (field : Field) (fields : List (String × Value)) : Option Value :=
  (Keyed.get? field.wire fields).or (Keyed.get? field.plain fields)

/-- A field with one name is looked up by that name. -/
theorem Field.given?_named (name : String) (fields : List (String × Value)) :
    (Field.named name).given? fields = Keyed.get? name fields :=
  Option.or_self

/-- The value found does not depend on the name that it was found under. -/
theorem Field.map_snd_find? (field : Field) (fields : List (String × Value)) :
    (field.find? fields).map Prod.snd = field.given? fields := by
  rw [find?, given?]
  cases Keyed.get? field.wire fields with
  | some v => rfl
  | none => cases Keyed.get? field.plain fields <;> rfl

/-- Whether a document has a field, by what it gives for it. -/
theorem Field.isSupplied_eq (field : Field) (fields : List (String × Value)) :
    field.isSupplied fields = (field.given? fields).isSome := by
  rw [isSupplied, ← map_snd_find?, Option.isSome_map]

/-- What a document says of a field that is held in a slot. -/
def Slot.asGiven {α : Type} (toValue : α → Value) : Slot α → Option Value
  | .absent => none
  | .null => some .null
  | .given a => some (toValue a)

/-- A slot is supplied exactly if it stands for a field of a document. -/
theorem Slot.isSupplied_eq_asGiven {α : Type} (toValue : α → Value) (slot : Slot α) :
    slot.isSupplied = (slot.asGiven toValue).isSome := by
  cases slot <;> rfl

/-- **An exact reader** takes the values of one kind, each as it is; null is none of them. -/
structure Read.Exact {α : Type} (reader : Value → Reading α) (toValue : α → Value) : Prop where
  good_iff : ∀ v a, reader v = .good a ↔ v = toValue a
  ne_null : ∀ a, toValue a ≠ .null

/-- Text is read from text alone, and is kept. -/
theorem Read.exact_text : Read.Exact Read.text Value.text where
  good_iff v s := by cases v <;> simp [Read.text, Reading.fault]
  ne_null s := by intro h; cases h

/-- An integer is read from an integer alone, and is kept. -/
theorem Read.exact_strictInt : Read.Exact Read.strictInt Value.int where
  good_iff v n := by cases v <;> simp [Read.strictInt, Reading.fault]
  ne_null n := by intro h; cases h

/-- A number of either kind is kept as it is. -/
theorem Read.exact_number : Read.Exact Read.number Number.toValue where
  good_iff v n := by
    cases v <;> cases n <;> simp [Read.number, Number.toValue]
  ne_null n := by
    intro h
    cases n <;> cases h

/-- A field that is there and not null is read, with its name in every issue. -/
theorem Field.slot_of_find? {α : Type} {reader : Value → Reading α} {field : Field}
    {fields : List (String × Value)} {name : String} {v : Value}
    (hfind : field.find? fields = some (name, v)) (hv : v ≠ .null) :
    field.slot reader fields = (Slot.given <$> reader v).under (.key name) := by
  rw [Field.slot, hfind]
  cases v with
  | null => exact absurd rfl hv
  | bool | int | float | text | list | object => rfl

/-- **A slot is read** exactly when it holds what the document says. -/
theorem Field.slot_eq_good_iff {α : Type} {reader : Value → Reading α} {toValue : α → Value}
    (h : Read.Exact reader toValue) (field : Field) (fields : List (String × Value))
    (slot : Slot α) :
    field.slot reader fields = .good slot ↔ slot.asGiven toValue = field.given? fields := by
  rw [← field.map_snd_find? fields]
  cases hfind : field.find? fields with
  | none => rw [Field.slot, hfind]; cases slot <;> simp [Slot.asGiven]
  | some found =>
    obtain ⟨name, v⟩ := found
    by_cases hv : v = .null
    · subst hv
      rw [Field.slot, hfind]
      cases slot with
      | absent => simp [Slot.asGiven]
      | null => simp [Slot.asGiven]
      | given a => simp [Slot.asGiven, h.ne_null a]
    · rw [Field.slot_of_find? hfind hv, Reading.under_eq_good_iff, Reading.map_eq_good_iff]
      cases slot with
      | absent => simp [Slot.asGiven]
      | null => simp [Slot.asGiven, Ne.symm hv]
      | given a => simp [Slot.asGiven, h.good_iff, eq_comm]

/-! ## Values that fit a field -/

/-- **A field fits**: it is left out, null, or holds a value of its kind. -/
def Field.fits (field : Field) (isKind : Value → Bool) (fields : List (String × Value)) : Bool :=
  match field.given? fields with
  | none => true
  | some .null => true
  | some v => isKind v

/-- There is a slot for what a document says of a field exactly when the field fits. -/
theorem Field.exists_slot_iff {α : Type} {toValue : α → Value} {isKind : Value → Bool}
    (h : ∀ v, isKind v = true ↔ ∃ a, v = toValue a) (field : Field)
    (fields : List (String × Value)) :
    (∃ slot : Slot α, slot.asGiven toValue = field.given? fields) ↔
      field.fits isKind fields = true := by
  rw [Field.fits]
  split
  · rename_i hgiven
    rw [hgiven]
    exact ⟨fun _ => rfl, fun _ => ⟨.absent, rfl⟩⟩
  · rename_i hgiven
    rw [hgiven]
    exact ⟨fun _ => rfl, fun _ => ⟨.null, rfl⟩⟩
  · rename_i v hnull hgiven
    rw [hgiven, h]
    constructor
    · rintro ⟨slot, hslot⟩
      cases slot with
      | absent => cases hslot
      | null => exact absurd (Option.some.inj hslot).symm hnull
      | given a => exact ⟨a, (Option.some.inj hslot).symm⟩
    · rintro ⟨a, rfl⟩
      exact ⟨.given a, rfl⟩

end HomeScenes
