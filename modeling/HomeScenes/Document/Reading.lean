import HomeScenes.Document.Issue
import HomeScenes.Number
import HomeScenes.Number.Whole

/-!
# Reading a document

  A reading of a value gives a result or all issues.  Readings of several parts are combined so
  that no part hides the issues of another: the issues of the parts are listed one after another.

  A field has a name on the wire and a plain name.  Either is taken, the wire name first, and an
  issue names the field as it was given.
-/

namespace HomeScenes

/-- A result, or everything that is wrong. -/
inductive Reading (α : Type) where
  | good (result : α)
  | bad (issues : List Issue)

namespace Reading

variable {α β : Type}

/-- The reading with its result changed. -/
def map (f : α → β) : Reading α → Reading β
  | .good a => .good (f a)
  | .bad issues => .bad issues

/-- **Both** readings: their results together, or the issues of the first, then of the second. -/
def both (first : Reading (α → β)) (second : Reading α) : Reading β :=
  match first, second with
  | .good f, .good a => .good (f a)
  | .good _, .bad issues => .bad issues
  | .bad issues, .good _ => .bad issues
  | .bad issues, .bad more => .bad (issues ++ more)

instance : Applicative Reading where
  pure := .good
  map := map
  seq first second := both first (second ())

/-- A single fault right here. -/
def fault (f : Fault) : Reading α :=
  .bad [⟨[], f⟩]

/-- The reading of a part, its issues placed under the step that leads to it. -/
def under (step : Step) : Reading α → Reading α
  | .good a => .good a
  | .bad issues => .bad (issues.map fun issue => { issue with path := step :: issue.path })

end Reading

/-! ## Fields that may be left out -/

/-- What a document says about a field that may be left out or null. -/
inductive Slot (α : Type) where
  | absent
  | null
  | given (a : α)
deriving DecidableEq

namespace Slot

variable {α : Type}

/-- Whether the document has the field, be it null. -/
def isSupplied : Slot α → Bool
  | .absent => false
  | _ => true

/-- What is given. -/
def toOption : Slot α → Option α
  | .given a => some a
  | _ => none

/-- The field as a value; a field left out counts as null. -/
def toValue (f : α → Value) : Slot α → Value
  | .given a => f a
  | _ => .null

end Slot

/-! ## Readers of single values -/

namespace Read

variable {α : Type}

/-- A text. -/
def text : Value → Reading String
  | .text s => .good s
  | _ => .fault .notText

/-- An integer and nothing that resembles one. -/
def strictInt : Value → Reading Int
  | .int n => .good n
  | _ => .fault .notInteger

/-- The integer that a double-precision number stands for: it has no fraction and lies within 64
    bits, the least such integer not included. -/
def wholeFloat (x : Binary64) : Except Fault Int :=
  if x.isFinite then
    match x.toInt? with
    | some n => if n.natAbs < Nat.pow 2 63 then .ok n else .error .oversizedInteger
    | none => .error .fractional
  else .error .notFinite

/-- An integer, or what stands for one: a truth value, a number without a fraction, or text. -/
def int : Value → Reading Int
  | .int n => .good n
  | .bool b => .good (if b then 1 else 0)
  | .float x =>
    match wholeFloat x with
    | .ok n => .good n
    | .error f => .fault f
  | .text s =>
    match Whole.ofField s with
    | .ok n => .good n
    | .error .unreadable => .fault .unreadableInteger
    | .error (.tooLong _) => .fault .oversizedInteger
  | _ => .fault .notInteger

/-- The truth value that a word stands for, in either case. -/
def boolWord? (s : String) : Option Bool :=
  let word := String.ofList (s.toList.map Char.toLower)
  if ["0", "off", "f", "false", "n", "no"].contains word then some false
  else if ["1", "on", "t", "true", "y", "yes"].contains word then some true
  else none

/-- The truth value of an integer: zero and one are the only ones, and an integer beyond 64 bits is
    not looked at. -/
def boolOfInt (n : Int) : Reading Bool :=
  if n = 0 then .good false
  else if n = 1 then .good true
  else if -Int.pow 2 63 ≤ n ∧ n < Int.pow 2 63 then .fault .unreadableBoolean
  else .fault .notBoolean

/-- A truth value, or what stands for one: an integer, a number that stands for an integer, or a
    word. -/
def bool : Value → Reading Bool
  | .bool b => .good b
  | .int n => boolOfInt n
  | .float x =>
    match wholeFloat x with
    | .ok n => boolOfInt n
    | .error _ => .fault .notBoolean
  | .text s =>
    match boolWord? s with
    | some b => .good b
    | none => .fault .unreadableBoolean
  | _ => .fault .notBoolean

/-- An integer or a double-precision number, kept as it is. -/
def number : Value → Reading Number
  | .int n => .good (.int n)
  | .float x => .good (.float x)
  | _ => .bad [⟨[.key "int"], .notInteger⟩, ⟨[.key "float"], .notNumber⟩]

/-- The items of a list from position `i` on. -/
def items (item : Value → Reading α) (i : Nat) : List Value → Reading (List α)
  | [] => .good []
  | v :: rest => List.cons <$> (item v).under (.index i) <*> items item (i + 1) rest

/-- A list. -/
def list (item : Value → Reading α) : Value → Reading (List α)
  | .list vs => items item 0 vs
  | _ => .fault .notList

/-- Null, or what the reader takes. -/
def nullable (reader : Value → Reading α) : Value → Reading (Option α)
  | .null => .good none
  | v => some <$> reader v

/-- **A record**: the fields of an object; the title names the record in messages. -/
def record (title : String) (body : List (String × Value) → Reading α) : Value → Reading α
  | .object fields => body fields
  | _ => .fault (.notRecord title)

end Read

/-! ## Fields -/

/-- The two names of a field. -/
structure Field where
  wire : String
  plain : String

namespace Field

variable {α : Type}

/-- A field whose two names are the same. -/
def named (name : String) : Field :=
  ⟨name, name⟩

/-- The value of a field, with the name that it was given under. -/
def find? (field : Field) (fields : List (String × Value)) : Option (String × Value) :=
  match Keyed.get? field.wire fields with
  | some v => some (field.wire, v)
  | none => (Keyed.get? field.plain fields).map fun v => (field.plain, v)

/-- Whether the document has the field. -/
def isSupplied (field : Field) (fields : List (String × Value)) : Bool :=
  (field.find? fields).isSome

/-- The plain names of those fields that the document has. -/
def supplied (all : List Field) (fields : List (String × Value)) : List String :=
  (all.filter fun field => field.isSupplied fields).map Field.plain

/-- A field that has to be there. -/
def required (field : Field) (reader : Value → Reading α) (fields : List (String × Value)) :
    Reading α :=
  match field.find? fields with
  | some (name, v) => (reader v).under (.key name)
  | none => (Reading.fault .missing).under (.key field.wire)

/-- A field with a default. -/
def defaulted (field : Field) (default : α) (reader : Value → Reading α)
    (fields : List (String × Value)) : Reading α :=
  match field.find? fields with
  | some (name, v) => (reader v).under (.key name)
  | none => .good default

/-- A field that may be null or left out. -/
def optional (field : Field) (reader : Value → Reading α) (fields : List (String × Value)) :
    Reading (Option α) :=
  field.defaulted none (Read.nullable reader) fields

/-- A field that may be null or left out, where the difference counts. -/
def slot (field : Field) (reader : Value → Reading α) (fields : List (String × Value)) :
    Reading (Slot α) :=
  match field.find? fields with
  | none => .good .absent
  | some (_, .null) => .good .null
  | some (name, v) => (Slot.given <$> reader v).under (.key name)

end Field
end HomeScenes
