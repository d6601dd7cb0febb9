import HomeScenes.Json.Reader
import HomeScenes.Json.Writer

/-!
# Whether a value reads back

  What is saved is the indented form of a value, and what is loaded is read from that text.  For a
  given value, whether it reads back is a matter of computing, and `readsBack_iff` says so:
  `readsBack` writes the characters one by one (`toList_indented`), reads them and compares.
-/

namespace HomeScenes

/-! ## Comparing values -/

namespace Value

mutual

/-- Whether two values are the same, numbers of different kinds never being so. -/
def same : Value → Value → Bool
  | .null, .null => true
  | .bool a, .bool b => decide (a = b)
  | .int a, .int b => decide (a = b)
  | .float a, .float b => decide (a = b)
  | .text a, .text b => decide (a = b)
  | .list as, .list bs => sameItems as bs
  | .object as, .object bs => sameFields as bs
  | _, _ => false

/-- Whether items are the same, one by one. -/
def sameItems : List Value → List Value → Bool
  | [], [] => true
  | a :: as, b :: bs => a.same b && sameItems as bs
  | _, _ => false

/-- Whether fields are the same, one by one. -/
def sameFields : List (String × Value) → List (String × Value) → Bool
  | [], [] => true
  | (key, a) :: as, (key', b) :: bs => decide (key = key') && a.same b && sameFields as bs
  | _, _ => false

end

mutual

/-- The comparison decides equality, by recursion over the first value. -/
theorem same_iff : ∀ a b : Value, a.same b = true ↔ a = b
  | .null, b => by cases b <;> simp [same]
  | .bool a, b => by cases b <;> simp [same]
  | .int a, b => by cases b <;> simp [same]
  | .float a, b => by cases b <;> simp [same]
  | .text a, b => by cases b <;> simp [same]
  | .list as, b => by cases b <;> simp [same, sameItems_iff as]
  | .object as, b => by cases b <;> simp [same, sameFields_iff as]

theorem sameItems_iff : ∀ as bs : List Value, sameItems as bs = true ↔ as = bs
  | [], bs => by cases bs <;> simp [sameItems]
  | a :: as, bs => by cases bs <;> simp [sameItems, same_iff a, sameItems_iff as]

theorem sameFields_iff : ∀ as bs : List (String × Value), sameFields as bs = true ↔ as = bs
  | [], bs => by cases bs <;> simp [sameFields]
  | (key, a) :: as, bs => by
    cases bs with
    | nil => simp [sameFields]
    | cons entry bs => simp [sameFields, same_iff a, sameFields_iff as, Prod.ext_iff]

end

end Value

namespace Json

/-! ## The indented form by characters -/

/-- The characters of a line break. -/
def breakChars (indent : Nat) : List Char :=
  '\n' :: List.replicate indent ' '

/-- The characters of parts between brackets. -/
def blockChars (first last : Char) (indent : Nat) (parts : List (List Char)) : List Char :=
  if parts.isEmpty then [first, last]
  else
    first :: breakChars (indent + 2) ++ (',' :: breakChars (indent + 2)).intercalate parts ++
      breakChars indent ++ [last]

/-- The characters of a text between its quotes. -/
def textChars (s : String) : List Char :=
  '"' :: s.toList.flatMap (writtenChar true) ++ ['"']

mutual

/-- **The characters of the indented form.** -/
def indentedChars (indent : Nat) : Value → List Char
  | .null => ['n', 'u', 'l', 'l']
  | .bool b => if b then ['t', 'r', 'u', 'e'] else ['f', 'a', 'l', 's', 'e']
  | .int n => n.repr.toList
  | .float x => (writtenFloat x).toList
  | .text s => textChars s
  | .list items => blockChars '[' ']' indent (itemsChars (indent + 2) items)
  | .object fields => blockChars '\x7b' '\x7d' indent (fieldsChars (indent + 2) fields)

/-- The characters of each item. -/
def itemsChars (indent : Nat) : List Value → List (List Char)
  | [] => []
  | v :: rest => indentedChars indent v :: itemsChars indent rest

/-- The characters of each field. -/
def fieldsChars (indent : Nat) : List (String × Value) → List (List Char)
  | [] => []
  | (key, v) :: rest =>
    (textChars key ++ [':', ' '] ++ indentedChars indent v) :: fieldsChars indent rest

end

/-- The characters of a line break and the blanks after it. -/
theorem toList_lineBreak (indent : Nat) : (lineBreak indent).toList = breakChars indent := by
  rw [lineBreak, String.toList_ofList, breakChars]

/-- The characters of a text in its quotes. -/
theorem toList_writtenText (s : String) : (writtenText true s).toList = textChars s := by
  rw [writtenText, String.toList_ofList, textChars]

/-- The characters of a block, from the characters of its parts. -/
theorem toList_block {first last : String} {a b : Char} (hfirst : first.toList = [a])
    (hlast : last.toList = [b]) (indent : Nat) (parts : List String) :
    (block first last indent parts).toList = blockChars a b indent (parts.map String.toList) := by
  have hcomma : ",".toList = [','] := by decide
  cases parts with
  | nil => simp [block, blockChars, hfirst, hlast]
  | cons part rest =>
    simp [block, blockChars, hfirst, hlast, hcomma, toList_lineBreak, String.toList_intercalate]

mutual

/-- **The indented form** has these characters. -/
theorem toList_indented : ∀ (v : Value) (indent : Nat),
    (indented indent v).toList = indentedChars indent v
  | .null, indent => by
    rw [indented, indentedChars]
    decide
  | .bool b, indent => by
    rw [indented, indentedChars]
    cases b <;> decide
  | .int n, indent => by rw [indented, indentedChars]
  | .float x, indent => by rw [indented, indentedChars]
  | .text s, indent => by rw [indented, indentedChars, toList_writtenText]
  | .list items, indent => by
    have hopen : "[".toList = ['['] := by decide
    have hclose : "]".toList = [']'] := by decide
    rw [indented, indentedChars, toList_block hopen hclose, toList_indentedItems items]
  | .object fields, indent => by
    have hopen : "\x7b".toList = ['\x7b'] := by decide
    have hclose : "\x7d".toList = ['\x7d'] := by decide
    rw [indented, indentedChars, toList_block hopen hclose, toList_indentedFields fields]

/-- Item by item. -/
theorem toList_indentedItems : ∀ (items : List Value) (indent : Nat),
    (indentedItems indent items).map String.toList = itemsChars indent items
  | [], _ => rfl
  | v :: rest, indent => by
    rw [indentedItems, itemsChars, List.map_cons, toList_indented v, toList_indentedItems rest]

/-- Field by field. -/
theorem toList_indentedFields : ∀ (fields : List (String × Value)) (indent : Nat),
    (indentedFields indent fields).map String.toList = fieldsChars indent fields
  | [], _ => rfl
  | (key, v) :: rest, indent => by
    have hcolon : ": ".toList = [':', ' '] := by decide
    rw [indentedFields, fieldsChars, List.map_cons, toList_indentedFields rest,
      String.toList_append, String.toList_append, toList_writtenText, toList_indented v, hcolon]

end

/-! ## Reading back -/

/-- Whether the indented form of a value is read as the value. -/
def readsBack [Stack] (v : Value) : Bool :=
  match ofChars (indentedChars 0 v) with
  | .ok got => got.same v
  | .error _ => false

/-- **A value reads back** exactly when computing says so. -/
theorem readsBack_iff [Stack] (v : Value) :
    readsBack v = true ↔ Json.read (indented 0 v) = .ok v := by
  rw [readsBack, Json.read, toList_indented]
  cases ofChars (indentedChars 0 v) with
  | error why => simp
  | ok got =>
    simp only [Value.same_iff]
    exact ⟨congrArg Except.ok, Except.ok.inj⟩

end Json

end HomeScenes
