import HomeScenes.Number.Shortest
import HomeScenes.Number.Whole
import HomeScenes.Text.Quoted
import HomeScenes.Value

/-!
# Values in messages

  A message shows a text as it is and every other value in its quoted form, in which the texts
  within lists and objects stand between quotes.

  Not every value can be shown.  An integer with too many digits is never written out, and lists and
  objects may be nested so deep that the stack does not suffice for their quoted form.  A message
  that would have to show such a value cannot be made at all.
-/

namespace HomeScenes.Value

mutual

/-- **The quoted form**, at any length and depth. -/
def quoted : Value → String
  | .null => "None"
  | .bool true => "True"
  | .bool false => "False"
  | .int n => n.repr
  | .float x => x.text
  | .text s => Text.quoted s
  | .list items => "[" ++ ", ".intercalate (quotedItems items) ++ "]"
  | .object fields => "\x7b" ++ ", ".intercalate (quotedFields fields) ++ "\x7d"

/-- The quoted form of each item. -/
def quotedItems : List Value → List String
  | [] => []
  | v :: rest => v.quoted :: quotedItems rest

/-- The quoted form of each field. -/
def quotedFields : List (String × Value) → List String
  | [] => []
  | (key, v) :: rest => (Text.quoted key ++ ": " ++ v.quoted) :: quotedFields rest

end

/-- **The displayed form.** -/
def display : Value → String
  | .text s => s
  | v => v.quoted

/-! ## What cannot be shown -/

/-- Why a value cannot be shown. -/
inductive Unshown where
  | tooLong
  | tooDeep
deriving DecidableEq

/-- The message that stands in place of one that shows such a value. -/
def Unshown.message : Unshown → String
  | .tooLong =>
    "Exceeds the limit (" ++ Whole.maxDigits.repr ++ " digits) for integer string conversion; " ++
      "use sys.set_int_max_str_digits() to increase the limit"
  | .tooDeep => "maximum recursion depth exceeded while getting the repr of an object"

/-- Whether an integer has more digits than are written out. -/
@[irreducible] def isLong (n : Int) : Bool :=
  Nat.pow 10 Whole.maxDigits ≤ n.natAbs

mutual

/-- What keeps a value from being quoted when there is room for so many levels below it; the values
    within it are looked at from left to right. -/
def unquoted? (room : Nat) : Value → Option Unshown
  | .int n => if isLong n then some .tooLong else none
  | .list items => unquotedItem? room items
  | .object fields => unquotedField? room fields
  | _ => none

/-- What keeps the items of a list from being quoted. -/
def unquotedItem? (room : Nat) : List Value → Option Unshown
  | [] => none
  | v :: rest =>
    match room with
    | 0 => some .tooDeep
    | room + 1 => (v.unquoted? room).or (unquotedItem? (room + 1) rest)

/-- What keeps the fields of an object from being quoted. -/
def unquotedField? (room : Nat) : List (String × Value) → Option Unshown
  | [] => none
  | (_, v) :: rest =>
    match room with
    | 0 => some .tooDeep
    | room + 1 => (v.unquoted? room).or (unquotedField? (room + 1) rest)

end

/-- **What keeps a value from being shown**, if anything does. -/
def unshown? [Stack] (v : Value) : Option Unshown :=
  v.unquoted? Stack.showing

end HomeScenes.Value
