import HomeScenes.Number.Shortest
import HomeScenes.Text.Quoted
import HomeScenes.Value

/-!
# Writing JSON

  Two forms are written.  The *indented* form is what is kept in a file: one item or field to a
  line, two more blanks for each level, and ASCII only.  The *compact* form is what is sent: no
  blanks, and characters as they are.
-/

namespace HomeScenes.Json

/-- A code as four hexadecimal digits. -/
def codeUnit (code : Nat) : List Char :=
  '\\' :: 'u' :: Text.hexDigits 4 code

/-- A character by its code, in two halves when four digits do not hold it. -/
def codeUnits (code : Nat) : List Char :=
  if code < 0x10000 then codeUnit code
  else
    codeUnit (0xd800 + (code - 0x10000) / 0x400) ++ codeUnit (0xdc00 + (code - 0x10000) % 0x400)

/-- One character of a text.  With `ascii`, what is not printable ASCII is given by its code;
    otherwise only control characters are. -/
def writtenChar (ascii : Bool) (c : Char) : List Char :=
  if c = '"' then ['\\', '"']
  else if c = '\\' then ['\\', '\\']
  else if c = '\n' then ['\\', 'n']
  else if c = '\r' then ['\\', 'r']
  else if c = '\t' then ['\\', 't']
  else if c = '\x0c' then ['\\', 'f']
  else if c = '\x08' then ['\\', 'b']
  else if c.toNat < 0x20 || (ascii && 0x7f ≤ c.toNat) then codeUnits c.toNat
  else [c]

/-- A text between its quotes. -/
def writtenText (ascii : Bool) (s : String) : String :=
  String.ofList ('"' :: s.toList.flatMap (writtenChar ascii) ++ ['"'])

/-- A double-precision number, with words for those that are not finite. -/
def writtenFloat : Binary64 → String
  | .nan => "NaN"
  | .infinite false => "Infinity"
  | .infinite true => "-Infinity"
  | x => x.text

/-! ## The compact form -/

mutual

/-- **The compact form.** -/
def compact : Value → String
  | .null => "null"
  | .bool b => if b then "true" else "false"
  | .int n => n.repr
  | .float x => writtenFloat x
  | .text s => writtenText false s
  | .list items => "[" ++ ",".intercalate (compactItems items) ++ "]"
  | .object fields => "\x7b" ++ ",".intercalate (compactFields fields) ++ "\x7d"

/-- The compact form of each item. -/
def compactItems : List Value → List String
  | [] => []
  | v :: rest => compact v :: compactItems rest

/-- The compact form of each field. -/
def compactFields : List (String × Value) → List String
  | [] => []
  | (key, v) :: rest => (writtenText false key ++ ":" ++ compact v) :: compactFields rest

end

/-! ## The indented form -/

/-- The line break before a part at some indentation. -/
def lineBreak (indent : Nat) : String :=
  String.ofList ('\n' :: List.replicate indent ' ')

/-- Parts between brackets, each on a line of its own. -/
def block (first last : String) (indent : Nat) (parts : List String) : String :=
  if parts.isEmpty then first ++ last
  else
    first ++ lineBreak (indent + 2) ++ (("," ++ lineBreak (indent + 2)).intercalate parts) ++
      lineBreak indent ++ last

mutual

/-- **The indented form** of a value that starts on a line with this indentation. -/
def indented (indent : Nat) : Value → String
  | .null => "null"
  | .bool b => if b then "true" else "false"
  | .int n => n.repr
  | .float x => writtenFloat x
  | .text s => writtenText true s
  | .list items => block "[" "]" indent (indentedItems (indent + 2) items)
  | .object fields => block "\x7b" "\x7d" indent (indentedFields (indent + 2) fields)

/-- The indented form of each item. -/
def indentedItems (indent : Nat) : List Value → List String
  | [] => []
  | v :: rest => indented indent v :: indentedItems indent rest

/-- The indented form of each field. -/
def indentedFields (indent : Nat) : List (String × Value) → List String
  | [] => []
  | (key, v) :: rest =>
    (writtenText true key ++ ": " ++ indented indent v) :: indentedFields indent rest

end

end HomeScenes.Json
