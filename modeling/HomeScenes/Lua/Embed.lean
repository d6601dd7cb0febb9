import HomeScenes.Number
import HomeScenes.Value.Display

/-!
# Embedding data in scene code

  Every identifier, number and text that comes from a document passes through one of these checks
  before it becomes part of Lua source text, and nothing else escapes or checks values.

  * a **text** goes between double quotes, with quotes, backslashes and control characters escaped;
  * a **number** has to be finite;
  * an **identifier** has letters, digits, `_`, `.`, `:` and `-`, and starts with a letter or `_`;
  * **display text** goes into a comment: 1 to 200 characters, no line break, no `--`, no backslash,
    no `[[` and no `]]`.
-/

namespace HomeScenes.Lua

/-! ## Refusals -/

/-- Why a value is not embedded.  A context says what the value was meant for. -/
inductive Refusal where
  | notText (got : Value)
  | notLiteral (got : Value)
  | notFinite (context : String) (got : Value)
  | notIdentifier (context : String) (got : Value)
  | notDisplay (context : String) (got : Value)

/-- What a message shows of a value that should have been a finite number. -/
def Refusal.shownNumber : Value → String
  | .bool b => (Value.bool b).quoted
  | .int n => (Value.int n).quoted
  | .float x => (Value.float x).quoted
  | v => v.kindName

/-- What the message of a refusal shows; null if it shows no value. -/
def Refusal.shown : Refusal → Value
  | .notFinite _ (.int n) => .int n
  | .notIdentifier _ got => got
  | .notDisplay _ got => got
  | _ => .null

/-- The wording of a refusal. -/
def Refusal.wording : Refusal → String
  | .notText got => "Cannot escape " ++ got.kindName ++ " as a Lua string"
  | .notLiteral got => "Cannot render " ++ got.kindName ++ " as a Lua literal"
  | .notFinite context got =>
    "Invalid " ++ context ++ ": expected a finite number, got " ++ Refusal.shownNumber got
  | .notIdentifier context got =>
    "Invalid " ++ context ++ ": \"" ++ got.display ++
      "\" contains characters not allowed in Lua identifiers"
  | .notDisplay context got =>
    "Invalid " ++ context ++ ": \"" ++ got.display ++ "\" must be 1-200 characters " ++
      "without line breaks or the sequences -- \\ [[ ]]"

/-- **The message** of a refusal, unless it cannot be made. -/
def Refusal.message [Stack] (refusal : Refusal) : Except Value.Unshown String :=
  match refusal.shown.unshown? with
  | some why => .error why
  | none => .ok refusal.wording

/-- An integer so large that no finite double-precision number is nearest to it. -/
structure TooLarge where
deriving DecidableEq

/-- The message about such an integer. -/
def TooLarge.message (_ : TooLarge) : String :=
  "int too large to convert to float"

/-- What stops an embedding: a refusal, or an integer too large to be checked. -/
inductive Failure where
  | refused (refusal : Refusal)
  | tooLarge (what : TooLarge)

/-! ## Texts -/

/-- A code below 1000 as a backslash and exactly three digits, so that no digit after it can extend
    the escape. -/
def decimalEscape (code : Nat) : List Char :=
  ['\\', Nat.digitChar (code / 100), Nat.digitChar (code / 10 % 10), Nat.digitChar (code % 10)]

/-- One character of a text between double quotes. -/
def escapeChar (c : Char) : List Char :=
  if c = '\\' then ['\\', '\\']
  else if c = '"' then ['\\', '"']
  else if c = '\n' then ['\\', 'n']
  else if c = '\r' then ['\\', 'r']
  else if c = '\t' then ['\\', 't']
  else if c.toNat < 0x20 ∨ c.toNat = 0x7f then decimalEscape c.toNat
  else [c]

/-- **Escaping** a text, without the quotes around it. -/
def escape (s : String) : String :=
  String.ofList (s.toList.flatMap escapeChar)

/-- A text between its quotes. -/
def quote (s : String) : String :=
  "\"" ++ escape s ++ "\""

/-- The escaped form of a value that has to be a text. -/
def escapeValue : Value → Except Failure String
  | .text s => .ok (escape s)
  | v => .error (.refused (.notText v))

/-! ## Numbers and literals -/

/-- **A finite number.**  Truth values are not numbers. -/
def finite (context : String) : Value → Except Failure Number
  | .int n => if n.natAbs < oversize then .ok (.int n) else .error (.tooLarge {})
  | .float x =>
    if x.isFinite then .ok (.float x) else .error (.refused (.notFinite context (.float x)))
  | v => .error (.refused (.notFinite context v))

/-- The words for the truth values. -/
def boolText (b : Bool) : String :=
  if b then "true" else "false"

/-- **A literal** of the scene language. -/
def literal : Value → Except Failure String
  | .null => .ok "nil"
  | .bool b => .ok (boolText b)
  | .int n => (finite "value" (.int n)).map Number.text
  | .float x => (finite "value" (.float x)).map Number.text
  | .text s => .ok (quote s)
  | v => .error (.refused (.notLiteral v))

/-! ## Identifiers -/

/-- A character that may start an identifier. -/
def isIdentifierStart (c : Char) : Bool :=
  c.isAlpha || c == '_'

/-- A character that may continue an identifier. -/
def isIdentifierPart (c : Char) : Bool :=
  c.isAlphanum || c == '_' || c == '.' || c == ':' || c == '-'

/-- Whether the characters form an identifier. -/
def isIdentifier : List Char → Bool
  | [] => false
  | c :: rest => isIdentifierStart c && rest.all isIdentifierPart

/-- **An identifier**, unchanged. -/
def identifier (context : String) : Value → Except Failure String
  | .text s =>
    if isIdentifier s.toList then .ok s else .error (.refused (.notIdentifier context (.text s)))
  | v => .error (.refused (.notIdentifier context v))

/-! ## Display text -/

/-- Whether a character occurs twice in a row. -/
def hasDouble (c : Char) : List Char → Bool
  | a :: b :: rest => (a == c && b == c) || hasDouble c (b :: rest)
  | _ => false

/-- Whether the characters may stand in a comment of one line. -/
def isDisplayText (chars : List Char) : Bool :=
  0 < chars.length && chars.length ≤ 200 &&
    !hasDouble '-' chars && !hasDouble '[' chars && !hasDouble ']' chars &&
    !chars.contains '\\' && !chars.contains '\r' && !chars.contains '\n'

/-- Whether a value is text that may stand in a comment. -/
def isDisplayName : Value → Bool
  | .text s => isDisplayText s.toList
  | _ => false

/-- **Display text**, unchanged. -/
def displayName (context : String) : Value → Except Failure String
  | .text s =>
    if isDisplayText s.toList then .ok s else .error (.refused (.notDisplay context (.text s)))
  | v => .error (.refused (.notDisplay context v))

end HomeScenes.Lua
