import HomeScenes.Number.Whole
import HomeScenes.Text.Percent
import HomeScenes.Value

/-!
# Reading JSON

  The reader takes JSON with three extensions: the words `NaN`, `Infinity` and `-Infinity` are
  numbers.  A number is an integer unless it has a fraction or an exponent.  Of two fields with one
  key the last value counts, at the place of the first.  Nothing may follow the value but blanks.

  Two things are refused although they are well formed: an integer with too many digits, and more
  lists and objects open at once than the stack has room for.  The text is read from left to right,
  and the first thing that is wrong counts.

  Each function takes the characters that are left and gives back those that it did not use.
-/

namespace HomeScenes.Json

/-- What holds other values. -/
inductive Container where
  | list
  | object
deriving DecidableEq

/-- Why a text is not read. -/
inductive Error where
  | malformed
  | tooLong (digits : Nat)
  | tooDeep (container : Container)
deriving DecidableEq

/-- The message about lists or objects that are nested too deep. -/
def tooDeepMessage (container : Container) : String :=
  let name := match container with
    | .list => "array"
    | .object => "object"
  "maximum recursion depth exceeded while decoding a JSON " ++ name ++ " from a unicode string"

/-- What a part of the text says, and what is left after it. -/
abbrev Part (α : Type) := Option (α × List Char)

/-- A part of the text, or why it is not read. -/
abbrev Parsed (α : Type) := Except Error (α × List Char)

/-- A part that is malformed if it is missing. -/
def orMalformed {α : Type} : Part α → Parsed α
  | some part => .ok part
  | none => .error .malformed

/-- The blanks between tokens. -/
def isBlank (c : Char) : Bool :=
  c == ' ' || c == '\t' || c == '\n' || c == '\r'

/-- The text from its first character that is not a blank. -/
def skipBlanks (chars : List Char) : List Char :=
  chars.dropWhile isBlank

/-! ## Texts -/

/-- Four hexadecimal digits. -/
def hex4? (a b c d : Char) : Option Nat := do
  let a ← Text.hexValue? a
  let b ← Text.hexValue? b
  let c ← Text.hexValue? c
  let d ← Text.hexValue? d
  return ((a * 16 + b) * 16 + c) * 16 + d

/-- The character that a one-letter escape stands for. -/
def escaped? : Char → Option Char
  | '"' => some '"'
  | '\\' => some '\\'
  | '/' => some '/'
  | 'b' => some '\x08'
  | 'f' => some '\x0c'
  | 'n' => some '\n'
  | 'r' => some '\r'
  | 't' => some '\t'
  | _ => none

/-- The first half of a pair of codes that together name one character. -/
def isHighHalf (code : Nat) : Bool := 0xd800 ≤ code && code < 0xdc00

/-- The second half of such a pair. -/
def isLowHalf (code : Nat) : Bool := 0xdc00 ≤ code && code < 0xe000

/-- The character of a code.  Half a pair on its own is no character, and a text here is made of
    characters: every such half becomes the same replacement, so that texts which differ in their
    halves only are not told apart. -/
def charOf (code : Nat) : Char :=
  if isHighHalf code || isLowHalf code then Text.replacement else Char.ofNat code

/-- The rest of a text after its opening quote, on top of the characters read so far (reversed).
    Control characters have to be escaped. -/
def text? (read : List Char) : List Char → Part String
  | [] => none
  | '"' :: rest => some (String.ofList read.reverse, rest)
  | '\\' :: 'u' :: a :: b :: c :: d :: '\\' :: 'u' :: e :: f :: g :: h :: rest =>
    (hex4? a b c d).bind fun code =>
      if isHighHalf code then
        (hex4? e f g h).bind fun low =>
          if isLowHalf low then
            text? (Char.ofNat (0x10000 + (code - 0xd800) * 0x400 + (low - 0xdc00)) :: read) rest
          else
            text? (charOf code :: read) ('\\' :: 'u' :: e :: f :: g :: h :: rest)
      else
        text? (charOf code :: read) ('\\' :: 'u' :: e :: f :: g :: h :: rest)
  | '\\' :: 'u' :: a :: b :: c :: d :: rest =>
    (hex4? a b c d).bind fun code => text? (charOf code :: read) rest
  | '\\' :: c :: rest => (escaped? c).bind fun c => text? (c :: read) rest
  | c :: rest => if c.toNat < 0x20 then none else text? (c :: read) rest
termination_by chars => chars.length

/-! ## Numbers -/

/-- The whole part: a single zero, or digits that do not start with one. -/
def whole? : List Char → Part (List Char)
  | '0' :: rest => some (['0'], rest)
  | chars =>
    match chars.takeWhile Char.isDigit with
    | [] => none
    | digits => some (digits, chars.dropWhile Char.isDigit)

/-- The digits after a point, if a point with digits follows. -/
def fraction (chars : List Char) : List Char × List Char :=
  match chars with
  | '.' :: rest =>
    match rest.takeWhile Char.isDigit with
    | [] => ([], chars)
    | digits => (digits, rest.dropWhile Char.isDigit)
  | _ => ([], chars)

/-- The exponent, if a mark with digits follows. -/
def exponent (chars : List Char) : Option Int × List Char :=
  match chars with
  | mark :: rest =>
    if mark = 'e' ∨ mark = 'E' then
      let (sign, rest) := match rest with
        | '-' :: more => (['-'], more)
        | '+' :: more => ([], more)
        | _ => ([], rest)
      match Decimal.signedDigits? (sign ++ rest.takeWhile Char.isDigit) with
      | some e => (some e, rest.dropWhile Char.isDigit)
      | none => (none, chars)
    else (none, chars)
  | [] => (none, [])

/-- A number after its sign.  Only the digits of an integer are limited in number. -/
def magnitude (maxDigits : Nat) (negative : Bool) (chars : List Char) : Parsed Value :=
  (orMalformed (whole? chars)).bind fun (digits, rest) =>
    let (decimals, rest) := fraction rest
    let (power, rest) := exponent rest
    if decimals.isEmpty && power.isNone then
      if maxDigits < digits.length then .error (.tooLong digits.length)
      else
        let n : Int := Decimal.digitsValue 0 digits
        .ok (.int (if negative then -n else n), rest)
    else
      .ok (.float (.ofDecimal negative (Decimal.digitsValue (Decimal.digitsValue 0 digits) decimals)
        (power.getD 0 - decimals.length)), rest)

/-! ## Values -/

mutual

/-- A value at the start of the characters, with `room` for so many more lists and objects around
    each other. -/
def value (maxDigits : Nat) : (fuel room : Nat) → List Char → Parsed Value
  | 0, _, _ => .error .malformed
  | fuel + 1, room, chars =>
    match chars with
    | '"' :: rest => (orMalformed (text? [] rest)).map fun (s, rest) => (.text s, rest)
    | '\x7b' :: rest =>
      match room with
      | 0 => .error (.tooDeep .object)
      | room + 1 =>
        match skipBlanks rest with
        | '\x7d' :: rest => .ok (.object [], rest)
        | rest =>
          (fields maxDigits fuel room rest).map fun (fields, rest) =>
            (.object (Keyed.ofList fields), rest)
    | '[' :: rest =>
      match room with
      | 0 => .error (.tooDeep .list)
      | room + 1 =>
        match skipBlanks rest with
        | ']' :: rest => .ok (.list [], rest)
        | rest => (items maxDigits fuel room rest).map fun (items, rest) => (.list items, rest)
    | 'n' :: 'u' :: 'l' :: 'l' :: rest => .ok (.null, rest)
    | 't' :: 'r' :: 'u' :: 'e' :: rest => .ok (.bool true, rest)
    | 'f' :: 'a' :: 'l' :: 's' :: 'e' :: rest => .ok (.bool false, rest)
    | 'N' :: 'a' :: 'N' :: rest => .ok (.float .nan, rest)
    | 'I' :: 'n' :: 'f' :: 'i' :: 'n' :: 'i' :: 't' :: 'y' :: rest =>
      .ok (.float (.infinite false), rest)
    | '-' :: 'I' :: 'n' :: 'f' :: 'i' :: 'n' :: 'i' :: 't' :: 'y' :: rest =>
      .ok (.float (.infinite true), rest)
    | '-' :: rest => magnitude maxDigits true rest
    | _ => magnitude maxDigits false chars

/-- The items of a list from one item to the closing bracket. -/
def items (maxDigits : Nat) : (fuel room : Nat) → List Char → Parsed (List Value)
  | 0, _, _ => .error .malformed
  | fuel + 1, room, chars =>
    (value maxDigits fuel room chars).bind fun (v, rest) =>
      match skipBlanks rest with
      | ']' :: rest => .ok ([v], rest)
      | ',' :: rest =>
        (items maxDigits fuel room (skipBlanks rest)).map fun (vs, rest) => (v :: vs, rest)
      | _ => .error .malformed

/-- The fields of an object from one key to the closing brace. -/
def fields (maxDigits : Nat) : (fuel room : Nat) → List Char → Parsed (List (String × Value))
  | 0, _, _ => .error .malformed
  | fuel + 1, room, chars =>
    match chars with
    | '"' :: rest =>
      (orMalformed (text? [] rest)).bind fun (key, rest) =>
        match skipBlanks rest with
        | ':' :: rest =>
          (value maxDigits fuel room (skipBlanks rest)).bind fun (v, rest) =>
            match skipBlanks rest with
            | '\x7d' :: rest => .ok ([(key, v)], rest)
            | ',' :: rest =>
              (fields maxDigits fuel room (skipBlanks rest)).map fun (fs, rest) =>
                ((key, v) :: fs, rest)
            | _ => .error .malformed
        | _ => .error .malformed
    | _ => .error .malformed

end

/-- **The value of a whole text** within limits, on the digits of an integer and on the lists and
    objects around each other.  Between two uses of fuel at least every other one takes a character,
    so twice the length is enough. -/
def valueWithin (maxDigits room : Nat) (chars : List Char) : Except Error Value :=
  (value maxDigits (2 * chars.length + 2) room (skipBlanks chars)).bind fun (v, rest) =>
    if (skipBlanks rest).isEmpty then .ok v else .error .malformed

/-- The value of a whole text. -/
def ofChars [Stack] (chars : List Char) : Except Error Value :=
  valueWithin Whole.maxDigits Stack.reading chars

/-- **Reading.** -/
def read [Stack] (s : String) : Except Error Value :=
  ofChars s.toList

/-- **Reading** a text that arrived as bytes: it may begin with a byte order mark, which is
    skipped. -/
def readMarked [Stack] (s : String) : Except Error Value :=
  match s.toList with
  | '\ufeff' :: rest => ofChars rest
  | chars => ofChars chars

end HomeScenes.Json
