import HomeScenes.Number.Decimal
import HomeScenes.Text.Blank
import HomeScenes.Text.Digit

/-!
# Whole numbers in text

  A setting and a document field both take an integer as text.

  A *setting* has blanks around it, a sign, and digits of any script that may be grouped by single
  underscores.

  A *field* is read twice.  First as a *plain* spelling, the one that numbers in documents have.  A
  text that is none is *tidied* (blanks, a plus, leading zeros, a fraction of zeros and underscores
  go) and must be plain then.

  A text with very many digits is turned down.  Both ways differ in what they count and in what they
  look at first; see `ofDigits` and `ofPlain`.
-/

namespace HomeScenes.Whole

/-- Why a text is taken for no integer. -/
inductive Flaw where
  | unreadable
  | tooLong (digits : Nat)
deriving DecidableEq

/-- The most digits that are taken. -/
def maxDigits : Nat := 4300

/-- The message about a number with too many digits. -/
def tooLongMessage (digits : Nat) : String :=
  "Exceeds the limit (" ++ maxDigits.repr ++ " digits) for integer string conversion: value has " ++
    digits.repr ++ " digits; use sys.set_int_max_str_digits() to increase the limit"

/-! ## Settings -/

/-- The digits that a text starts with, single underscores between them, and what follows; the last
    digit comes first.  An underscore anywhere else among the digits spoils the text. -/
def digitRun? (mayBreak : Bool) (read : List Nat) : List Char → Option (List Nat × List Char)
  | [] => if mayBreak then some (read, []) else none
  | c :: rest =>
    match Text.digitValue? c with
    | some d => digitRun? true (d :: read) rest
    | none =>
      if !mayBreak then none
      else if c = '_' then digitRun? false read rest
      else some (read, c :: rest)

/-- The number that a text without a sign spells.  The digits are counted, leading zeros too, before
    anything that follows them is looked at. -/
def ofDigits (chars : List Char) : Except Flaw Nat :=
  match digitRun? false [] chars with
  | none => .error .unreadable
  | some (digits, rest) =>
    if maxDigits < digits.length then .error (.tooLong digits.length)
    else if rest.all Text.isBlank then .ok (digits.foldr (fun d n => 10 * n + d) 0)
    else .error .unreadable

/-- **A setting's integer.** -/
def ofSetting (s : String) : Except Flaw Int :=
  match s.toList.dropWhile Text.isBlank with
  | '-' :: rest => (ofDigits rest).map fun n => -(n : Int)
  | '+' :: rest => (ofDigits rest).map fun n => (n : Int)
  | chars => (ofDigits chars).map fun n => (n : Int)

/-! ## Plain spellings -/

/-- A zero, or ASCII digits that do not start with one, after `before` characters of the spelling.
    The spelling is too long as soon as these and the digits are too many, whatever follows. -/
def plainDigits (before : Nat) (chars : List Char) : Except Flaw Nat :=
  match chars.takeWhile Char.isDigit with
  | [] => .error .unreadable
  | '0' :: _ => if chars = ['0'] then .ok 0 else .error .unreadable
  | digits =>
    if maxDigits < before + digits.length then .error (.tooLong digits.length)
    else if digits.length < chars.length then .error .unreadable
    else .ok (Decimal.digitsValue 0 digits)

/-- **The integer of a plain spelling**: a minus, if it is negative, and digits. -/
def ofPlain : List Char → Except Flaw Int
  | '-' :: rest => (plainDigits 1 rest).map fun n => -(n : Int)
  | chars => (plainDigits 0 chars).map fun n => (n : Int)

/-! ## Fields -/

/-- What follows leading zeros, of which `last` was the last.  Underscores among the zeros go with
    them.  A minus may follow them as a digit may, and a point keeps the character before it. -/
def afterZeros? (last : Char) : List Char → Option (List Char)
  | [] => some [last]
  | c :: rest =>
    if c = '0' ∨ c = '_' then afterZeros? c rest
    else if c.isDigit ∨ c = '-' then some (c :: rest)
    else if c = '.' then some (last :: c :: rest)
    else none

/-- The text without its leading zeros; it has to start with a digit. -/
def dropZeros? : List Char → Option (List Char)
  | [] => none
  | c :: rest =>
    if c = '0' then afterZeros? c rest
    else if c.isDigit then some (c :: rest)
    else none

/-- The text without a point and zeros at its end; at least one zero has to follow the point. -/
def dropZeroFraction (chars : List Char) : List Char :=
  match chars.reverse.span (· == '0') with
  | (_ :: _, '.' :: whole) => whole.reverse
  | _ => chars

/-- Whether every underscore stands between two other characters; `mayBreak` says whether one may
    stand here. -/
def isGrouped (mayBreak : Bool) : List Char → Bool
  | [] => mayBreak
  | c :: rest => if c = '_' then mayBreak && isGrouped false rest else isGrouped true rest

/-- The text without its underscores, if all of them stand where they may. -/
def dropUnderscores (chars : List Char) : List Char :=
  if isGrouped false chars then chars.filter (· != '_') else chars

/-- A text without a sign, tidied. -/
def tidyDigits? (chars : List Char) : Option (List Char) :=
  (dropZeros? chars).map fun chars => dropUnderscores (dropZeroFraction chars)

/-- **The plain spelling** that a text is tidied to, if all is well with it. -/
def tidy? (chars : List Char) : Option (List Char) :=
  match Text.trimBlanks chars with
  | '-' :: rest => (tidyDigits? rest).map ('-' :: ·)
  | '+' :: rest => tidyDigits? rest
  | rest => tidyDigits? rest

/-- **A field's integer.**  Only a text that is plain as it stands can be too long; one that is too
    long when tidied is unreadable. -/
def ofField (s : String) : Except Flaw Int :=
  match ofPlain s.toList with
  | .error .unreadable =>
    match (tidy? s.toList).map ofPlain with
    | some (.ok n) => .ok n
    | _ => .error .unreadable
  | direct => direct

end HomeScenes.Whole
