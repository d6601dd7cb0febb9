import HomeScenes.Number.Binary64

/-!
# Decimal text of a double-precision number

  A decimal is read as a natural number of digits and a power of ten, so that nothing is rounded
  before `Binary64.ofDecimal` rounds once.
-/

namespace HomeScenes.Decimal

/-- The natural number that a run of decimal digits spells, on top of what was read before. -/
def digitsValue (start : Nat) (digits : List Char) : Nat :=
  digits.foldl (fun n c => 10 * n + (c.toNat - '0'.toNat)) start

/-- A signed run of digits, as in an exponent. -/
def signedDigits? (text : List Char) : Option Int :=
  let (negative, digits) := match text with
    | '-' :: rest => (true, rest)
    | '+' :: rest => (false, rest)
    | _ => (false, text)
  if digits.isEmpty || !digits.all Char.isDigit then none
  else
    let n : Int := digitsValue 0 digits
    some (if negative then -n else n)

/-- An unsigned decimal: digits, perhaps a point with more digits, perhaps an exponent.  A digit
    has to stand on one side of the point. -/
def magnitude? (negative : Bool) (text : List Char) : Option Binary64 :=
  let whole := text.takeWhile Char.isDigit
  let rest := text.dropWhile Char.isDigit
  let (fraction, rest) := match rest with
    | '.' :: more => (more.takeWhile Char.isDigit, more.dropWhile Char.isDigit)
    | _ => ([], rest)
  if whole.isEmpty && fraction.isEmpty then none
  else
    let digits := digitsValue (digitsValue 0 whole) fraction
    match rest with
    | [] => some (.ofDecimal negative digits (-(fraction.length : Int)))
    | mark :: more =>
      if mark = 'e' ∨ mark = 'E' then
        (signedDigits? more).map fun e => .ofDecimal negative digits (e - fraction.length)
      else
        none

/-- **Reading.**  A decimal with an optional sign, or one of the words `nan`, `inf`, `-inf`. -/
def read? (text : String) : Option Binary64 :=
  match text.toList with
  | ['n', 'a', 'n'] => some .nan
  | ['i', 'n', 'f'] => some (.infinite false)
  | ['-', 'i', 'n', 'f'] => some (.infinite true)
  | '-' :: rest => magnitude? true rest
  | '+' :: rest => magnitude? false rest
  | chars => magnitude? false chars

end HomeScenes.Decimal
