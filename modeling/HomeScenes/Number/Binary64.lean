/-!
# Double-precision numbers

  A number with a fractional part is a double-precision number.  Nothing here does arithmetic on
  them: they are read from decimal text, compared with zero, and written back.  So the type holds
  the fields themselves, every value has exactly one form, and all questions are answered in exact
  arithmetic on natural numbers.

  The crux is `ofRatio`: a quotient of natural numbers goes to the nearest representable number,
  and of two equally near ones to the one whose significand is even.
-/

namespace HomeScenes

/-- The fraction field of a double-precision number. -/
abbrev Fraction := Fin (Nat.pow 2 52)

/-- The last 52 bits of a natural number. -/
def Fraction.ofNat (n : Nat) : Fraction :=
  ⟨n % Nat.pow 2 52, Nat.mod_lt n (Nat.two_pow_pos 52)⟩

/-- A double-precision number by its fields.  A finite one with exponent field `e` and fraction
    `f` stands for `f · 2^(-1074)` when `e = 0`, and for `(2^52 + f) · 2^(e - 1075)` otherwise. -/
inductive Binary64 where
  | nan
  | infinite (negative : Bool)
  | finite (negative : Bool) (exponent : Fin 2047) (fraction : Fraction)
deriving DecidableEq, Repr, Inhabited

namespace Binary64

/-! ## The exact value

  With `significand` and `shift`, a finite number is `significand · 2^shift` units of
  `2^(-1074)`. -/

/-- **The significand** of a finite number: the leading bit is there unless the field is zero. -/
def significand (exponent : Fin 2047) (fraction : Fraction) : Nat :=
  if exponent.val = 0 then fraction.val else Nat.pow 2 52 + fraction.val

/-- **The shift** of a finite number: how often its significand is doubled, in least units. -/
def shift (exponent : Fin 2047) : Nat :=
  exponent.val - 1

/-- The magnitude in units of `2^(-1074)`. -/
def units (exponent : Fin 2047) (fraction : Fraction) : Nat :=
  significand exponent fraction * Nat.pow 2 (shift exponent)

/-- Neither a NaN nor an infinity. -/
def isFinite : Binary64 → Bool
  | .finite .. => true
  | _ => false

/-- Strictly below zero.  The negative zero is not, and neither is a NaN. -/
def isNegative : Binary64 → Bool
  | .nan => false
  | .infinite negative => negative
  | .finite negative exponent fraction => negative && units exponent fraction != 0

/-- The number without its sign. -/
def abs : Binary64 → Binary64
  | .nan => .nan
  | .infinite _ => .infinite false
  | .finite _ exponent fraction => .finite false exponent fraction

/-- The integer that the number equals, if it equals one. -/
def toInt? : Binary64 → Option Int
  | .finite negative exponent fraction =>
    let n := units exponent fraction
    if n % Nat.pow 2 1074 = 0 then
      let magnitude : Int := (n / Nat.pow 2 1074 : Nat)
      some (if negative then -magnitude else magnitude)
    else
      none
  | _ => none

/-! ## Rounding -/

/-- The quotient rounded to the nearest natural number, a half going to the even neighbour. -/
def roundDiv (n d : Nat) : Nat :=
  let q := n / d
  let r := n % d
  if 2 * r < d then q
  else if d < 2 * r then q + 1
  else q + q % 2

/-- The number with this significand and shift; a significand of `2^53` is carried into the
    exponent, and what lies beyond the largest finite number is infinite. -/
def assemble (negative : Bool) (m s : Nat) : Binary64 :=
  if m < Nat.pow 2 52 then
    .finite negative 0 (.ofNat m)
  else
    let field := if m < Nat.pow 2 53 then s + 1 else s + 2
    if h : field < 2047 then
      .finite negative ⟨field, h⟩ (.ofNat m)
    else
      .infinite negative

/-- **Rounding.**  The double-precision number nearest to `n / d`, for a positive `d`. -/
def ofRatio (negative : Bool) (n d : Nat) : Binary64 :=
  let least := n * Nat.pow 2 1074
  let s := (least / d).log2 + 1 - 53
  assemble negative (roundDiv least (d * Nat.pow 2 s)) s

/-- The double-precision number nearest to `digits · 10^exponent`.  Powers of ten are formed only
    for exponents that can matter: anything from `10^400` on is infinite, anything up to
    `10^(-400)` rounds to zero. -/
def ofDecimal (negative : Bool) (digits : Nat) (exponent : Int) : Binary64 :=
  match exponent with
  | .ofNat up =>
    if digits = 0 then .finite negative 0 (.ofNat 0)
    else if 400 < up then .infinite negative
    else ofRatio negative (digits * Nat.pow 10 up) 1
  | .negSucc k =>
    let down := k + 1
    if digits.log2 + 401 < down then .finite negative 0 (.ofNat 0)
    else ofRatio negative digits (Nat.pow 10 down)

end Binary64
end HomeScenes
