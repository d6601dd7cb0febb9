import HomeScenes.Number.Binary64

/-!
# The shortest text of a double-precision number

  A number is written with the fewest digits that read back as the same number; of several such
  decimals the nearest is taken.  The reals that round to a finite number form an interval, closed
  when the significand is even.  For one digit, two digits, and so on, the two neighbours of the
  number on that decimal grid are tested against the interval, in exact arithmetic; seventeen
  digits always suffice.

  Where the digits go is decided by `layout`: positional from `10^(-4)` up to `10^16`, always with
  a point, and with an exponent of at least two digits beyond.
-/

namespace HomeScenes.Shortest

/-- How many decimal digits a natural number has. -/
def digitCount (n : Nat) : Nat :=
  (Nat.toDigits 10 n).length

/-- A positive quotient `n / d` with the half-open distances, in the same fraction, down and up to
    which decimals still read back as the same number. -/
structure Interval where
  n : Nat
  d : Nat
  down : Nat
  up : Nat
  closed : Bool

/-- The interval of a finite number, in quarters of a least unit.  Below a power of two the
    neighbours lie half as far apart as above it. -/
def Interval.of (exponent : Fin 2047) (fraction : Fraction) : Interval :=
  let m := Binary64.significand exponent fraction
  let unit := Nat.pow 2 (Binary64.shift exponent)
  { n := 4 * m * unit
    d := Nat.pow 2 1076
    down := if fraction.val = 0 ∧ 1 < exponent.val then unit else 2 * unit
    up := 2 * unit
    closed := m % 2 = 0 }

/-- The place of the decimal point: the least `e` with `n / d < 10^e`. -/
def Interval.point (i : Interval) : Int :=
  if i.d ≤ i.n then digitCount (i.n / i.d)
  else 1 - (digitCount ((i.d + i.n - 1) / i.n - 1) : Int)

/-- The interval with the number as a multiple of `10^place`. -/
def Interval.scale (i : Interval) : Int → Interval
  | .ofNat up => { i with d := i.d * Nat.pow 10 up }
  | .negSucc k =>
    let factor := Nat.pow 10 (k + 1)
    { i with n := i.n * factor, down := i.down * factor, up := i.up * factor }

/-- Whether a distance stays within a bound that may itself be attained. -/
def Interval.within (i : Interval) (distance bound : Nat) : Bool :=
  distance < bound || (i.closed && distance == bound)

/-- The nearer of the two neighbouring integers of `n / d` that lies in the interval; of two that
    are equally near, the even one. -/
def Interval.neighbour? (i : Interval) : Option Nat :=
  let below := i.n / i.d
  let low := i.n % i.d
  let high := i.d - low
  match i.within low i.down, i.within high i.up with
  | true, true =>
    some (if low < high then below else if high < low then below + 1 else below + below % 2)
  | true, false => some below
  | false, true => some (below + 1)
  | false, false => none

/-- **The search.**  The first grid, from `tried` digits on, that has a hit: its integer and the
    power of ten that it counts. -/
def Interval.search (i : Interval) (point : Int) : (more tried : Nat) → Option (Nat × Int)
  | 0, _ => none
  | more + 1, tried =>
    let place := point - tried
    match (i.scale place).neighbour? with
    | some c => some (c, place)
    | none => i.search point more (tried + 1)

/-- The digits of a positive number without the zeros at their end, and the place of the point:
    `([d₁, d₂, …], e)` is `0.d₁d₂… · 10^e`. -/
def digits (exponent : Fin 2047) (fraction : Fraction) : List Char × Int :=
  let i := Interval.of exponent fraction
  match i.search i.point 17 1 with
  | none => ([], 0)
  | some (c, place) =>
    let ds := Nat.toDigits 10 c
    ((ds.reverse.dropWhile (· == '0')).reverse, ds.length + place)

/-! ## Layout -/

/-- An exponent has a sign and at least two digits. -/
def exponentText (e : Int) : List Char :=
  let ds := Nat.toDigits 10 e.natAbs
  (if e < 0 then '-' else '+') :: (if ds.length < 2 then '0' :: ds else ds)

/-- **Layout.**  Digits with the point at `e`: positional for `-4 < e ≤ 16`, with a zero on a side
    of the point that would be empty, and otherwise one digit before the point and an exponent. -/
def layout (ds : List Char) (e : Int) : List Char :=
  if -4 < e ∧ e ≤ 16 then
    match e with
    | .ofNat 0 => '0' :: '.' :: ds
    | .negSucc k => '0' :: '.' :: (List.replicate (k + 1) '0' ++ ds)
    | .ofNat n =>
      if ds.length ≤ n then ds ++ List.replicate (n - ds.length) '0' ++ ['.', '0']
      else ds.take n ++ '.' :: ds.drop n
  else
    match ds with
    | [] => []
    | [d] => d :: 'e' :: exponentText (e - 1)
    | d :: more => d :: '.' :: more ++ 'e' :: exponentText (e - 1)

/-- The text of a magnitude. -/
def magnitude (exponent : Fin 2047) (fraction : Fraction) : List Char :=
  if Binary64.units exponent fraction = 0 then ['0', '.', '0']
  else
    let (ds, e) := digits exponent fraction
    layout ds e

end HomeScenes.Shortest

namespace HomeScenes

/-- **The text** of a double-precision number: `0.1`, `-0.0`, `1e+16`, `nan`, `inf`, `-inf`. -/
def Binary64.text : Binary64 → String
  | .nan => "nan"
  | .infinite false => "inf"
  | .infinite true => "-inf"
  | .finite negative exponent fraction =>
    let body := Shortest.magnitude exponent fraction
    String.ofList (if negative then '-' :: body else body)

end HomeScenes
