import HomeScenes.Text.Utf8

/-!
# Percent escapes

  In a request path, `%` with two hexadecimal digits is a byte.  The bytes of a run of ASCII text
  are decoded together; characters beyond ASCII and a `%` without two digits stand for themselves.
-/

namespace HomeScenes.Text

/-- The value of a hexadecimal digit of either case. -/
def hexValue? (c : Char) : Option Nat :=
  if c.isDigit then some (c.toNat - '0'.toNat)
  else if 'a' ≤ c ∧ c ≤ 'f' then some (c.toNat - 'a'.toNat + 10)
  else if 'A' ≤ c ∧ c ≤ 'F' then some (c.toNat - 'A'.toNat + 10)
  else none

/-- The characters of a path; `bytes` (reversed) is the ASCII run read so far. -/
def unescapeFrom (bytes : List UInt8) : List Char → List Char
  | [] => decodeUtf8 bytes.reverse
  | '%' :: a :: b :: rest =>
    match hexValue? a, hexValue? b with
    | some high, some low => unescapeFrom (UInt8.ofNat (16 * high + low) :: bytes) rest
    | _, _ => unescapeFrom (UInt8.ofNat '%'.toNat :: bytes) (a :: b :: rest)
  | c :: rest =>
    if c.toNat < 0x80 then unescapeFrom (UInt8.ofNat c.toNat :: bytes) rest
    else decodeUtf8 bytes.reverse ++ c :: unescapeFrom [] rest
termination_by chars => chars.length

/-- **Unescaping.** -/
def unescapePercent (chars : List Char) : List Char :=
  unescapeFrom [] chars

end HomeScenes.Text
