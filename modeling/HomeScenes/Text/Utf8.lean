/-!
# UTF-8 with replacement

  Bytes that came from outside need not be UTF-8.  Each maximal piece that starts a character
  without finishing it, and each byte that cannot start one, is read as the replacement character.
-/

namespace HomeScenes.Text

/-- What a lead byte announces: how many continuation bytes follow, its own bits, and the range
    that the first of them must lie in (which keeps out overlong forms, surrogates and codes beyond
    the last character). -/
def lead? (byte : Nat) : Option (Nat × Nat × Nat × Nat) :=
  if byte < 0x80 then some (0, byte, 0x80, 0xbf)
  else if byte < 0xc2 then none
  else if byte < 0xe0 then some (1, byte - 0xc0, 0x80, 0xbf)
  else if byte == 0xe0 then some (2, 0, 0xa0, 0xbf)
  else if byte == 0xed then some (2, 0xd, 0x80, 0x9f)
  else if byte < 0xf0 then some (2, byte - 0xe0, 0x80, 0xbf)
  else if byte == 0xf0 then some (3, 0, 0x90, 0xbf)
  else if byte < 0xf4 then some (3, byte - 0xf0, 0x80, 0xbf)
  else if byte == 0xf4 then some (3, 4, 0x80, 0x8f)
  else none

/-- What stands for bytes that are no character. -/
def replacement : Char := Char.ofNat 0xfffd

/-- The state between two bytes: no character begun, or one with its bits so far, the number of
    bytes it still wants, and the range of the next one. -/
inductive Pending where
  | none
  | begun (bits wanted low high : Nat)

/-- The characters of a sequence of bytes, after what is pending. -/
def decodeFrom : Pending → List UInt8 → List Char
  | .none, [] => []
  | .begun .., [] => [replacement]
  | .begun bits wanted low high, byte :: rest =>
    if low ≤ byte.toNat && byte.toNat ≤ high then
      let bits := bits * 64 + byte.toNat % 64
      if wanted ≤ 1 then Char.ofNat bits :: decodeFrom .none rest
      else decodeFrom (.begun bits (wanted - 1) 0x80 0xbf) rest
    else
      match lead? byte.toNat with
      | .none => replacement :: replacement :: decodeFrom .none rest
      | .some (0, bits, _, _) => replacement :: Char.ofNat bits :: decodeFrom .none rest
      | .some (wanted, bits, low, high) =>
        replacement :: decodeFrom (.begun bits wanted low high) rest
  | .none, byte :: rest =>
    match lead? byte.toNat with
    | .none => replacement :: decodeFrom .none rest
    | .some (0, bits, _, _) => Char.ofNat bits :: decodeFrom .none rest
    | .some (wanted, bits, low, high) => decodeFrom (.begun bits wanted low high) rest

/-- **Decoding with replacement.** -/
def decodeUtf8 (bytes : List UInt8) : List Char :=
  decodeFrom .none bytes

example : decodeUtf8 [0xc3, 0xa9] = ['é'] := by decide
example : decodeUtf8 [0xe2, 0x82, 0x41, 0xff] = [replacement, 'A', replacement] := by decide

end HomeScenes.Text
