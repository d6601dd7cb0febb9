/-!
# Blanks

  The characters that may surround a number in a setting or a document: those with the white-space
  property.
-/

namespace HomeScenes.Text

/-- **White space**: the ASCII blanks, the next-line and no-break characters, the typographic
    spaces, and the line and paragraph separators. -/
def isBlank (c : Char) : Bool :=
  let code := c.toNat
  (0x09 ≤ code && code ≤ 0x0d) || code == 0x20 || code == 0x85 || code == 0xa0 ||
    code == 0x1680 || (0x2000 ≤ code && code ≤ 0x200a) || code == 0x2028 || code == 0x2029 ||
    code == 0x202f || code == 0x205f || code == 0x3000

/-- The text between its first and its last character that is not a blank. -/
def trimBlanks (chars : List Char) : List Char :=
  ((chars.dropWhile isBlank).reverse.dropWhile isBlank).reverse

example : trimBlanks [' ', '\t', 'a', ' ', 'b', '\n'] = ['a', ' ', 'b'] := by decide

end HomeScenes.Text
