/-!
# Lines

  A text is cut into lines at every line boundary: the line feed, the carriage return (with a line
  feed right after it, both are one boundary), the vertical tab, the form feed, the three
  information separators, the next-line character, and the line and paragraph separators.  A
  boundary ends a line, so a text that ends in one has no empty line after it.
-/

namespace HomeScenes.Text

/-- A character that ends a line. -/
def isLineEnd (c : Char) : Bool :=
  let code := c.toNat
  (0x0a ≤ code && code ≤ 0x0d) || (0x1c ≤ code && code ≤ 0x1e) || code == 0x85 ||
    code == 0x2028 || code == 0x2029

/-- The lines of a text after the beginning `line` (reversed) of the current one. -/
def linesFrom (line : List Char) : List Char → List (List Char)
  | [] => if line.isEmpty then [] else [line.reverse]
  | '\r' :: '\n' :: rest => line.reverse :: linesFrom [] rest
  | c :: rest =>
    if isLineEnd c then line.reverse :: linesFrom [] rest else linesFrom (c :: line) rest

/-- **The lines** of a text, without their ends. -/
def lines (s : String) : List String :=
  (linesFrom [] s.toList).map String.ofList

example : linesFrom [] ['a', '\r', '\n', '\n', 'b'] = [['a'], [], ['b']] := by decide
example : linesFrom [] ['a', '\n'] = [['a']] := by decide

end HomeScenes.Text
