/-!
# Paths

  A path is a text whose parts are divided by slashes.  Its *parent* is everything before its last
  part, without the slashes at the end unless there is nothing else.
-/

namespace HomeScenes.Path

/-- The characters without those at the end that satisfy a test. -/
def dropEnd (p : Char → Bool) (chars : List Char) : List Char :=
  (chars.reverse.dropWhile p).reverse

/-- **The parent** of a path. -/
def parent (path : List Char) : List Char :=
  let head := dropEnd (· != '/') path
  if head.all (· == '/') then head else dropEnd (· == '/') head

theorem dropEnd_initial (p : Char → Bool) (chars : List Char) : dropEnd p chars <+: chars := by
  rw [← List.reverse_suffix]
  simpa [dropEnd] using List.dropWhile_suffix p

theorem parent_initial (path : List Char) : parent path <+: path := by
  simp only [parent]
  split
  · exact dropEnd_initial _ _
  · exact (dropEnd_initial _ _).trans (dropEnd_initial _ _)

/-- **A parent is shorter**, unless a path is its own parent. -/
theorem length_parent_lt {path : List Char} (h : parent path ≠ path) :
    (parent path).length < path.length := by
  rcases Nat.lt_or_ge (parent path).length path.length with hlt | hge
  · exact hlt
  · exact absurd ((parent_initial path).eq_of_length_le hge) h

/-- **Joining** a path and a relative one. -/
def join (path name : String) : String :=
  if name.startsWith "/" then name
  else if path.isEmpty || path.endsWith "/" then path ++ name
  else path ++ "/" ++ name

end HomeScenes.Path
