/-!
# A tree of files

  A working directory with directories and files below it, each by the list of names that leads to
  it.  A path is followed part by part: an empty part and `.` stay, `..` goes up, and every part but
  the last has to lead to a directory.
-/

namespace HomeScenes

/-- **A tree of files.**  The working directory itself is the empty list. -/
structure FileTree where
  directories : List (List String)
  files : List (List String)

namespace FileTree

/-- The names in a relative path. -/
def parts (path : String) : List String :=
  path.splitOn "/"

/-- The place that a plain path names. -/
def placeOf (path : String) : List String :=
  (parts path).filter fun part => part ≠ "" ∧ part ≠ "."

/-- The places on the way to a place, and the place itself. -/
def wayTo : List String → List (List String)
  | [] => []
  | name :: rest => [name] :: (wayTo rest).map (name :: ·)

/-- The tree with these directories and files, and all directories that lead to them. -/
def of (directories files : List String) : FileTree where
  directories := (directories.map placeOf).flatMap wayTo ++
    (files.map placeOf).flatMap fun place => wayTo place.dropLast
  files := files.map placeOf

/-- Whether a place is a directory. -/
def isDirectory (tree : FileTree) (place : List String) : Bool :=
  place.isEmpty || tree.directories.contains place

/-- Whether a place is a directory or a file. -/
def holds (tree : FileTree) (place : List String) : Bool :=
  tree.isDirectory place || tree.files.contains place

/-- **Following** parts from a place.  Nothing is known above the working directory. -/
def follow? (tree : FileTree) (place : List String) : List String → Option (List String)
  | [] => if tree.holds place then some place else none
  | part :: rest =>
    if !tree.isDirectory place then none
    else if part = "" ∨ part = "." then tree.follow? place rest
    else if part = ".." then
      if place.isEmpty then none else tree.follow? place.dropLast rest
    else tree.follow? (place ++ [part]) rest

/-- **Whether a path exists.**  An empty path does not, and an absolute one is outside the tree. -/
def hasPath (tree : FileTree) (path : String) : Bool :=
  !path.isEmpty && !path.startsWith "/" && (tree.follow? [] (parts path)).isSome

end FileTree
end HomeScenes
