import HomeScenes.Files.Tree
import HomeScenes.Text.Quoted

/-!
# The file of records

  What is known of one file: its contents, if it is there, and what stands in the way of writing it.
  Writing has two steps.  Opening the file empties it; then the text is written.  Either step can
  fail, and a failure of the second leaves the file empty.
-/

namespace HomeScenes

/-- The contents of a file: text, or bytes that are no UTF-8 text. -/
inductive Contents where
  | text (s : String)
  | undecodable
deriving DecidableEq

/-- The contents that bytes amount to. -/
def Contents.ofBytes (bytes : ByteArray) : Contents :=
  match String.fromUTF8? bytes with
  | some s => .text s
  | none => .undecodable

/-- What makes a write fail. -/
inductive Obstacle where
  | noDirectory
  | isDirectory
  | nameTooLong
  | noSpace
deriving DecidableEq

/-- Whether a file cannot even be opened. -/
def Obstacle.preventsOpening : Obstacle → Bool
  | .noSpace => false
  | _ => true

/-- The wording of an obstacle. -/
def Obstacle.text (path : String) : Obstacle → String
  | .noDirectory => "[Errno 2] No such file or directory: " ++ Text.quoted path
  | .isDirectory => "[Errno 21] Is a directory: " ++ Text.quoted path
  | .nameTooLong => "[Errno 36] File name too long: " ++ Text.quoted path
  | .noSpace => "[Errno 28] No space left on device"

/-- **A file** and what stands in the way of writing it. -/
structure Disk where
  contents : Option Contents
  obstacle : Option Obstacle
deriving DecidableEq

namespace Disk

/-- **Opening** for writing, which empties the file. -/
def openToWrite (disk : Disk) : Except Obstacle Disk :=
  match disk.obstacle.filter Obstacle.preventsOpening with
  | some obstacle => .error obstacle
  | none => .ok { disk with contents := some (.text "") }

/-- **Writing** into the file that was opened. -/
def write (text : String) (disk : Disk) : Except Obstacle Disk :=
  match disk.obstacle with
  | some obstacle => .error obstacle
  | none => .ok { disk with contents := some (.text text) }

/-- **Saving**: opening, then writing.  What went wrong, if anything did, and the file after it. -/
def save (text : String) (disk : Disk) : Option Obstacle × Disk :=
  match disk.openToWrite with
  | .error obstacle => (some obstacle, disk)
  | .ok opened =>
    match opened.write text with
    | .error obstacle => (some obstacle, opened)
    | .ok written => (none, written)

/-- The most bytes that a name may have. -/
def maxName : Nat := 255

/-- The most bytes that a path may have. -/
def maxPath : Nat := 4095

/-- What stands in the way to a directory: the first name that leads nowhere or is too long. -/
def obstacleTo (tree : FileTree) (way : List String) : Option Obstacle :=
  let sound := way.takeWhile fun name => name.utf8ByteSize ≤ maxName
  if (tree.follow? [] sound).isNone then some .noDirectory
  else if sound.length < way.length then some .nameTooLong
  else none

/-- What stands in the way of a new file at a path: it can be written when its parent is a directory
    and it is none itself.  A path with a slash at its end is that of a directory. -/
def obstacleAt (tree : FileTree) (path : String) : Option Obstacle :=
  let names := ((FileTree.parts path).reverse.dropWhile String.isEmpty).reverse
  let last := names.getLast?.getD ""
  if path.isEmpty then some .noDirectory
  else if maxPath < path.utf8ByteSize then some .nameTooLong
  else if tree.hasPath path then some .isDirectory
  else
    match obstacleTo tree names.dropLast with
    | some obstacle => some obstacle
    | none =>
      if path.endsWith "/" ∨ last = ".." then some .isDirectory
      else if maxName < last.utf8ByteSize then some .nameTooLong
      else none

/-- The file at a path in a tree of directories, where it is not yet. -/
def inTree (tree : FileTree) (path : String) : Disk :=
  ⟨none, obstacleAt tree path⟩

end Disk
end HomeScenes
