import HomeScenes.Condition.Check
import HomeScenes.Condition.Nesting
import HomeScenes.Condition.Reading

/-!
# Where a condition tree comes from

  A condition tree is handed over as a tree or as the document that describes it.  The nesting of a
  document is checked before it is read.
-/

namespace HomeScenes.Condition

variable [Stack]

/-- A condition tree, or a document that should describe one. -/
inductive Source where
  | tree (group : Group)
  | document (value : Value)

/-- Why a document gives no condition tree. -/
inductive Unreadable where
  | notGroup (got : Value)
  | tooDeep (limit : Int)
  | invalid (issues : List Issue)

/-- **The tree of a source**; with a limit, a document that is nested deeper is turned away. -/
def Source.parse (limit? : Option Int) : Source → Except Unreadable Group
  | .tree group => .ok group
  | .document (.object fields) =>
    match limit?.filter fun limit => Nesting.exceeds limit (.object fields) with
    | some limit => .error (.tooDeep limit)
    | none =>
      match Group.read (.object fields) with
      | .good group => .ok group
      | .bad issues => .error (.invalid issues)
  | .document v => .error (.notGroup v)

/-- The message about a value that is neither a tree nor an object. -/
def notGroupMessage (got : Value) : String :=
  "Expected a condition group, got " ++ got.kindName

/-- The lines that report a document without a tree, unless the limit cannot be shown. -/
def Unreadable.lines : Unreadable → Except Stop (List String)
  | .notGroup got => .ok [notGroupMessage got]
  | .tooDeep limit =>
    match (Defect.tooDeep limit).message with
    | .ok message => .ok [message]
    | .error why => .error (.unshown why)
  | .invalid issues => .ok (issues.map Issue.line)

/-- Why a source does not compile. -/
inductive CompileError where
  | unreadable (why : Unreadable)
  | error (why : Error)

/-- **Compiling** a source. -/
def Source.compile (limit : Int) (source : Source) : Except CompileError String :=
  match source.parse (some limit) with
  | .error why => .error (.unreadable why)
  | .ok group =>
    match group.compile limit with
    | .error why => .error (.error why)
    | .ok text => .ok text

/-- **Checking** a source: a document without a tree gives a report too. -/
def Source.check (limit : Int) (source : Source) : Except Stop Report :=
  match source.parse (some limit) with
  | .error why => do
    let lines ← why.lines
    return .of lines []
  | .ok group => group.check limit

end HomeScenes.Condition
