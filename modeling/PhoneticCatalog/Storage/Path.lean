/-!
# Paths

A path leads from a start, which is the current folder or the top of the storage, through named
steps. `ofText` reads a path; separators in a row count as one, and steps that lead nowhere are
dropped, but a step to the folder above is kept, because only the storage knows where it leads.
`join` continues a path by another one, which takes its place if it has a start of its own. `toText`
writes a path down.
-/

namespace PhoneticCatalog.Storage

/-- Where a path starts. The top of the storage has two spellings. -/
inductive Start where
  | current
  | top
  | doubledTop
  deriving DecidableEq, Repr

/-- A start and the steps from there. -/
structure Path where
  start : Start
  steps : List (List Char)
  deriving DecidableEq, Repr

/-- The step to the folder above. -/
def upStep : List Char := ['.', '.']

namespace Path

/-- The start that is written at the beginning of a text: exactly two slashes are not the same as
any other number of them. -/
def startOf : List Char → Start
  | '/' :: '/' :: '/' :: _ => .top
  | '/' :: '/' :: _ => .doubledTop
  | '/' :: _ => .top
  | _ => .current

/-- The path that a text writes. -/
def ofText (text : List Char) : Path :=
  ⟨startOf text, (text.splitOn '/').filter fun s => !s.isEmpty && s ≠ ['.']⟩

/-- A path continued by another one. -/
def join (p q : Path) : Path :=
  if q.start = .current then ⟨p.start, p.steps ++ q.steps⟩ else q

/-- The text that writes a path. -/
def toText (p : Path) : List Char :=
  let steps := (['/'] : List Char).intercalate p.steps
  match p.start with
  | .current => if p.steps.isEmpty then ['.'] else steps
  | .top => '/' :: steps
  | .doubledTop => '/' :: '/' :: steps

end Path

end PhoneticCatalog.Storage
