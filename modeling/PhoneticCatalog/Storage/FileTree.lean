import PhoneticCatalog.Storage.Path

/-!
# File trees

A `FileTree` lists files and folders by the names that lead to them from the top; whatever lies
above an entry is a folder. `FileTree.walk` follows the steps of a path one by one, as a file system
does, so that a step through something that is no folder, a step to nothing and an overlong name
each fail where they occur. `FileTree.read` gives the bytes at the end of a path.
-/

namespace PhoneticCatalog.Storage

/-- What a file system refuses. -/
inductive SystemFault where
  | missing
  | notDirectory
  | isDirectory
  | nameTooLong
  deriving DecidableEq, Repr

/-- The number and the wording of a file system's refusal. -/
def SystemFault.message : SystemFault → String
  | missing => "[Errno 2] No such file or directory"
  | notDirectory => "[Errno 20] Not a directory"
  | isDirectory => "[Errno 21] Is a directory"
  | nameTooLong => "[Errno 36] File name too long"

/-- What a name stands for. -/
inductive Entry where
  | file (bytes : List UInt8)
  | folder
  deriving DecidableEq, Repr

/-- Files and folders with the names that lead to them from the top. -/
structure FileTree where
  entries : List (List (List Char) × Entry)

/-- The greatest number of bytes that a name may take. -/
def maxNameSize : Nat := 255

/-- The greatest number of bytes that the text of a path may take. -/
def maxPathSize : Nat := 4095

/-- The number of bytes that a text takes. -/
def byteSize (text : List Char) : Nat := text.foldr (fun c size => c.utf8Size + size) 0

namespace FileTree

/-- What stands at a place of the tree. The top is always a folder. -/
def entry? (t : FileTree) (place : List (List Char)) : Option Entry :=
  match t.entries.lookup place with
  | some e => some e
  | none =>
    if place.isEmpty || t.entries.any (fun e => place.isPrefixOf e.1) then some .folder else none

/-- The place that some steps lead to from `place`. -/
def walk (t : FileTree) (place : List (List Char)) :
    List (List Char) → Except SystemFault (List (List Char))
  | [] => .ok place
  | step :: rest =>
    if t.entry? place ≠ some .folder then .error .notDirectory
    else if step = upStep then t.walk place.dropLast rest
    else if maxNameSize < byteSize step then .error .nameTooLong
    else if (t.entry? (place ++ [step])).isNone then .error .missing
    else t.walk (place ++ [step]) rest

/-- The bytes of the file at a path. Relative paths start at the top. -/
def read (t : FileTree) (p : Path) : Except SystemFault (List UInt8) := do
  if maxPathSize < byteSize p.toText then throw .nameTooLong
  match t.entry? (← t.walk [] p.steps) with
  | some (.file bytes) => return bytes
  | some .folder => throw .isDirectory
  | none => throw .missing

end FileTree

end PhoneticCatalog.Storage
