import PhoneticCatalog.Document.Fault
import PhoneticCatalog.Rule
import PhoneticCatalog.Storage.FileTree
import PhoneticCatalog.Text.Encoding

/-!
# Why a load fails

A load ends without rules because a catalog cannot be opened, because includes run in a circle or
too deep, or because a text cannot be understood. `OpenFault` and `FormatFault` list the causes, and
`LoadError` gathers them. `LoadError.message` holds the wording of all of them.

Most load errors are configuration errors, which a caller is meant to handle. A few causes are not
(`LoadError.isConfiguration`): a context whose counts or switches exceed what a search can be built
for, a scalar of a document that its tag promises and its text does not keep, a path or an encoding
that does not exist as such, and an entry of an unchecked document that is no entry.
-/

namespace PhoneticCatalog.Catalog

/-- Why a catalog cannot be opened. -/
inductive OpenFault where
  /-- The catalog is not among those held. -/
  | notHeld
  /-- There is no file at the path. -/
  | noFile (path : List Char)
  /-- The file system refuses the path. -/
  | system (fault : Storage.SystemFault) (path : List Char)
  /-- The bytes of the file are no text of the encoding. -/
  | undecodable (fault : Text.DecodeFault)
  /-- There is no package of that name. -/
  | noPackage (name : List Char)
  /-- The path holds a zero character, which no file system takes. -/
  | zeroInPath
  /-- There is no encoding of that name. -/
  | unknownEncoding (name : List Char)
  /-- The name of the encoding holds a zero character. -/
  | zeroInEncoding
  /-- The text does not start with the byte order mark that its encoding needs. -/
  | noByteOrderMark (width : Text.UnitWidth)
  deriving DecidableEq, Repr

namespace OpenFault

/-- The wording of the cause, where there is one to name. -/
def reason? : OpenFault → Option String
  | notHeld => none
  | noFile path => some ("no such file " ++ String.ofList path)
  | system fault path => some (fault.message ++ ": " ++ String.ofList (Text.quote path))
  | undecodable fault => some fault.message
  | noPackage name => some ("No module named " ++ String.ofList (Text.quote name))
  | zeroInPath => some "embedded null byte"
  | unknownEncoding name => some ("unknown encoding: " ++ String.ofList name)
  | zeroInEncoding => some "embedded null character"
  | noByteOrderMark width => some (width.label ++ " stream does not start with BOM")

/-- The catalog counts as not found. The other faults lie in the request itself. -/
def isNotFound : OpenFault → Bool
  | zeroInPath | unknownEncoding _ | zeroInEncoding | noByteOrderMark _ => false
  | _ => true

end OpenFault

/-- Where a rule stands whose context cannot be read. -/
inductive RulePlace where
  /-- A line of a text, counted from one. -/
  | line (number : Nat)
  /-- An entry of a document, counted from zero. -/
  | entry (number : Nat)
  deriving DecidableEq, Repr

/-- The wording of a place. -/
def RulePlace.text : RulePlace → String
  | line n => "line " ++ toString n
  | entry n => "rule " ++ toString n

/-- Why a text is no catalog. -/
inductive FormatFault where
  /-- A context of a rule cannot be read. -/
  | context (place : RulePlace) (error : ContextError)
  /-- The text is no document at all. -/
  | syntaxError
  /-- The document is none of a catalog; the message says what is wrong. -/
  | shape (message : List Char)
  deriving DecidableEq, Repr

/-- The wording of a format fault. -/
def FormatFault.detail : FormatFault → String
  | context place error => place.text ++ ": invalid context expression: " ++ error.message
  | syntaxError => "YAML syntax error"
  | shape message => "schema validation failed: " ++ String.ofList message

/-- What is wrong with an entry of a document that was not checked. Kinds of values are given by
name. -/
inductive EntryFault where
  /-- A mapping lacks the key. -/
  | noKey (key : List Char)
  /-- The value cannot be searched for a key. -/
  | notSearchable (kind : String)
  /-- Bytes cannot be searched for a text. -/
  | searchedBytes
  /-- The members of the value cannot be listed. -/
  | notIterable (kind : String)
  /-- The value has no members to be asked for. -/
  | notSubscriptable (kind : String)
  /-- The members of the value are asked for by number only. -/
  | needsIndex (kind : String)
  /-- A left context that is no text cannot be completed. -/
  | leftNoText (kind : String)
  /-- A right context that is no text cannot be completed. -/
  | rightNoText (kind : String)
  /-- The value cannot be a member of a set. -/
  | notHashable (kind : String)
  deriving DecidableEq, Repr

/-- The wording of an entry fault. -/
def EntryFault.message : EntryFault → String
  | noKey key => String.ofList (Text.quote key)
  | notSearchable kind => "argument of type '" ++ kind ++ "' is not iterable"
  | searchedBytes => "a bytes-like object is required, not 'str'"
  | notIterable kind => "'" ++ kind ++ "' object is not iterable"
  | notSubscriptable kind => "'" ++ kind ++ "' object is not subscriptable"
  | needsIndex "str" => "string indices must be integers, not 'str'"
  | needsIndex kind => kind ++ " indices must be integers or slices, not str"
  | leftNoText "bytes" => "can't concat str to bytes"
  | leftNoText kind =>
    if kind = "list" || kind = "tuple" then
      "can only concatenate " ++ kind ++ " (not \"str\") to " ++ kind
    else "unsupported operand type(s) for +: '" ++ kind ++ "' and 'str'"
  | rightNoText kind => "can only concatenate str (not \"" ++ kind ++ "\") to str"
  | notHashable kind => "unhashable type: '" ++ kind ++ "'"

/-- Why a load fails. -/
inductive LoadError where
  /-- A catalog cannot be opened. -/
  | notOpened (catalog : List Char) (fault : OpenFault)
  /-- A catalog includes itself, through the others of the chain. -/
  | cycle (chain : List (List Char))
  /-- A catalog would be open inside of as many others as the limit allows. -/
  | tooDeep (catalog : List Char) (limit : Nat)
  /-- The text of a catalog cannot be understood. -/
  | format (catalog : List Char) (fault : FormatFault)
  /-- A context exceeds what a search can be built for. -/
  | context (error : ContextError)
  /-- A scalar does not keep what its tag promises. -/
  | scalar (fault : Document.ScalarFault)
  /-- An entry that was not checked is no entry. -/
  | entry (fault : EntryFault)
  deriving DecidableEq, Repr

namespace LoadError

/-- The error is one of the configuration, which a caller is meant to handle. -/
def isConfiguration : LoadError → Bool
  | notOpened _ fault => fault.isNotFound
  | cycle _ | tooDeep _ _ | format _ _ => true
  | context _ | scalar _ | entry _ => false

/-- Names with arrows between them. -/
def chainText (chain : List (List Char)) : List Char :=
  (" -> ".toList).intercalate chain

/-- The wording of a load error. -/
def message : LoadError → String
  | notOpened catalog fault =>
    if fault.isNotFound then
      "Unable to load rule catalog: " ++ String.ofList catalog ++
        match fault.reason? with
        | some reason => " (" ++ reason ++ ")"
        | none => ""
    else fault.reason?.getD ""
  | cycle chain => "Circular catalog include: " ++ String.ofList (chainText chain)
  | tooDeep catalog limit =>
    "Include depth " ++ toString limit ++ " exceeded while loading " ++ String.ofList catalog
  | format catalog fault =>
    "Invalid rule catalog " ++ String.ofList catalog ++ ": " ++ fault.detail
  | context error => error.message
  | scalar fault => fault.message
  | entry fault => fault.message

end LoadError

/-- The error of a rule whose context cannot be read: a format fault of its catalog, unless the
context exceeds what a search can be built for. -/
def LoadError.ofContext (catalog : List Char) (place : RulePlace) (e : ContextError) : LoadError :=
  match e.refusal with
  | .repetitionTooLarge | .conflictingAlphabets => .context e
  | _ => .format catalog (.context place e)

end PhoneticCatalog.Catalog
