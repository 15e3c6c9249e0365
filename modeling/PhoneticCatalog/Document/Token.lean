import PhoneticCatalog.Document.Fault

/-!
# Tokens of a document

The signs that a document is made of. Where a collection is written by indentation alone, tokens for
its start and its end stand in place of the signs that are not written.
-/

namespace PhoneticCatalog.Document

/-- A line about a document that stands before it. -/
inductive Directive where
  /-- The version of the language. -/
  | version (major minor : Nat)
  /-- What a handle of tags stands for. -/
  | handle (name meaning : List Char)
  /-- Some other directive. -/
  | other
  deriving DecidableEq, Repr

/-- A sign of a document. -/
inductive Token where
  | directive (d : Directive)
  | documentStart
  | documentEnd
  | blockSequenceStart
  | blockMappingStart
  | blockEnd
  | flowSequenceStart
  | flowSequenceEnd
  | flowMappingStart
  | flowMappingEnd
  | flowEntry
  | blockEntry
  | key
  | value
  | alias (name : List Char)
  | anchor (name : List Char)
  /-- A tag: the meaning of its handle, if it has one, goes before the rest of it. -/
  | tag (handle : Option (List Char)) (rest : List Char)
  /-- A scalar. Only plain ones can be other than text. -/
  | scalar (isPlain : Bool) (text : List Char)
  /-- The text cannot be read from here on. -/
  | unreadable (fault : ReadFault)
  deriving DecidableEq, Repr

end PhoneticCatalog.Document
