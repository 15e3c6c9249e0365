import PhoneticCatalog.Context.Match
import PhoneticCatalog.Context.Reader

/-!
# Nodes of a document

A document is a tree of scalars, sequences and mappings, each with a tag that says what it stands
for. A scalar that is written plainly and has no tag gets one by its look (`Tag.ofPlain`): the looks
of each tag are given by an expression.
-/

namespace PhoneticCatalog.Document

/-- What a node stands for. -/
inductive Tag where
  | nothing
  | truth
  | integer
  | decimal
  | binary
  | timestamp
  | text
  | sequence
  | mapping
  | set
  | pairs
  | orderedMapping
  /-- The key whose value is merged into the mapping. -/
  | merge
  /-- The key whose value stands for the whole mapping. -/
  | value
  /-- A tag that stands for nothing known. -/
  | other
  deriving DecidableEq, Repr

namespace Tag

/-- What the names of known tags start with. -/
def commonStart : List Char := "tag:yaml.org,2002:".toList

/-- The names of known tags. -/
def names : List (String × Tag) :=
  [("null", nothing), ("bool", truth), ("int", integer), ("float", decimal), ("binary", binary),
   ("timestamp", timestamp), ("str", text), ("seq", sequence), ("map", mapping), ("set", set),
   ("pairs", pairs), ("omap", orderedMapping), ("merge", merge), ("value", value)]

/-- The tag with a name. -/
def ofName (name : List Char) : Tag :=
  if commonStart.isPrefixOf name then
    (names.lookup (String.ofList (name.drop commonStart.length))).getD other
  else other

/-- What plain scalars of a tag look like: the characters that they may start with, and an
expression for the whole of them. -/
structure Look where
  tag : Tag
  starts : List Char
  expression : String

/-- The expression for truth values. -/
def truthLook : String := String.join
  ["^(?:yes|Yes|YES|no|No|NO|true|True|TRUE|false|False|FALSE|on|On|ON|off|Off|OFF)$"]

/-- The expression for decimal numbers. -/
def decimalLook : String := String.join
  ["^(?:[-+]?(?:[0-9][0-9_]*)\\.[0-9_]*(?:[eE][-+][0-9]+)?",
   "|\\.[0-9][0-9_]*(?:[eE][-+][0-9]+)?",
   "|[-+]?[0-9][0-9_]*(?::[0-5]?[0-9])+\\.[0-9_]*",
   "|[-+]?\\.(?:inf|Inf|INF)",
   "|\\.(?:nan|NaN|NAN))$"]

/-- The expression for whole numbers. -/
def integerLook : String := String.join
  ["^(?:[-+]?0b[0-1_]+",
   "|[-+]?0[0-7_]+",
   "|[-+]?(?:0|[1-9][0-9_]*)",
   "|[-+]?0x[0-9a-fA-F_]+",
   "|[-+]?[1-9][0-9_]*(?::[0-5]?[0-9])+)$"]

/-- The expression for dates and times. -/
def timestampLook : String := String.join
  ["^(?:[0-9][0-9][0-9][0-9]-[0-9][0-9]-[0-9][0-9]",
   "|[0-9][0-9][0-9][0-9]-[0-9][0-9]?-[0-9][0-9]?(?:[Tt]|[ \\t]+)[0-9][0-9]?",
   ":[0-9][0-9]:[0-9][0-9](?:\\.[0-9]*)?(?:[ \\t]*(?:Z|[-+][0-9][0-9]?(?::[0-9][0-9])?))?)$"]

/-- The looks, in the order in which they are tried. A scalar that looks like one of the last ones
has a tag that stands for nothing. -/
def looks : List Look :=
  [⟨truth, "yYnNtTfFoO".toList, truthLook⟩,
   ⟨decimal, "-+0123456789.".toList, decimalLook⟩,
   ⟨integer, "-+0123456789".toList, integerLook⟩,
   ⟨merge, ['<'], "^(?:<<)$"⟩,
   ⟨nothing, ['~', 'n', 'N'], "^(?:~|null|Null|NULL)$"⟩,
   ⟨timestamp, "0123456789".toList, timestampLook⟩,
   ⟨value, ['='], "^(?:=)$"⟩,
   ⟨other, ['!', '&', '*'], "^(?:!|&|\\*)$"⟩]

/-- The looks with their expressions read. -/
def readLooks : List (Tag × List Char × Context.Search) :=
  looks.filterMap fun l => match Context.Search.read l.expression.toList with
    | .ok s => some (l.tag, l.starts, s)
    | .error _ => none

/-- The tag of a plain scalar: that of the first look that it has, or that of a text. An empty
scalar stands for nothing. -/
def ofPlain (s : List Char) : Tag :=
  match s with
  | [] => nothing
  | c :: _ =>
    match readLooks.find? fun (_, starts, search) => starts.contains c && search.occursIn s with
    | some (t, _, _) => t
    | none => text

end Tag

/-- Lists of nodes and lists of entries. -/
inductive Kind where
  | sequence
  | mapping
  deriving DecidableEq, Repr

/-- A node of a document. -/
inductive Node where
  | scalar (tag : Tag) (text : List Char)
  | sequence (tag : Tag) (items : List Node)
  | mapping (tag : Tag) (entries : List (Node × Node))
  /-- One of the collections that the node lies in. -/
  | enclosing (kind : Kind)

namespace Node

/-- The tag of a node. -/
def tag : Node → Tag
  | scalar t _ => t
  | sequence t _ => t
  | mapping t _ => t
  | enclosing .sequence => .sequence
  | enclosing .mapping => .mapping

end Node

end PhoneticCatalog.Document
