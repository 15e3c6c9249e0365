import PhoneticCatalog.Document.Node
import PhoneticCatalog.Document.Timestamp
import PhoneticCatalog.Table
import PhoneticCatalog.Text.Binary64
import PhoneticCatalog.Text.Quoted

/-!
# Values of a document

What the nodes of a document stand for: nothing, truth values, numbers, texts, bytes, points in
time, and lists, sets and mappings of values. `Value.alike` says when two keys of a mapping are the
same, and `Value.shown` is how a value is shown in a message.
-/

namespace PhoneticCatalog.Document

/-- A value of a document. -/
inductive Value where
  | nothing
  | truth (b : Bool)
  | integer (n : Int)
  | decimal (x : Text.Binary64)
  | text (s : List Char)
  | bytes (b : List UInt8)
  | time (t : Timestamp)
  | list (items : List Value)
  /-- An entry of a list of pairs. -/
  | pair (key value : Value)
  | set (members : List Value)
  | mapping (entries : List (Value × Value))
  /-- One of the collections that the value lies in. -/
  | enclosing (kind : Kind)

instance : Inhabited Value := ⟨.nothing⟩

namespace Value

/-- The number that a value counts as among the keys of a mapping: a quotient, if it is finite. -/
def number? : Value → Option (Int × Nat)
  | truth b => some (if b then 1 else 0, 1)
  | integer n => some (n, 1)
  | decimal x => x.ratio?
  | _ => none

/-- Two values are the same key of a mapping. Numbers of all kinds are compared as numbers. -/
def alike (v w : Value) : Bool :=
  match v.number?, w.number? with
  | some (a, b), some (c, d) => a * d = c * b
  | none, none =>
    match v, w with
    | nothing, nothing => true
    | decimal x, decimal y => x = y
    | text s, text t => s = t
    | bytes b, bytes c => b = c
    | time s, time t => s = t
    | _, _ => false
  | _, _ => false

instance : BEq Value := ⟨alike⟩

/-- The name of the kind of a value. -/
def kindName : Value → String
  | nothing => "NoneType"
  | truth _ => "bool"
  | integer _ => "int"
  | decimal _ => "float"
  | text _ => "str"
  | bytes _ => "bytes"
  | time t => t.kindName
  | list _ | enclosing .sequence => "list"
  | pair .. => "tuple"
  | set _ => "set"
  | mapping _ | enclosing .mapping => "dict"

/-- The value of a text among the keys of a mapping. -/
def entry? (entries : List (Value × Value)) (key : List Char) : Option Value :=
  (entries.find? fun e => match e.1 with | text s => s = key | _ => false).map (·.2)

/-! ## Showing -/

/-- A byte as it stands between the quotes `q`. -/
def shownByte (q : Char) (b : UInt8) : List Char :=
  let c := Char.ofNat b.toNat
  if c = q || c = '\\' then ['\\', c]
  else if c = '\t' then ['\\', 't']
  else if c = '\n' then ['\\', 'n']
  else if c = '\r' then ['\\', 'r']
  else if 0x20 ≤ b.toNat && b.toNat < 0x7f then [c]
  else '\\' :: 'x' :: Text.hexDigits 2 b.toNat

/-- Bytes as they are shown. -/
def shownBytes (b : List UInt8) : List Char :=
  let q := Text.Quoted.quoteFor (b.map fun b => Char.ofNat b.toNat)
  'b' :: q :: b.flatMap (shownByte q) ++ [q]

mutual

/-- A value as it is shown. -/
def shown : Value → List Char
  | nothing => "None".toList
  | truth b => (if b then "True" else "False").toList
  | integer n => (toString n).toList
  | decimal x => x.shown
  | text s => Text.quote s
  | bytes b => shownBytes b
  | time t => t.shown.toList
  | list items => '[' :: Text.commas (shownItems items) ++ [']']
  | pair k v => '(' :: k.shown ++ ", ".toList ++ v.shown ++ [')']
  | set [] => "set()".toList
  | set (m :: ms) => '\x7b' :: Text.commas (m.shown :: shownItems ms) ++ ['\x7d']
  | mapping entries => '\x7b' :: Text.commas (shownEntries entries) ++ ['\x7d']
  | enclosing .sequence => "[...]".toList
  | enclosing .mapping => "\x7b...\x7d".toList

/-- Values as they are shown. -/
def shownItems : List Value → List (List Char)
  | [] => []
  | v :: rest => v.shown :: shownItems rest

/-- Entries of a mapping as they are shown. -/
def shownEntries : List (Value × Value) → List (List Char)
  | [] => []
  | (k, v) :: rest => (k.shown ++ ": ".toList ++ v.shown) :: shownEntries rest

end

end Value

end PhoneticCatalog.Document
